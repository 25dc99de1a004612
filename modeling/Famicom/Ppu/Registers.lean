import Famicom.Byte

namespace Famicom

structure PpuControl where
  byte : UInt8 := 0
  deriving DecidableEq, Inhabited

namespace PpuControl

def nametableX (control : PpuControl) : Bool := control.byte.bit 0

def nametableY (control : PpuControl) : Bool := control.byte.bit 1

def addressStep (control : PpuControl) : Nat := if control.byte.bit 2 then 32 else 1

def spriteTable (control : PpuControl) : Nat := if control.byte.bit 3 then 0x1000 else 0

def backgroundTable (control : PpuControl) : Nat := if control.byte.bit 4 then 0x1000 else 0

def spriteHeight (control : PpuControl) : Nat := if control.byte.bit 5 then 16 else 8

def nmiEnabled (control : PpuControl) : Bool := control.byte.bit 7

end PpuControl

structure PpuMask where
  byte : UInt8 := 0
  deriving DecidableEq, Inhabited

namespace PpuMask

def greyscale (mask : PpuMask) : Bool := mask.byte.bit 0

def showBackground (mask : PpuMask) : Bool := mask.byte.bit 3

def showSprites (mask : PpuMask) : Bool := mask.byte.bit 4

def rendering (mask : PpuMask) : Bool := mask.showBackground || mask.showSprites

def backgroundAt (mask : PpuMask) (column : Nat) : Bool :=
  mask.showBackground && (decide (8 ≤ column) || mask.byte.bit 1)

def spritesAt (mask : PpuMask) (column : Nat) : Bool :=
  mask.showSprites && (decide (8 ≤ column) || mask.byte.bit 2)

end PpuMask

structure PpuStatus where
  vblank : Bool := false
  spriteZeroHit : Bool := false
  spriteOverflow : Bool := false
  deriving DecidableEq, Inhabited

namespace PpuStatus

def toByte (status : PpuStatus) : UInt8 :=
  UInt8.ofNat (status.vblank.toNat * 0x80 + status.spriteZeroHit.toNat * 0x40 +
    status.spriteOverflow.toNat * 0x20)

end PpuStatus

end Famicom
