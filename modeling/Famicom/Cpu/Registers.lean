import Famicom.Cpu.Flags
import Famicom.Numeral

namespace Famicom

structure Registers where
  a : UInt8 := 0
  x : UInt8 := 0
  y : UInt8 := 0
  pc : UInt16 := 0
  sp : UInt8 := 0xff
  p : Flags := {}
  deriving DecidableEq, Inhabited

namespace Registers

def loadA (registers : Registers) (value : UInt8) : Registers :=
  { registers with a := value, p := registers.p.setZeroNegative value }

def loadX (registers : Registers) (value : UInt8) : Registers :=
  { registers with x := value, p := registers.p.setZeroNegative value }

def loadY (registers : Registers) (value : UInt8) : Registers :=
  { registers with y := value, p := registers.p.setZeroNegative value }

def describe (registers : Registers) : String :=
  let byte (value : UInt8) := Numeral.hex 4 value.toNat
  String.join ["CpuStatus \x7b a: ", byte registers.a, ", x: ", byte registers.x, ", y: ",
    byte registers.y, ", pc: ", Numeral.hex 4 registers.pc.toNat, ", sp: ", byte registers.sp,
    ", p: ", registers.p.text, " \x7d"]

end Registers

end Famicom
