import Famicom.Byte
import Famicom.Residue

namespace Famicom

structure LengthCounter where
  remaining : UInt8 := 0
  enabled : Bool := false
  halted : Bool := false
  deriving DecidableEq, Inhabited

namespace LengthCounter

def lengths : Vector UInt8 32 := #v[
  10, 254, 20, 2, 40, 4, 80, 6, 160, 8, 60, 10, 14, 12, 26, 14,
  12, 16, 24, 18, 48, 20, 96, 22, 192, 24, 72, 26, 16, 28, 32, 30]

def active (counter : LengthCounter) : Bool := counter.remaining != 0

def clock (counter : LengthCounter) : LengthCounter :=
  if counter.halted || counter.remaining == 0 then counter
  else { counter with remaining := counter.remaining - 1 }

def setEnabled (counter : LengthCounter) (enabled : Bool) : LengthCounter :=
  { counter with enabled, remaining := if enabled then counter.remaining else 0 }

def load (counter : LengthCounter) (data : UInt8) : LengthCounter :=
  if counter.enabled then
    { counter with remaining := lengths.get (residue 32 (data.toNat / 8)) }
  else counter

end LengthCounter

end Famicom
