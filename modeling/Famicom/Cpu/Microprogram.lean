import Famicom.Byte

/-!
A microprogram is what the processor does on the bus, cycle by cycle: idle for a cycle, read a byte,
or write one. Every step but the last takes one bus cycle, and what follows a read depends only on
the byte read. An instruction is a microprogram that ends with the registers after it.
-/

namespace Famicom

/-- What a read yields where nothing drives the bus: the byte last transferred, or the high byte of
the address, which then counts as transferred. -/
inductive OpenBusRule
  | latch
  | addressHigh
  deriving DecidableEq, Inhabited

inductive Microprogram (Result : Type) where
  | done (result : Result)
  | idle (next : Microprogram Result)
  | load (address : UInt16) (rule : OpenBusRule) (next : UInt8 → Microprogram Result)
  | store (address : UInt16) (data : UInt8) (next : Microprogram Result)

namespace Microprogram

variable {First Second : Type}

def bind : Microprogram First → (First → Microprogram Second) → Microprogram Second
  | done result, continuation => continuation result
  | idle next, continuation => idle (next.bind continuation)
  | load address rule next, continuation =>
      load address rule fun data => (next data).bind continuation
  | store address data next, continuation => store address data (next.bind continuation)

instance : Monad Microprogram where
  pure := done
  bind := bind

def wait : Microprogram Unit := idle (done ())

def read (address : UInt16) (rule : OpenBusRule := .latch) : Microprogram UInt8 :=
  load address rule done

def write (address : UInt16) (data : UInt8) : Microprogram Unit := store address data (done ())

def readWord (address : UInt16) : Microprogram UInt16 := do
  let low ← read address
  let high ← read (address + 1)
  return UInt16.ofBytes low high

end Microprogram

end Famicom
