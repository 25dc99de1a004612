import Famicom.Memory
import Famicom.Residue

/-!
Sprite evaluation: during a visible line the first eight sprites of the next line are copied into
secondary memory, one access per dot, odd dots reading and even dots writing. The read pointer is
the object address that programs set, so evaluation starts wherever they left it.
-/

namespace Famicom

inductive EvaluationPhase
  | scan
  | copy (remaining : Nat)
  | overflow
  | finished
  deriving DecidableEq, Inhabited

structure Evaluation where
  secondary : Memory 0x20 := Memory.fill 0x20 0xff
  pointer : Nat := 0
  latch : UInt8 := 0
  phase : EvaluationPhase := .scan
  first : Bool := true
  wrapped : Bool := false
  zeroFound : Bool := false
  /-- A byte was written past the end of secondary memory. No machine does anything defined after
  that, so the flag never falls again. -/
  overrun : Bool := false

namespace Evaluation

def row (evaluation : Evaluation) : Fin 32 := residue 32 evaluation.pointer

def restart (evaluation : Evaluation) : Evaluation :=
  { evaluation with
    pointer := 0, phase := .scan, first := true, wrapped := false, zeroFound := false }

def clear (evaluation : Evaluation) (dot : Nat) : Evaluation :=
  if dot % 2 = 1 then evaluation
  else
    let cell := residue 32 (dot / 2 - 1)
    let cleared := { evaluation with
      pointer := cell.val, secondary := evaluation.secondary.write cell 0xff }
    if dot = 64 then cleared.restart else cleared

def store (evaluation : Evaluation) : Evaluation :=
  if inside : evaluation.pointer < 0x20 then
    { evaluation with
      secondary := evaluation.secondary.write ⟨evaluation.pointer, inside⟩ evaluation.latch }
  else { evaluation with overrun := true }

/-- Whether a sprite whose first byte is `top` shows on the line after `line`. -/
def onLine (top : UInt8) (line height : Nat) : Bool :=
  decide (top.toNat ≤ line) && decide (line < top.toNat + height)

def step (address : UInt8) (distance : Nat) : UInt8 × Bool :=
  (address + UInt8.ofNat distance, decide (0x100 ≤ address.toNat + distance))

structure Progress where
  evaluation : Evaluation
  address : UInt8
  overflow : Bool := false

def scan (evaluation : Evaluation) (address : UInt8) (found : Bool) : Progress :=
  let stored := evaluation.store
  if found then
    let (address, carry) := step address 1
    { address
      evaluation := { stored with
        zeroFound := stored.zeroFound || stored.first
        pointer := stored.pointer + 1
        phase := .copy 3
        wrapped := stored.wrapped || carry
        first := false } }
  else
    let (address, carry) := step address 4
    { address
      evaluation := { stored with
        phase := if carry then .finished else .scan
        first := false } }

def copyByte (evaluation : Evaluation) (address : UInt8) (remaining : Nat) : Progress :=
  let stored := evaluation.store
  let (address, carry) := step address 1
  let pointer := stored.pointer + 1
  let wrapped := stored.wrapped || carry
  let phase :=
    if 1 < remaining then .copy (remaining - 1)
    else if wrapped then .finished
    else if pointer = 0x20 then .overflow
    else .scan
  { address, evaluation := { stored with pointer, wrapped, phase } }

/-- The search for a ninth sprite steps the byte within a sprite without carrying into the
sprite. -/
def seekOverflow (evaluation : Evaluation) (address : UInt8) (found : Bool) : Progress :=
  if found then { address, evaluation := { evaluation with phase := .finished }, overflow := true }
  else
    let sprite := address.toNat / 4 + 1
    let byte := (address.toNat + 1) % 4
    { address := UInt8.ofNat (sprite * 4 + byte)
      evaluation := if sprite = 0x40 then { evaluation with phase := .finished } else evaluation }

def run (evaluation : Evaluation) (objects : Memory 0x100) (address : UInt8)
    (dot line height : Nat) : Progress :=
  if dot % 2 = 1 then
    { address
      evaluation := { evaluation with latch := objects.read ⟨address.toNat, address.toNat_lt⟩ } }
  else
    let found := onLine evaluation.latch line height
    match evaluation.phase with
    | .scan => evaluation.scan address found
    | .copy remaining => evaluation.copyByte address remaining
    | .overflow => evaluation.seekOverflow address found
    | .finished =>
        { evaluation, address := UInt8.ofNat (address.toNat / 4 * 4 + 4) }

end Evaluation

end Famicom
