import Famicom.Proofs.Cpu.BreakFlag
import Famicom.Proofs.Cpu.StackPairs

/-!
Runs in which the pairs of operations on the stack are nested. Up to 256 bytes deep, whatever the
stack pointer and wherever it wraps around, each pair finds what it has saved. Main statement:
`Nesting.closing_restores`.
-/

namespace Famicom

attribute [local irreducible] Bus.tick

/-- A step, or something that happens between two steps: a request of an interrupt, or any operation
of the bus. -/
inductive Move
  | step
  | requestNmi
  | pollIrq (line : Bool)
  | bus (operation : BusOperation)

namespace Move

def apply (machine : Machine) : Move → Machine
  | step => machine.step.2
  | requestNmi => machine.setNmi
  | pollIrq line => machine.pollIrq line
  | bus operation => { machine with bus := operation.apply machine.bus }

def busCycles (machine : Machine) : Move → List BusCycle
  | step => machine.busCycles
  | bus operation => operation.busCycles machine.bus
  | requestNmi | pollIrq _ => []

def run (machine : Machine) (moves : List Move) : Machine := moves.foldl apply machine

def Spare : Machine → List Move → Prop
  | _, [] => True
  | machine, move :: rest =>
      (∀ cycle ∈ move.busCycles machine, ¬ cycle.WritesStack) ∧ Spare (move.apply machine) rest

instance decidableSpare : (machine : Machine) → (moves : List Move) →
    Decidable (Spare machine moves)
  | _, [] => inferInstanceAs (Decidable True)
  | machine, move :: rest =>
      have := decidableSpare (move.apply machine) rest
      inferInstanceAs (Decidable (_ ∧ _))

theorem apply_stackByte {machine : Machine} {move : Move}
    (spares : ∀ cycle ∈ move.busCycles machine, ¬ cycle.WritesStack) (cell : UInt8) :
    (move.apply machine).stackByte cell = machine.stackByte cell := by
  cases move with
  | step =>
      have replayed := BusCycle.replay_stack machine.bus spares cell
      rw [busCycles, Machine.replay_busCycles] at replayed
      exact replayed
  | requestNmi => rfl
  | pollIrq line => rfl
  | bus operation =>
      have replayed := BusCycle.replay_stack machine.bus spares cell
      rw [busCycles, ← BusOperation.apply_ram] at replayed
      exact replayed

theorem apply_brk {machine : Machine} (clear : machine.flags.brk = false) (move : Move) :
    (move.apply machine).flags.brk = false := by
  cases move with
  | step => exact Machine.step_brk clear
  | requestNmi => exact clear
  | pollIrq line => exact clear
  | bus operation => exact clear

theorem run_stackByte {machine : Machine} {moves : List Move} (spare : Spare machine moves)
    (cell : UInt8) : (run machine moves).stackByte cell = machine.stackByte cell := by
  induction moves generalizing machine with
  | nil => rfl
  | cons move rest continues =>
      exact (continues spare.2).trans (apply_stackByte spare.1 cell)

theorem run_brk {machine : Machine} (clear : machine.flags.brk = false) (moves : List Move) :
    (run machine moves).flags.brk = false := by
  induction moves generalizing machine with
  | nil => exact clear
  | cons move rest continues => exact continues (apply_brk clear move)

end Move

/-! ## What a run leaves on the stack -/

structure Machine.KeepsStack (depth : Nat) (before after : Machine) : Prop where
  sp : after.sp = before.sp
  above : ∀ cell, depth ≤ (before.sp - cell).toNat →
    after.stackByte cell = before.stackByte cell
  brk : before.flags.brk = false → after.flags.brk = false

namespace Machine.KeepsStack

variable {depth deeper : Nat} {before between after : Machine}

theorem mono (keeps : KeepsStack depth before after) (le : depth ≤ deeper) :
    KeepsStack deeper before after where
  sp := keeps.sp
  above cell outside := keeps.above cell (Nat.le_trans le outside)
  brk := keeps.brk

theorem trans (first : KeepsStack depth before between) (second : KeepsStack depth between after) :
    KeepsStack depth before after where
  sp := second.sp.trans first.sp
  above cell outside :=
    (second.above cell (by rwa [first.sp])).trans (first.above cell outside)
  brk clear := second.brk (first.brk clear)

theorem ofMoves {moves : List Move} (spare : Move.Spare before moves)
    (balanced : (Move.run before moves).sp = before.sp) :
    KeepsStack depth before (Move.run before moves) where
  sp := balanced
  above cell _ := Move.run_stackByte spare cell
  brk clear := Move.run_brk clear moves

section Pair

variable {pair : StackPair}

theorem opened_stackByte (opens : pair.Opens before) (cell : UInt8) :
    before.step.2.stackByte cell =
      (pair.saved before)[(before.sp - cell).toNat]?.getD (before.stackByte cell) := by
  have room : (pair.saved before).length ≤ 256 := by
    rw [pair.length_saved]
    exact Nat.le_trans pair.size_le (by decide)
  rw [stackByte, (StackPair.opens_step opens).2, Registers.read_pushBytes _ _ room]
  rfl

variable (opens : pair.Opens before) (keeps : KeepsStack depth before.step.2 between)
include opens keeps

theorem pulled_eq_saved (fits : pair.size + depth ≤ 256) :
    StackPair.pulled between pair.size = pair.saved before := by
  have opened := (StackPair.opens_step opens).1
  apply List.ext_getElem
  · rw [pair.length_saved]
    simp [StackPair.pulled]
  intro index inside _
  have below : index < pair.size := by simpa [StackPair.pulled] using inside
  have few := pair.size_le
  have bound := before.sp.toNat_lt
  let cell := between.sp + UInt8.ofNat (pair.size - index)
  have place : (before.sp - cell).toNat = index := by
    simp only [cell, keeps.sp, opened, UInt8.toNat_sub, UInt8.toNat_add, UInt8.toNat_ofNat']
    omega
  have outside : depth ≤ (before.step.2.sp - cell).toNat := by
    simp only [cell, keeps.sp, opened, UInt8.toNat_sub, UInt8.toNat_add, UInt8.toNat_ofNat']
    omega
  have found : between.stackByte cell = (pair.saved before)[index] := by
    rw [keeps.above cell outside, opened_stackByte opens, place, List.getElem?_eq_getElem]
    rfl
  simpa [StackPair.pulled] using found

theorem ofPair (closes : pair.Closes between) :
    KeepsStack (pair.size + depth) before between.step.2 := by
  have opened := (StackPair.opens_step opens).1
  obtain ⟨closed, ram, -⟩ := StackPair.closes_step closes
  have few := pair.size_le
  have bound := before.sp.toNat_lt
  refine ⟨?_, ?_, fun clear => step_brk (keeps.brk (step_brk clear))⟩
  · rw [closed, keeps.sp, opened, UInt8.sub_add_cancel]
  · intro cell outside
    have cellBound := cell.toNat_lt
    have inner : depth ≤ (before.step.2.sp - cell).toNat := by
      rw [opened]
      simp only [UInt8.toNat_sub, UInt8.toNat_ofNat'] at outside ⊢
      omega
    have untouched : (pair.saved before).length ≤ (before.sp - cell).toNat := by
      rw [pair.length_saved]
      omega
    calc between.step.2.stackByte cell
      _ = between.stackByte cell := by rw [stackByte, ram, stackByte]
      _ = before.step.2.stackByte cell := keeps.above cell inner
      _ = before.stackByte cell := by
        rw [opened_stackByte opens, List.getElem?_eq_none untouched, Option.getD_none]

end Pair

end Machine.KeepsStack

/-! ## Nested runs -/

/-- A well-nested run: moves that leave the stack alone, two runs one after the other, or a run
between the halves of a pair. -/
inductive Nesting
  | moves (moves : List Move)
  | append (first second : Nesting)
  | pair (kind : StackPair) (inner : Nesting)

namespace Nesting

def run : Nesting → Machine → Machine
  | moves list, machine => Move.run machine list
  | append first second, machine => second.run (first.run machine)
  | pair _ inner, machine => (inner.run machine.step.2).step.2

def depth : Nesting → Nat
  | moves _ => 0
  | append first second => max first.depth second.depth
  | pair kind inner => kind.size + inner.depth

/-- The machine runs through the nesting: the halves of its pairs are the steps that come next, and
the moves between them neither write to the stack nor leave the stack pointer elsewhere. -/
def Follows : Nesting → Machine → Prop
  | moves list, machine =>
      Move.Spare machine list ∧ (Move.run machine list).sp = machine.sp
  | append first second, machine => first.Follows machine ∧ second.Follows (first.run machine)
  | pair kind inner, machine =>
      kind.Opens machine ∧ inner.Follows machine.step.2 ∧
        kind.Closes (inner.run machine.step.2)

instance decidableFollows : (nesting : Nesting) → (machine : Machine) →
    Decidable (nesting.Follows machine)
  | moves _, _ => inferInstanceAs (Decidable (_ ∧ _))
  | append first second, machine =>
      have := decidableFollows first machine
      have := decidableFollows second (first.run machine)
      inferInstanceAs (Decidable (_ ∧ _))
  | pair _ inner, machine =>
      have := decidableFollows inner machine.step.2
      inferInstanceAs (Decidable (_ ∧ _ ∧ _))

/-- Each closing half brings back what its opening half has saved, and the stack pointer. -/
def Restores : Nesting → Machine → Prop
  | moves _, _ => True
  | append first second, machine => first.Restores machine ∧ second.Restores (first.run machine)
  | pair kind inner, machine =>
      let closed := (inner.run machine.step.2).step.2
      kind.Restored machine.cpu.registers closed.cpu.registers ∧ closed.sp = machine.sp ∧
        inner.Restores machine.step.2

theorem keepsStack {nesting : Nesting} {machine : Machine} (follows : nesting.Follows machine) :
    machine.KeepsStack nesting.depth (nesting.run machine) := by
  induction nesting generalizing machine with
  | moves list => exact .ofMoves follows.1 follows.2
  | append first second firstKeeps secondKeeps =>
      exact ((firstKeeps follows.1).mono (Nat.le_max_left _ _)).trans
        ((secondKeeps follows.2).mono (Nat.le_max_right _ _))
  | pair kind inner innerKeeps =>
      obtain ⟨opens, between, closes⟩ := follows
      exact .ofPair opens (innerKeeps between) closes

/-- Whatever runs between the halves of a pair, as long as it is nested and its moves spare the
stack, the pair restores what it has saved; so do all pairs inside it. -/
theorem closing_restores (nesting : Nesting) (machine : Machine)
    (clear : machine.flags.brk = false) (follows : nesting.Follows machine)
    (fits : nesting.depth ≤ 256) :
    nesting.Restores machine ∧ (nesting.run machine).sp = machine.sp := by
  refine ⟨?_, (keepsStack follows).sp⟩
  induction nesting generalizing machine with
  | moves list => exact trivial
  | append first second firstRestores secondRestores =>
      rw [depth, Nat.max_le] at fits
      exact ⟨firstRestores machine clear follows.1 fits.1,
        secondRestores _ ((keepsStack follows.1).brk clear) follows.2 fits.2⟩
  | pair kind inner innerRestores =>
      have whole := keepsStack follows
      obtain ⟨opens, between, closes⟩ := follows
      rw [depth] at fits
      obtain ⟨-, -, holds⟩ := StackPair.closes_step closes
      rw [Machine.KeepsStack.pulled_eq_saved opens (keepsStack between) fits] at holds
      exact ⟨StackPair.restored_of_holds clear holds, whole.sp,
        innerRestores _ (Machine.step_brk clear) between (by omega)⟩

/-- A routine that is called saves the flags and the accumulator, loads the latter and is
interrupted; the handler returns at once. -/
def interruptedCall : Nesting :=
  .pair .call (.pair .flags (.pair .accumulator
    (.append (.moves [.step, .requestNmi]) (.pair .interrupt (.moves [])))))

def beforeCall : Machine where
  cpu := { registers := { pc := 0x10, sp := 0x01, a := 0x55, p := { carry := true } } }
  bus :=
    let program : List (Fin 0x800 × UInt8) :=
      [(0x00, 0x40), (0x10, 0x20), (0x11, 0x20), (0x12, 0x00), (0x20, 0x08), (0x21, 0x48),
        (0x22, 0xa9), (0x23, 0x80), (0x24, 0x68), (0x25, 0x28), (0x26, 0x60)]
    { Bus.new { Cartridge.empty with prgRom := Chip.fill 1 0 (by decide) } with
      ram := program.foldl (fun ram (cell, byte) => ram.write cell byte) (Memory.fill 0x800 0) }

theorem interruptedCall_restores :
    (interruptedCall.Follows beforeCall ∧ interruptedCall.depth = 7) ∧
      interruptedCall.Restores beforeCall ∧ (interruptedCall.run beforeCall).sp = 0x01 := by
  have follows : interruptedCall.Follows beforeCall := by decide +kernel
  exact ⟨⟨follows, rfl⟩, closing_restores interruptedCall beforeCall rfl follows (by decide)⟩

end Nesting

end Famicom
