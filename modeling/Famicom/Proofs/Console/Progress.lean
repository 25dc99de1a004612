import Famicom.Proofs.Bus.Passage
import Famicom.Proofs.Bus.Transfer
import Famicom.Proofs.Console.PowerUp
import Mathlib.Logic.Function.Iterate

/-!
Every step of a console takes some cycles, and never as many as a frame has. So the picture unit
moves on with every step, and to the next frame at most.
-/

namespace Famicom

attribute [local irreducible] Bus.tick

/-! ## Cycles of one step -/

namespace Instruction

theorem short_table : ∀ place ∈ table.toList.zipIdx, ∀ instruction ∈ place.1,
    instruction.cycles ≤ 8 := by
  decide +kernel

theorem cycles_le_of_decode {opcode : UInt8} {instruction : Instruction}
    (decoded : decode opcode = some instruction) : instruction.cycles ≤ 8 :=
  of_table (fun _ instruction => instruction.cycles ≤ 8) short_table decoded

theorem penalty_le (instruction : Instruction) (opcode : UInt8) (registers : Registers)
    (bus : Bus) : instruction.penalty opcode registers bus ≤ 2 := by
  unfold penalty
  dsimp only
  split
  · split <;> omega
  · split
    · split_ifs <;> omega
    · omega

end Instruction

namespace Machine

theorem instructionCycles_length {machine : Machine} {instruction : Instruction}
    (regular : instruction.Regular machine.fetchedOpcode) :
    (machine.instructionCycles instruction).length =
      instruction.cycles + machine.penalty instruction := by
  have fits := work_length_le regular
  rw [instructionCycles, List.length_append, List.length_replicate]
  omega

theorem step_count {machine : Machine} {count : Nat} (ran : machine.step.1 = .ok count) :
    machine.busCycles.length = count ∧ 1 ≤ count ∧ count ≤ 10 := by
  unfold busCycles
  cases nmi : machine.cpu.nmiPending with
  | true =>
      rw [step_of_nmiPending nmi, interrupt_count] at ran
      cases ran
      exact ⟨rfl, by decide, by decide⟩
  | false =>
      cases irq : machine.cpu.irqPending with
      | true =>
          rw [step_of_irqPending nmi irq, interrupt_count] at ran
          cases ran
          exact ⟨rfl, by decide, by decide⟩
      | false =>
          obtain ⟨instruction, decoded, stepped⟩ := step_ok_cases ⟨nmi, irq⟩ ran
          have regular := Instruction.regular_of_decode decoded
          have counted : instruction.cycles + machine.penalty instruction = count := by
            rw [stepped, execute_count regular, Except.ok.injEq] at ran
            exact ran
          have some := regular.fits
          have few := Instruction.cycles_le_of_decode decoded
          have owed : machine.penalty instruction ≤ 2 := instruction.penalty_le _ _ _
          rw [step_of_uninterrupted ⟨nmi, irq⟩] at ran
          unfold Instruction.shortestCycles at some
          cases peeked : Instruction.decode machine.peekedOpcode with
          | none => simp [peeked] at ran
          | some expected =>
              simp only [decoded, Bool.false_eq_true, if_false, instructionCycles_length regular]
              omega

end Machine

namespace Console

structure Clocked (console : Console) : Prop where
  inside : console.bus.ppu.beam.Inside
  requested : ∃ history, console.bus.Requested history

theorem clocked_new (cartridge : Cartridge) : (new cartridge).Clocked := by
  have corner : (Bus.new cartridge).ppu.beam.Inside := ⟨Nat.zero_le 261, Nat.zero_le 340⟩
  constructor
  · rw [bus_new]
    exact (BusCycle.passed_replay corner _).inside
  · rw [bus_new]
    exact ⟨_, (Bus.requested_new cartridge false).replay _⟩

theorem Clocked.count {console : Console} (clocked : console.Clocked) {cycles : Nat}
    (live : console.halted = none) (ran : (advance console.machine).1 = .ok cycles) :
    console.busCycles.length = cycles ∧ 1 ≤ cycles ∧ cycles ≤ 514 := by
  unfold busCycles
  rw [live]
  by_cases transfers : console.Transfers
  · obtain ⟨transfer, waiting⟩ := Option.isSome_iff_exists.mp transfers
    obtain ⟨history, requested⟩ := clocked.requested
    obtain ⟨before, _, _, _, delay⟩ := requested.last transfer waiting
    have length := Bus.transferCycles_length waiting
    rw [advance_of_transfers transfers, Bus.runTransfer_fst, Except.ok.injEq] at ran
    simp only [transfers, if_true]
    omega
  · rw [advance_of_not_transfers transfers] at ran
    obtain ⟨length, some, few⟩ := Machine.step_count ran
    simp only [transfers, if_false]
    exact ⟨length, some, by omega⟩

structure Advances (console : Console) (cycles : Nat) : Prop where
  clocked : console.step.2.Clocked
  some : 1 ≤ cycles
  few : cycles ≤ 514
  counted : console.step.2.bus.cycles = console.bus.cycles + cycles
  passed : console.bus.ppu.beam.Passed (3 * cycles) console.step.2.bus.ppu.beam

theorem Clocked.advances {console : Console} (clocked : console.Clocked) {cycles : Nat}
    (ran : console.step.1 = .ok cycles) : console.Advances cycles := by
  obtain ⟨live, count, advanced, stepped⟩ := step_of_succeeds ⟨cycles, ran⟩
  have same : count = cycles := by
    rw [stepped, Except.ok.injEq] at ran
    exact ran
  subst same
  obtain ⟨length, some, few⟩ := clocked.count live advanced
  have moved := advance_bus live
  have passed := BusCycle.passed_replay clocked.inside console.busCycles
  have cycles := BusCycle.replay_cycles console.bus console.busCycles
  obtain ⟨history, requested⟩ := clocked.requested
  have later := requested.replay console.busCycles
  rw [length] at passed cycles
  -- After its cycles a step only takes the edge of the request and ends the transfer it has run.
  have bus : console.step.2.bus = { BusCycle.replay console.bus console.busCycles with
      transfer := if console.Transfers then none
        else (BusCycle.replay console.bus console.busCycles).transfer
      ppu := { (BusCycle.replay console.bus console.busCycles).ppu with nmiEdge := false } } := by
    rw [stepped]
    simp only [Console.bus, carryRequests_eq]
    rw [moved]
    rfl
  refine ⟨⟨?_, history ++ console.busCycles, ?_⟩, some, few, ?_, ?_⟩
  · rw [bus]
    exact passed.inside
  · refine later.weaken ?_ ?_
    · rw [bus]
      rfl
    · rw [bus]
      dsimp only
      split
      · exact .inl rfl
      · exact .inr rfl
  · rw [bus]
    exact cycles
  · rw [bus]
    exact passed

structure Awake (console : Console) : Prop where
  unpaused : console.paused = false
  unasked : console.bus.published.stopRequested = false

theorem marked_self (console : Console) :
    console.marked console.paused console.bus.published.stopRequested = console := rfl

theorem Awake.step {console : Console} (awake : console.Awake) : console.step.2.Awake := by
  have same := console.step_marked console.paused console.bus.published.stopRequested
  rw [marked_self] at same
  have kept : console.step.2 = console.step.2.marked false false := by
    rw [awake.unpaused, awake.unasked] at same
    exact congrArg Prod.snd same
  rw [kept]
  exact ⟨rfl, rfl⟩

theorem awake_new (cartridge : Cartridge) : (new cartridge).Awake := by
  have same : Machine.new cartridge = (Machine.new cartridge).setStopRequested false :=
    Machine.resetCpu_setStopRequested false (Bus.new cartridge)
  refine ⟨rfl, ?_⟩
  show (Machine.new cartridge).bus.published.stopRequested = false
  rw [same]
  rfl

/-! ## Many steps -/

def steps (console : Console) (count : Nat) : Console :=
  (fun console => console.step.2)^[count] console

def Runs (console : Console) (count : Nat) : Prop := ∀ i < count, (console.steps i).Succeeds

theorem steps_succ (console : Console) (count : Nat) :
    console.steps (count + 1) = console.step.2.steps count := rfl

theorem steps_add (console : Console) (first second : Nat) :
    console.steps (first + second) = (console.steps first).steps second := by
  rw [Nat.add_comm, steps, Function.iterate_add_apply]
  rfl

theorem after_eq_steps (cartridge : Cartridge) (count : Nat) :
    after cartridge count = (new cartridge).steps count := by
  induction count with
  | zero => rfl
  | succ count continues =>
      rw [after, continues, steps, steps, Function.iterate_succ_apply']

theorem after_add (cartridge : Cartridge) (first second : Nat) :
    after cartridge (first + second) = (after cartridge first).steps second := by
  rw [after_eq_steps, after_eq_steps, steps_add]

variable {console : Console} {count : Nat}

theorem runs_succ : console.Runs (count + 1) ↔ console.Succeeds ∧ console.step.2.Runs count := by
  constructor
  · intro runs
    exact ⟨runs 0 (Nat.zero_lt_succ count), fun i early => runs (i + 1) (Nat.succ_lt_succ early)⟩
  · rintro ⟨first, rest⟩ i early
    cases i with
    | zero => exact first
    | succ i => exact rest i (Nat.lt_of_succ_lt_succ early)

theorem runs_add {first second : Nat} :
    console.Runs (first + second) ↔ console.Runs first ∧ (console.steps first).Runs second := by
  constructor
  · intro runs
    refine ⟨fun i early => runs i (by omega), fun i early => ?_⟩
    rw [← steps_add]
    exact runs (first + i) (by omega)
  · rintro ⟨runs, rest⟩ i early
    rcases Nat.lt_or_ge i first with before | since
    · exact runs i before
    · obtain ⟨j, rfl⟩ := Nat.exists_eq_add_of_le since
      rw [steps_add]
      exact rest j (by omega)

theorem running_iff_runs {cartridge : Cartridge} :
    Running cartridge count ↔ (new cartridge).Runs count := by
  unfold Running Runs
  simp only [after_eq_steps]

theorem Running.concat {cartridge : Cartridge} {first second : Nat}
    (running : Running cartridge first) (runs : (after cartridge first).Runs second) :
    Running cartridge (first + second) := by
  rw [after_eq_steps] at runs
  exact running_iff_runs.mpr (runs_add.mpr ⟨running_iff_runs.mp running, runs⟩)

theorem Clocked.steps (clocked : console.Clocked) (runs : console.Runs count) :
    (console.steps count).Clocked := by
  induction count generalizing console with
  | zero => exact clocked
  | succ count continues =>
      obtain ⟨⟨cycles, ran⟩, rest⟩ := runs_succ.mp runs
      exact continues (clocked.advances ran).clocked rest

theorem Awake.steps (awake : console.Awake) : (console.steps count).Awake := by
  induction count generalizing console with
  | zero => exact awake
  | succ count continues => exact continues awake.step

theorem Awake.pollStop (awake : console.Awake) : console.pollStop = console := by
  unfold Console.pollStop
  rw [awake.unasked]
  rfl

end Console

end Famicom
