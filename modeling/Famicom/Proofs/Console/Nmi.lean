import Famicom.Proofs.Console.Run
import Mathlib.Tactic.Tauto

namespace Famicom

attribute [local irreducible] Bus.tick

open Registers (nmiVector irqVector)

theorem BusCycle.accesses_quiet (cycle : BusCycle) :
    cycle.accesses.all PpuOperation.isQuiet = true := by
  cases cycle with
  | idle => rfl
  | load address rule =>
      simp only [accesses]
      split_ifs <;> rfl
  | store address data =>
      simp only [accesses]
      split_ifs <;> rfl

theorem BusCycle.flatMap_quiet (schedule : List BusCycle) :
    (schedule.flatMap pictureOperations).all PpuOperation.isQuiet = true := by
  induction schedule with
  | nil => rfl
  | cons cycle rest continues =>
      rw [List.flatMap_cons, List.all_append, continues, Bool.and_true, pictureOperations,
        List.all_append, accesses_quiet]
      rfl

theorem BusCycle.edge_replay {bus : Bus} (level : bus.ppu.nmiLevel = bus.ppu.nmiOutput)
    (schedule : List BusCycle) :
    (replay bus schedule).ppu.nmiLevel = (replay bus schedule).ppu.nmiOutput ∧
      ((replay bus schedule).ppu.nmiEdge = true ↔
        bus.ppu.nmiEdge = true ∨
          PpuOperation.Rises bus.picture (schedule.flatMap pictureOperations)) := by
  have low : bus.picture.1.nmiLevel = bus.picture.1.nmiOutput := level
  have law := PpuOperation.edge_run low _ (flatMap_quiet schedule)
  rw [← replay_picture] at law
  exact law

theorem PpuOperation.not_rises_of_disabled (count : Nat) {state : Ppu × Cartridge}
    (disabled : state.1.control.nmiEnabled = false) :
    ¬ Rises state (List.replicate count .tick) := by
  induction count generalizing state with
  | zero => exact not_rises_nil state
  | succ count continues =>
      have control : (apply state .tick).1.control = state.1.control := by
        obtain ⟨_, _, _, _, _, _, _, _, _, ticked⟩ := state.1.tick_updates state.2
        have same := congrArg Ppu.control ticked
        exact same
      have after : (apply state .tick).1.control.nmiEnabled = false := by rw [control, disabled]
      rw [List.replicate_succ, rises_cons]
      rintro (⟨_, high⟩ | later)
      · simp [Ppu.nmiOutput, after] at high
      · exact continues after later

namespace Console

structure Settled (console : Console) : Prop where
  level : console.bus.ppu.nmiLevel = console.bus.ppu.nmiOutput
  edge : console.bus.ppu.nmiEdge = false

theorem settled_new (cartridge : Cartridge) : (new cartridge).Settled := by
  let fresh := Bus.new cartridge
  have bus : (new cartridge).bus =
      BusCycle.replay fresh (Registers.resetSequence.schedule fresh) :=
    BusOperation.resetCpu_bus fresh
  have dots : (Registers.resetSequence.schedule fresh).flatMap BusCycle.pictureOperations =
      List.replicate 21 .tick := rfl
  have level : fresh.ppu.nmiLevel = fresh.ppu.nmiOutput := rfl
  have law := BusCycle.edge_replay level (Registers.resetSequence.schedule fresh)
  rw [← bus, dots] at law
  refine ⟨law.1, Bool.eq_false_iff.mpr fun edge => ?_⟩
  rcases law.2.mp edge with before | rises
  · cases before
  · have control : fresh.picture.1.control = {} := rfl
    have disabled : fresh.picture.1.control.nmiEnabled = false := by
      rw [control]
      decide
    exact PpuOperation.not_rises_of_disabled 21 disabled rises

theorem advance_nmiPending {console : Console} :
    (advance console.machine).2.cpu.nmiPending = true ↔
      console.Transfers ∧ console.machine.cpu.nmiPending = true := by
  by_cases transfers : console.Transfers
  · simp only [advance_of_transfers transfers, transfers, true_and]
  · simp only [advance_of_not_transfers transfers, transfers, false_and, iff_false]
    exact Bool.eq_false_iff.mp (Machine.step_nmiPending console.machine)

/-- A step requests an entry if the request rose in it, or if a transfer put off an entry that was
due already. -/
theorem Settled.step {console : Console} (settled : console.Settled)
    (succeeds : console.Succeeds) :
    console.step.2.Settled ∧
      (console.step.2.machine.cpu.nmiPending = true ↔
        console.NmiRises ∨ (console.Transfers ∧ console.machine.cpu.nmiPending = true)) := by
  obtain ⟨live, _, _, stepped⟩ := step_of_succeeds succeeds
  have law := BusCycle.edge_replay settled.level console.busCycles
  have ppu : (advance console.machine).2.bus.ppu =
      (BusCycle.replay console.bus console.busCycles).ppu := by
    rw [advance_bus live]
  rw [stepped]
  simp only [carryRequests_eq]
  rw [← ppu] at law
  refine ⟨⟨law.1, rfl⟩, ?_⟩
  rw [Bool.or_eq_true, advance_nmiPending]
  refine or_congr_left (law.2.trans ?_)
  rw [settled.edge]
  exact ⟨fun edge => edge.resolve_left Bool.false_ne_true, .inr⟩

/-- The request rose in one of the first steps, and no entry has come since. -/
def NmiWaits (cartridge : Cartridge) (count : Nat) : Prop :=
  ∃ i < count, (after cartridge i).NmiRises ∧
    ∀ j, i < j → j < count → ¬ (after cartridge j).EntersHandler nmiVector

theorem nmiWaits_succ (cartridge : Cartridge) (count : Nat) :
    NmiWaits cartridge (count + 1) ↔ (after cartridge count).NmiRises ∨
      (NmiWaits cartridge count ∧ ¬ (after cartridge count).EntersHandler nmiVector) := by
  constructor
  · rintro ⟨i, early, rises, unserved⟩
    rcases Nat.lt_succ_iff_lt_or_eq.mp early with earlier | rfl
    · exact .inr ⟨⟨i, earlier, rises, fun j later before => unserved j later (by omega)⟩,
        unserved count earlier (Nat.lt_succ_self count)⟩
    · exact .inl rises
  · rintro (rises | ⟨⟨i, early, rises, unserved⟩, noEntry⟩)
    · exact ⟨count, Nat.lt_succ_self count, rises, fun j later before => by omega⟩
    · refine ⟨i, by omega, rises, fun j later before => ?_⟩
      rcases Nat.lt_succ_iff_lt_or_eq.mp before with earlier | rfl
      · exact unserved j later earlier
      · exact noEntry

theorem nmiPending_after {cartridge : Cartridge} {count : Nat}
    (running : Running cartridge count) :
    (after cartridge count).Settled ∧
      ((after cartridge count).machine.cpu.nmiPending = true ↔ NmiWaits cartridge count) := by
  induction count with
  | zero =>
      refine ⟨settled_new cartridge, ?_⟩
      constructor
      · intro pending
        cases pending
      · rintro ⟨i, early, _⟩
        exact absurd early (Nat.not_lt_zero i)
  | succ count continues =>
      have before := continues (running.shorten (Nat.le_succ count))
      have live := (halted_after_iff cartridge count).mpr (running.shorten (Nat.le_succ count))
      have stepped := before.1.step (running count (Nat.lt_succ_self count))
      refine ⟨stepped.1, stepped.2.trans ?_⟩
      rw [nmiWaits_succ, ← before.2, entersHandler_iff]
      refine or_congr_right ?_
      simp only [live, true_and, and_true]
      tauto

theorem entersNmi_iff (cartridge : Cartridge) (count : Nat) :
    (after cartridge count).EntersHandler nmiVector ↔
      Running cartridge count ∧ ¬ (after cartridge count).Transfers ∧ NmiWaits cartridge count := by
  rw [entersHandler_iff, halted_after_iff]
  refine and_congr_right fun running => and_congr_right fun _ => ?_
  rw [← (nmiPending_after running).2]
  have distinct : nmiVector ≠ irqVector := by decide
  simp only [distinct, and_true, and_false, or_false]

theorem enters_of_rise {cartridge : Cartridge} {i : Nat} (running : Running cartridge (i + 1))
    (rises : (after cartridge i).NmiRises) :
    (after cartridge (i + 1)).EntersHandler nmiVector ∨
      ((after cartridge (i + 1)).Transfers ∧ (after cartridge (i + 2)).EntersHandler nmiVector) := by
  by_cases transfers : (after cartridge (i + 1)).Transfers
  · right
    have live := (halted_after_iff cartridge (i + 1)).mpr running
    obtain ⟨succeeds, stays⟩ := transfer_succeeds live transfers
    have longer : Running cartridge (i + 2) := by
      intro j early
      rcases Nat.lt_succ_iff_lt_or_eq.mp early with earlier | rfl
      · exact running j earlier
      · exact succeeds
    refine ⟨transfers, (entersNmi_iff cartridge (i + 2)).mpr ⟨longer, stays, i, by omega, rises, ?_⟩⟩
    intro j later before enters
    obtain rfl : j = i + 1 := by omega
    exact ((entersNmi_iff cartridge (i + 1)).mp enters).2.1 transfers
  · left
    refine (entersNmi_iff cartridge (i + 1)).mpr ⟨running, transfers, i, by omega, rises, ?_⟩
    intro j later before
    omega

/-- The law of the non-maskable interrupt over a run. A step enters the handler exactly if it is no
transfer and the request rose in an earlier step that no other entry has followed. So a rise is
served by the next step, or by the one after it where the next is a transfer, and between two entries
there is a rise. An entry takes seven cycles and pushes the flags with the break flag clear. -/
theorem nmi_served (cartridge : Cartridge) :
    (∀ count, (after cartridge count).EntersHandler nmiVector ↔
      Running cartridge count ∧ ¬ (after cartridge count).Transfers ∧
        ∃ i < count, (after cartridge i).NmiRises ∧
          ∀ j, i < j → j < count → ¬ (after cartridge j).EntersHandler nmiVector) ∧
    (∀ i, Running cartridge (i + 1) → (after cartridge i).NmiRises →
      (after cartridge (i + 1)).EntersHandler nmiVector ∨
        ((after cartridge (i + 1)).Transfers ∧
          (after cartridge (i + 2)).EntersHandler nmiVector)) ∧
    (∀ first second, first < second → (after cartridge first).EntersHandler nmiVector →
      (after cartridge second).EntersHandler nmiVector →
        ∃ i, first ≤ i ∧ i < second ∧ (after cartridge i).NmiRises) ∧
    (∀ count, (after cartridge count).EntersHandler nmiVector →
      let console := after cartridge count
      console.step.1 = .ok 7 ∧ ¬ console.EntersHandler irqVector ∧
        console.step.2.registers = console.registers.entered console.bus nmiVector ∧
        console.step.2.bus.ram = console.registers.pushedRam console.bus.ram ∧
        (console.registers.p.pushed false).bit 4 = false) := by
  refine ⟨entersNmi_iff cartridge, fun i => enters_of_rise, ?_, ?_⟩
  · intro first second earlier entered enters
    obtain ⟨_, _, i, early, rises, unserved⟩ := (entersNmi_iff cartridge second).mp enters
    rcases Nat.lt_or_ge i first with before | since
    · exact absurd entered (unserved first before earlier)
    · exact ⟨i, since, early, rises⟩
  · intro count enters console
    obtain ⟨seven, registers, ram⟩ := enters.effect
    refine ⟨seven, fun other => ?_, registers, ram, Flags.bit_pushed _ _⟩
    exact absurd (Registers.entryCycles_vector (enters.symm.trans other)) (by decide)

end Console

end Famicom
