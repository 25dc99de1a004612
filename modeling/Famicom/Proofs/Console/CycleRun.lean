import Famicom.Proofs.Console.Reachable
import Famicom.Proofs.Console.RunUntil

namespace Famicom

attribute [local irreducible] Bus.tick

namespace Console

def hasSpent (cycles : Nat) (_ : Console) (spent : Nat) : Bool := decide (cycles ≤ spent)

structure Least (cycles : Nat) (console : Console) (count : Nat) : Prop where
  runs : console.Runs count
  short : ∀ i < count, console.spent i < cycles
  enough : cycles ≤ console.spent count

section Cycles

variable {console : Console} {cycles count : Nat}

theorem hasSpent_eq_false {spent : Nat} :
    hasSpent cycles console (0 + spent) = false ↔ spent < cycles := by
  simp [hasSpent]

theorem hasSpent_eq_true {spent : Nat} :
    hasSpent cycles console (0 + spent) = true ↔ cycles ≤ spent := by
  simp [hasSpent]

theorem Clocked.runCycles_ends (clocked : console.Clocked) (cycles : Nat) :
    ∃ count, GoesOn (hasSpent cycles) (fun _ => false) 0 console count ∧
      Ends (hasSpent cycles) (fun _ => false) 0 console count (console.runCycles cycles) := by
  have plain : runUntilAsked (fun _ => false) (hasSpent cycles) console 0 cycles =
      console.runCycles cycles := runUntilAsked_never _ _ _ _
  obtain ⟨count, _, on, ends⟩ :=
    runUntilAsked_ends (hasSpent cycles) 0 console (fun _ => false) cycles
  rw [plain] at ends
  refine ⟨count, on, ?_⟩
  rcases ends with ends | ⟨full, exhausted⟩
  · exact ends
  · -- There are as many steps as cycles then, and every step has spent one or more.
    have some := (clocked.spends on.runs).some
    rw [exhausted]
    exact .reached (hasSpent_eq_true.mpr (full ▸ some))

theorem Least.spent_le (least : Least cycles console count) (clocked : console.Clocked) :
    console.spent count ≤ cycles + 513 := by
  cases count with
  | zero => exact Nat.zero_le _
  | succ before =>
      -- Only the last step can go beyond the goal, and a transfer is the longest step.
      have short := least.short before (Nat.lt_succ_self before)
      have few := clocked.stepCycles_le least.runs
      rw [spent]
      omega

theorem Least.goesOn (least : Least cycles console count) (awake : console.Awake) :
    GoesOn (hasSpent cycles) (fun _ => false) 0 console count where
  runs := least.runs
  short i early := hasSpent_eq_false.mpr (least.short i early)
  calm i _ := awake.not_interrupted i

theorem runCycles_ok_iff (clocked : console.Clocked) (awake : console.Awake) {total : Nat}
    {final : Console} : console.runCycles cycles = (.ok total, final) ↔
      ∃ count, Least cycles console count ∧ total = console.spent count ∧
        final = console.steps count := by
  obtain ⟨count, on, ends⟩ := clocked.runCycles_ends cycles
  constructor
  · intro ran
    generalize console.runCycles cycles = outcome at ends ran
    cases ends with
    | reached done =>
        cases ran
        exact ⟨count, ⟨on.runs, fun i early => hasSpent_eq_false.mp (on.short i early),
          hasSpent_eq_true.mp done⟩, Nat.zero_add _, rfl⟩
    | interrupted short seen => exact absurd seen (awake.not_interrupted count)
    | failed short calm error fails => cases ran
  · rintro ⟨other, least, rfl, rfl⟩
    rw [on.outcome_eq ends (least.goesOn awake) (.reached (hasSpent_eq_true.mpr least.enough)),
      Nat.zero_add]

theorem Least.add {more later : Nat} (least : Least cycles console count)
    (rest : Least more (console.steps count) later) (clocked : console.Clocked) :
    Least (console.spent count + more) console (count + later) where
  runs := runs_add.mpr ⟨least.runs, rest.runs⟩
  short i early := by
    rcases Nat.lt_or_ge i count with before | since
    · have less := clocked.spent_lt least.runs before
      omega
    · obtain ⟨j, rfl⟩ := Nat.exists_eq_add_of_le since
      have less := rest.short j (by omega)
      rw [spent_add]
      omega
  enough := by
    have enough := rest.enough
    rw [spent_add]
    omega

end Cycles

def CyclesOutcome (cycles : Nat) (console : Console) (count : Nat) :
    Except CpuError Nat × Console → Prop
  | (.ok total, final) =>
      final = console.steps count ∧ total = console.spent count ∧
        cycles ≤ total ∧ total ≤ cycles + 513 ∧
        final.bus.cycles = console.bus.cycles + total
  | (.error error, final) =>
      (console.steps count).step = (.error error, final) ∧ console.spent count < cycles

/-- A run of cycles takes steps until those it has taken spend them, and no step more; what it spends
is on the bus. Run on for some more cycles, it comes to where one run for all of them comes. -/
theorem runCycles_chunks {console : Console} (reached : console.Reachable)
    (awake : console.Awake) (cycles : Nat) :
    (∃ count, console.Runs count ∧ (∀ i < count, console.spent i < cycles) ∧
      CyclesOutcome cycles console count (console.runCycles cycles)) ∧
    ∀ more first second middle final, console.runCycles cycles = (.ok first, middle) →
      middle.runCycles more = (.ok second, final) →
      console.runCycles (first + more) = (.ok (first + second), final) := by
  have clocked := reached.clocked
  constructor
  · obtain ⟨count, on, ends⟩ := clocked.runCycles_ends cycles
    have short (i : Nat) (early : i < count) : console.spent i < cycles :=
      hasSpent_eq_false.mp (on.short i early)
    refine ⟨count, on.runs, short, ?_⟩
    generalize console.runCycles cycles = outcome at ends ⊢
    cases ends with
    | reached done =>
        have least : Least cycles console count := ⟨on.runs, short, hasSpent_eq_true.mp done⟩
        rw [Nat.zero_add]
        exact ⟨rfl, rfl, least.enough, least.spent_le clocked, (clocked.spends on.runs).counted⟩
    | interrupted short seen => exact absurd seen (awake.not_interrupted count)
    | failed short _ error fails => exact ⟨Prod.ext fails rfl, hasSpent_eq_false.mp short⟩
  · intro more first second middle final ran ranOn
    obtain ⟨count, least, rfl, rfl⟩ := (runCycles_ok_iff clocked awake).mp ran
    obtain ⟨later, rest, rfl, rfl⟩ :=
      (runCycles_ok_iff (clocked.steps least.runs) awake.steps).mp ranOn
    refine (runCycles_ok_iff clocked awake).mpr ⟨count + later, least.add rest clocked, ?_, ?_⟩
    · exact (spent_add console count later).symm
    · exact (steps_add console count later).symm

/-- Every byte of its program is an instruction that skips the next byte, in two cycles. -/
def skippingCartridge : Cartridge :=
  { Cartridge.empty with prgRom := Chip.fill 0x4000 0x80 (by decide) }

def answers (console : Console) (cycles more : Nat) : Option (Nat × Nat) :=
  match console.runCycles cycles with
  | (.ok first, middle) => (middle.runCycles more).1.toOption.map (first, ·)
  | (.error _, _) => none

theorem exists_of_answers {console : Console} {cycles more first second : Nat}
    (answered : console.answers cycles more = some (first, second)) :
    ∃ middle final, console.runCycles cycles = (.ok first, middle) ∧
      middle.runCycles more = (.ok second, final) := by
  unfold answers at answered
  rcases ran : console.runCycles cycles with ⟨result, middle⟩
  rw [ran] at answered
  cases result with
  | error error => cases answered
  | ok total =>
      rcases ranOn : middle.runCycles more with ⟨further, final⟩
      simp only [ranOn] at answered
      cases further with
      | error error => cases answered
      | ok added =>
          cases answered
          exact ⟨middle, final, rfl, ranOn⟩

theorem skipping_runCycles : let console := new skippingCartridge
    console.Reachable ∧ console.Awake ∧
      (∃ count, console.Runs count ∧ (∀ i < count, console.spent i < 3) ∧
        CyclesOutcome 3 console count (console.runCycles 3)) ∧
      ∃ middle final, console.runCycles 3 = (.ok 4, middle) ∧
        middle.runCycles 1 = (.ok 2, final) ∧ console.runCycles (4 + 1) = (.ok (4 + 2), final) := by
  intro console
  have reached := Reachable.new skippingCartridge
  have awake := awake_new skippingCartridge
  have answered : console.answers 3 1 = some (4, 2) := by decide +kernel
  obtain ⟨runs, chunks⟩ := runCycles_chunks reached awake 3
  obtain ⟨middle, final, ran, ranOn⟩ := exists_of_answers answered
  exact ⟨reached, awake, runs, middle, final, ran, ranOn, chunks 1 4 2 middle final ran ranOn⟩

end Console

end Famicom
