import Famicom.Proofs.Console.Progress

/-!
How a run of a console up to a goal ends: at the first step boundary at which the goal is reached, a
pause or a request to stop is seen, or the next step fails. What it has spent are the cycles of its
steps, and those are on the bus.
-/

namespace Famicom

attribute [local irreducible] Bus.tick

namespace Console

/-! ## The cycles of some steps -/

def stepCycles (console : Console) : Nat :=
  match console.step.1 with
  | .ok cycles => cycles
  | .error _ => 0

def spent (console : Console) : Nat → Nat
  | 0 => 0
  | count + 1 => console.spent count + (console.steps count).stepCycles

section Spent

variable {console : Console} {count : Nat}

theorem stepCycles_of_ok {cycles : Nat} (ran : console.step.1 = .ok cycles) :
    console.stepCycles = cycles := by
  unfold stepCycles
  rw [ran]

theorem spent_add (console : Console) (first second : Nat) :
    console.spent (first + second) =
      console.spent first + (console.steps first).spent second := by
  induction second with
  | zero => rfl
  | succ second before =>
      rw [← Nat.add_assoc, spent, before, spent, steps_add, Nat.add_assoc]

theorem spent_one (console : Console) : console.spent 1 = console.stepCycles :=
  Nat.zero_add _

theorem spent_succ' (console : Console) (count : Nat) :
    console.spent (count + 1) = console.stepCycles + console.step.2.spent count := by
  rw [Nat.add_comm, spent_add, spent_one]
  rfl

structure Spends (console : Console) (count : Nat) : Prop where
  some : count ≤ console.spent count
  counted : (console.steps count).bus.cycles = console.bus.cycles + console.spent count
  passed : console.bus.ppu.beam.Passed (3 * console.spent count)
    (console.steps count).bus.ppu.beam

theorem Clocked.spends (clocked : console.Clocked) (runs : console.Runs count) :
    console.Spends count := by
  induction count with
  | zero => exact ⟨Nat.le_refl 0, rfl, .refl clocked.inside⟩
  | succ count continues =>
      have first : console.Runs count := fun i early => runs i (Nat.lt_succ_of_lt early)
      have before := continues first
      obtain ⟨cycles, ran⟩ := runs count (Nat.lt_succ_self count)
      have advances := (clocked.steps first).advances ran
      have next : console.steps (count + 1) = (console.steps count).step.2 :=
        Function.iterate_succ_apply' _ _ _
      have total : console.spent (count + 1) = console.spent count + cycles := by
        rw [spent, stepCycles_of_ok ran]
      have some := before.some
      have positive := advances.some
      refine ⟨?_, ?_, ?_⟩
      · omega
      · rw [next, total, advances.counted, before.counted, Nat.add_assoc]
      · rw [next, total, Nat.mul_add]
        exact before.passed.trans advances.passed

theorem Clocked.stepCycles_le (clocked : console.Clocked) (runs : console.Runs (count + 1)) :
    (console.steps count).stepCycles ≤ 514 := by
  have before := clocked.steps fun i early => runs i (Nat.lt_succ_of_lt early)
  obtain ⟨cycles, ran⟩ := runs count (Nat.lt_succ_self count)
  rw [stepCycles_of_ok ran]
  exact (before.advances ran).few

theorem Clocked.spent_lt (clocked : console.Clocked) (runs : console.Runs count) {earlier : Nat}
    (before : earlier < count) : console.spent earlier < console.spent count := by
  obtain ⟨more, rfl⟩ := Nat.exists_eq_add_of_lt before
  obtain ⟨first, rest⟩ := runs_add.mp (Nat.add_assoc earlier more 1 ▸ runs)
  have some := ((clocked.steps first).spends rest).some
  rw [Nat.add_assoc, spent_add]
  omega

end Spent

/-! ## Requests to stop on the way -/

/-- Like `runUntil`, with requests to stop that arrive on the way. -/
def runUntilAsked (asked : Nat → Bool) (goal : Console → Nat → Bool) (console : Console)
    (spent : Nat) : Nat → Except CpuError Nat × Console
  | 0 => (.ok spent, console)
  | fuel + 1 =>
      if goal console spent then (.ok spent, console)
      else
        let console := (if asked fuel then console.requestStop else console).pollStop
        if console.paused then (.ok spent, console)
        else
          match console.step with
          | (.ok cycles, console) => runUntilAsked asked goal console (spent + cycles) fuel
          | (.error error, console) => (.error error, console)

def runFrameAsked (console : Console) (asked : Nat → Bool) : Except CpuError Nat × Console :=
  let frame := console.frame
  runUntilAsked asked (fun console _ => console.frame != frame) console 0 Beam.dotsPerFrame

theorem runUntilAsked_never (goal : Console → Nat → Bool) (console : Console) (spent fuel : Nat) :
    runUntilAsked (fun _ => false) goal console spent fuel =
      runUntil goal console spent fuel := by
  induction fuel generalizing console spent with
  | zero => rfl
  | succ fuel continues =>
      unfold runUntilAsked runUntil
      simp only [Bool.false_eq_true, if_false]
      rcases console.pollStop.step with ⟨result, next⟩
      cases result with
      | error error => rfl
      | ok cycles =>
          dsimp only
          rw [continues]

theorem runFrameAsked_never (console : Console) :
    console.runFrameAsked (fun _ => false) = console.runFrame := by
  unfold runFrameAsked runFrame
  rw [runUntilAsked_never]

section RunUntil

variable (goal : Console → Nat → Bool) (requests : Nat → Bool) (base : Nat) (console : Console)
  (count : Nat)

def Interrupted (poll : Nat) : Prop :=
  requests poll = true ∨ poll = 0 ∧ ¬ console.Awake

structure GoesOn : Prop where
  runs : console.Runs count
  short : ∀ i < count, goal (console.steps i) (base + console.spent i) = false
  calm : ∀ i < count, ¬ console.Interrupted requests i

inductive Ends : Except CpuError Nat × Console → Prop
  | reached (done : goal (console.steps count) (base + console.spent count) = true) :
      Ends (.ok (base + console.spent count), console.steps count)
  | interrupted (short : goal (console.steps count) (base + console.spent count) = false)
      (seen : console.Interrupted requests count) :
      Ends (.ok (base + console.spent count), (console.steps count).marked true false)
  | failed (short : goal (console.steps count) (base + console.spent count) = false)
      (calm : ¬ console.Interrupted requests count) (error : CpuError)
      (fails : (console.steps count).step.1 = .error error) :
      Ends (.error error, (console.steps count).step.2)

variable {goal requests base console count}

theorem Interrupted.succ {poll : Nat} (awake : console.Awake) :
    console.Interrupted requests (poll + 1) ↔
      console.step.2.Interrupted (fun poll => requests (poll + 1)) poll := by
  have next := awake.step
  unfold Interrupted
  simp [next]

theorem Awake.not_interrupted (awake : console.Awake) (poll : Nat) :
    ¬ console.Interrupted (fun _ => false) poll := by
  simp [Interrupted, awake]

section FirstStep

variable {cycles : Nat} {outcome : Except CpuError Nat × Console}
  (awake : console.Awake) (ran : console.step.1 = .ok cycles)
include awake ran

theorem GoesOn.ofStep (short : goal console base = false) (calm : ¬ console.Interrupted requests 0)
    (rest : GoesOn goal (fun poll => requests (poll + 1)) (base + cycles) console.step.2 count) :
    GoesOn goal requests base console (count + 1) where
  runs := runs_succ.mpr ⟨⟨cycles, ran⟩, rest.runs⟩
  short i early := by
    cases i with
    | zero => exact short
    | succ i =>
        rw [spent_succ', stepCycles_of_ok ran, ← Nat.add_assoc, steps_succ]
        exact rest.short i (Nat.lt_of_succ_lt_succ early)
  calm i early := by
    cases i with
    | zero => exact calm
    | succ i =>
        rw [Interrupted.succ awake]
        exact rest.calm i (Nat.lt_of_succ_lt_succ early)

theorem Ends.ofStep
    (rest : Ends goal (fun poll => requests (poll + 1)) (base + cycles) console.step.2 count outcome) :
    Ends goal requests base console (count + 1) outcome := by
  have total : base + console.spent (count + 1) = base + cycles + console.step.2.spent count := by
    rw [spent_succ', stepCycles_of_ok ran, Nat.add_assoc]
  cases rest with
  | reached done =>
      rw [← total] at done ⊢
      exact .reached done
  | interrupted short seen =>
      rw [← total] at short ⊢
      exact .interrupted short ((Interrupted.succ awake).mpr seen)
  | failed short calm error fails =>
      rw [← total] at short
      exact .failed short (mt (Interrupted.succ awake).mp calm) error fails

end FirstStep

/-! ## Only one end -/

theorem Ends.le_of_goesOn {outcome : Except CpuError Nat × Console}
    (ends : Ends goal requests base console count outcome) {longer : Nat}
    (on : GoesOn goal requests base console longer) : longer ≤ count := by
  by_contra later
  have early := Nat.not_le.mp later
  cases ends with
  | reached done => exact absurd done (Bool.eq_false_iff.mp (on.short count early))
  | interrupted short seen => exact on.calm count early seen
  | failed short calm error fails =>
      obtain ⟨cycles, ran⟩ := on.runs count early
      rw [fails] at ran
      cases ran

theorem Ends.unique {first second : Except CpuError Nat × Console}
    (one : Ends goal requests base console count first)
    (other : Ends goal requests base console count second) : first = second := by
  cases one with
  | reached done =>
      cases other with
      | reached _ => rfl
      | interrupted short _ => exact absurd done (Bool.eq_false_iff.mp short)
      | failed short _ _ _ => exact absurd done (Bool.eq_false_iff.mp short)
  | interrupted short seen =>
      cases other with
      | reached done => exact absurd done (Bool.eq_false_iff.mp short)
      | interrupted _ _ => rfl
      | failed _ calm _ _ => exact absurd seen calm
  | failed short calm error fails =>
      cases other with
      | reached done => exact absurd done (Bool.eq_false_iff.mp short)
      | interrupted _ seen => exact absurd seen calm
      | failed _ _ _ same =>
          rw [fails] at same
          cases same
          rfl

theorem GoesOn.outcome_eq {other : Nat} {first second : Except CpuError Nat × Console}
    (on : GoesOn goal requests base console count)
    (ends : Ends goal requests base console count first)
    (alsoOn : GoesOn goal requests base console other)
    (alsoEnds : Ends goal requests base console other second) : first = second := by
  have same : count = other := Nat.le_antisymm (alsoEnds.le_of_goesOn on) (ends.le_of_goesOn alsoOn)
  subst same
  exact ends.unique alsoEnds

/-! ## The end of a run -/

theorem pollStop_of_interrupted (seen : console.Interrupted requests 0) :
    (if requests 0 then console.requestStop else console).pollStop = console.marked true false := by
  unfold Console.pollStop
  cases asked : requests 0 with
  | true => rfl
  | false =>
      simp only [Bool.false_eq_true, if_false]
      split
      · rfl
      · rename_i unasked
        have paused : console.paused = true := by
          rcases seen with requested | ⟨_, asleep⟩
          · exact absurd requested (Bool.eq_false_iff.mp asked)
          · by_contra unpaused
            exact asleep ⟨Bool.eq_false_iff.mpr unpaused, Bool.eq_false_iff.mpr unasked⟩
        have same := console.marked_self
        rw [paused, Bool.eq_false_iff.mpr unasked] at same
        exact same.symm

theorem pollStop_of_calm (calm : ¬ console.Interrupted requests 0) :
    console.Awake ∧ (if requests 0 then console.requestStop else console).pollStop = console := by
  obtain ⟨unasked, awake⟩ := not_or.mp calm
  have awake : console.Awake := by_contra fun asleep => awake ⟨rfl, asleep⟩
  rw [if_neg unasked]
  exact ⟨awake, awake.pollStop⟩

variable (goal base console)

theorem runUntilAsked_ends (asked : Nat → Bool) (fuel : Nat) :
    let requests := fun poll => asked (fuel - (poll + 1))
    let outcome := runUntilAsked asked goal console base fuel
    ∃ count ≤ fuel, GoesOn goal requests base console count ∧
      (Ends goal requests base console count outcome ∨
        count = fuel ∧ outcome = (.ok (base + console.spent count), console.steps count)) := by
  intro requests outcome
  induction fuel generalizing console base with
  | zero => exact ⟨0, Nat.le_refl 0, ⟨nofun, nofun, nofun⟩, .inr ⟨rfl, rfl⟩⟩
  | succ fuel continues =>
      have start : GoesOn goal requests base console 0 := ⟨nofun, nofun, nofun⟩
      by_cases done : goal console base = true
      · have stops : outcome = (.ok base, console) := by
          simp only [outcome, runUntilAsked, done, if_true]
        refine ⟨0, Nat.zero_le _, start, .inl ?_⟩
        rw [stops]
        exact .reached done
      have short : goal console base = false := Bool.eq_false_iff.mpr done
      by_cases seen : console.Interrupted requests 0
      · have polled : (if asked fuel then console.requestStop else console).pollStop =
            console.marked true false := pollStop_of_interrupted seen
        have rests : outcome = (.ok base, console.marked true false) := by
          simp only [outcome, runUntilAsked, short, polled, Bool.false_eq_true, if_false]
          rfl
        refine ⟨0, Nat.zero_le _, start, .inl ?_⟩
        rw [rests]
        exact .interrupted short seen
      obtain ⟨awake, polled⟩ := pollStop_of_calm seen
      have polled : (if asked fuel then console.requestStop else console).pollStop = console := polled
      rcases stepped : console.step with ⟨result, next⟩
      have after : console.step.2 = next := congrArg Prod.snd stepped
      cases result with
      | error error =>
          have fails : outcome = (.error error, next) := by
            simp only [outcome, runUntilAsked, short, polled, awake.unpaused, stepped,
              Bool.false_eq_true, if_false]
          refine ⟨0, Nat.zero_le _, start, .inl ?_⟩
          rw [fails, ← after]
          exact .failed short seen error (congrArg Prod.fst stepped)
      | ok cycles =>
          have ran : console.step.1 = .ok cycles := congrArg Prod.fst stepped
          have goesOn : outcome = runUntilAsked asked goal next (base + cycles) fuel := by
            simp only [outcome, runUntilAsked, short, polled, awake.unpaused, stepped,
              Bool.false_eq_true, if_false]
          -- The rest of the run counts its polls from the next one.
          have later : (fun poll => requests (poll + 1)) = fun poll => asked (fuel - (poll + 1)) := by
            funext poll
            exact congrArg asked (Nat.add_sub_add_right _ _ _)
          obtain ⟨count, few, on, ends⟩ := continues (base + cycles) next
          rw [← later, ← after] at on ends
          refine ⟨count + 1, Nat.succ_le_succ few, on.ofStep awake ran short seen, ?_⟩
          rw [goesOn, ← after]
          rcases ends with ends | ⟨full, exhausted⟩
          · exact .inl (ends.ofStep awake ran)
          · refine .inr ⟨congrArg (· + 1) full, ?_⟩
            rw [exhausted, spent_succ', stepCycles_of_ok ran, Nat.add_assoc]
            rfl

end RunUntil

end Console

end Famicom
