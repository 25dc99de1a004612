import Famicom.Proofs.Console.Reachable
import Famicom.Proofs.Console.RunUntil

namespace Famicom

attribute [local irreducible] Bus.tick

namespace Console

theorem step_of_error {console : Console} {error : CpuError}
    (fails : console.step.1 = .error error) :
    console.step.2.halted = some error ∧ console.bus.cycles ≤ console.step.2.bus.cycles ∧
      console.step.2.bus.cycles ≤ console.bus.cycles + 1 := by
  unfold step at fails ⊢
  cases halted : console.halted with
  | some earlier =>
      rw [halted] at fails
      cases fails
      exact ⟨halted, Nat.le_refl _, Nat.le_succ _⟩
  | none =>
      by_cases transfers : console.Transfers
      · simp [halted, advance_of_transfers transfers] at fails
      · have advanced := advance_of_not_transfers transfers
        rcases stepped : console.machine.step with ⟨result, machine⟩
        cases result with
        | ok cycles => simp [halted, advanced, stepped] at fails
        | error earlier =>
            simp only [halted, advanced, stepped, Except.error.injEq] at fails ⊢
            subst fails
            have refused : console.machine.step.1 = .error earlier := congrArg Prod.fst stepped
            have after : console.machine.step.2 = machine := congrArg Prod.snd stepped
            have clock : machine.bus.cycles = console.bus.cycles ∨
                machine.bus.cycles = console.bus.cycles + 1 := by
              rcases Machine.step_error_cases refused with ⟨_, _, same⟩ | ⟨_, _, _, fetched⟩
              · rw [← after, same]
                exact .inl rfl
              · rw [← after, fetched]
                exact .inr (Bus.read_cycles _ _)
            refine ⟨rfl, ?_, ?_⟩
            · show console.bus.cycles ≤ machine.bus.cycles
              omega
            · show machine.bus.cycles ≤ console.bus.cycles + 1
              omega

def leavesFrame (frame : Nat) (console : Console) (_ : Nat) : Bool := console.frame != frame

theorem leavesFrame_eq_false {frame spent : Nat} {console : Console} :
    leavesFrame frame console spent = false ↔ console.frame = frame := by
  simp [leavesFrame]

def FrameOutcome (console : Console) (count : Nat) : Except CpuError Nat × Console → Prop
  | (.ok cycles, after) =>
      after = console.steps count ∧ cycles = console.spent count ∧
        after.frame = console.frame + 1 ∧ after.bus.cycles = console.bus.cycles + cycles ∧
        cycles ≤ 29780 + 514
  | (.error error, after) =>
      (console.steps count).step = (.error error, after) ∧ after.halted = some error ∧
        (console.steps count).bus.cycles = console.bus.cycles + console.spent count ∧
        console.bus.cycles + console.spent count ≤ after.bus.cycles

/-- The steps of a run that nothing interrupts. Only the last of them leaves the frame, and none does
if the next one fails. -/
structure RunsFrame (console : Console) (count : Nat) (outcome : Except CpuError Nat × Console) :
    Prop where
  runs : console.Runs count
  within : ∀ i < count, (console.steps i).frame = console.frame
  ends : FrameOutcome console count outcome
  unfinished : ∀ error, outcome.1 = .error error → (console.steps count).frame = console.frame

section Frame

variable {console : Console} {requests : Nat → Bool} {count : Nat}

theorem Clocked.spent_le (clocked : console.Clocked) (runs : console.Runs count)
    (same : (console.steps count).frame = console.frame) : console.spent count ≤ 29780 := by
  have spends := clocked.spends runs
  have inside := (clocked.steps runs).inside
  have line_le := inside.line_le
  have dot_le := inside.dot_le
  have rest := spends.passed.rest_le same
  omega

theorem GoesOn.next_frame
    (on : GoesOn (leavesFrame console.frame) requests 0 console count) (clocked : console.Clocked)
    (done : leavesFrame console.frame (console.steps count) (0 + console.spent count) = true) :
    (console.steps count).frame = console.frame + 1 ∧ console.spent count ≤ 29780 + 514 := by
  have left : (console.steps count).frame ≠ console.frame := by simpa [leavesFrame] using done
  obtain ⟨before, rfl⟩ : ∃ before, count = before + 1 :=
    Nat.exists_eq_succ_of_ne_zero fun zero => left (zero ▸ rfl)
  have runs : console.Runs before := fun i early => on.runs i (Nat.lt_succ_of_lt early)
  have same := leavesFrame_eq_false.mp (on.short before (Nat.lt_succ_self before))
  have here := clocked.steps runs
  obtain ⟨cycles, ran⟩ := on.runs before (Nat.lt_succ_self before)
  have advances := here.advances ran
  have next : console.steps (before + 1) = (console.steps before).step.2 :=
    Function.iterate_succ_apply' _ _ _
  have few := advances.few
  -- A step has fewer dots than a frame, so the last one cannot pass over a whole frame.
  have near : (console.steps before).step.2.frame ≤ (console.steps before).frame + 1 :=
    advances.passed.frame_le here.inside (by omega)
  have forward : (console.steps before).frame ≤ (console.steps before).step.2.frame :=
    advances.passed.frames
  have bound := clocked.spent_le runs same
  rw [next] at left ⊢
  rw [spent, stepCycles_of_ok ran]
  omega

theorem GoesOn.count_lt
    (on : GoesOn (leavesFrame console.frame) requests 0 console count) (clocked : console.Clocked) :
    count < Beam.dotsPerFrame := by
  cases count with
  | zero => decide
  | succ before =>
      have runs : console.Runs before := fun i early => on.runs i (Nat.lt_succ_of_lt early)
      have same := leavesFrame_eq_false.mp (on.short before (Nat.lt_succ_self before))
      have few := clocked.spent_le runs same
      have some := (clocked.spends runs).some
      unfold Beam.dotsPerFrame
      omega

theorem Clocked.runFrameAsked_ends (clocked : console.Clocked) (asked : Nat → Bool) :
    let requests := fun poll => asked (Beam.dotsPerFrame - (poll + 1))
    ∃ count, GoesOn (leavesFrame console.frame) requests 0 console count ∧
      Ends (leavesFrame console.frame) requests 0 console count (console.runFrameAsked asked) := by
  intro requests
  obtain ⟨count, _, on, ends | ⟨full, _⟩⟩ := runUntilAsked_ends (leavesFrame console.frame) 0
    console asked Beam.dotsPerFrame
  · exact ⟨count, on, ends⟩
  · have few := on.count_lt clocked
    omega

theorem Clocked.runsFrame (clocked : console.Clocked) (awake : console.Awake) :
    ∃ count, console.RunsFrame count console.runFrame := by
  obtain ⟨count, on, ends⟩ := clocked.runFrameAsked_ends fun _ => false
  have spends := clocked.spends on.runs
  have within (i : Nat) (early : i < count) : (console.steps i).frame = console.frame :=
    leavesFrame_eq_false.mp (on.short i early)
  rw [runFrameAsked_never] at ends
  refine ⟨count, ?_⟩
  generalize console.runFrame = outcome at ends ⊢
  cases ends with
  | reached done =>
      obtain ⟨next, few⟩ := on.next_frame clocked done
      rw [Nat.zero_add]
      exact ⟨on.runs, within, ⟨rfl, rfl, next, spends.counted, few⟩, nofun⟩
  | interrupted short seen => exact absurd seen (awake.not_interrupted count)
  | failed short _ error fails =>
      obtain ⟨halted, kept, _⟩ := step_of_error fails
      rw [spends.counted] at kept
      exact ⟨on.runs, within, ⟨Prod.ext fails rfl, halted, spends.counted, kept⟩,
        fun _ _ => leavesFrame_eq_false.mp short⟩

end Frame

/-- A console that nothing interrupts completes the frame in a bounded number of cycles, which are
those of its steps and are on the bus, or it halts and has spent those of the steps before. A pause
or a request to stop that is seen before a step of the frame ends the run there, is left as a pause,
and the cycles so far are the answer. -/
theorem runFrame_advances {console : Console} (reached : console.Reachable) :
    (console.Awake →
      ∃ count, console.Runs count ∧ FrameOutcome console count console.runFrame) ∧
    (∀ asked : Nat → Bool,
      let requests := fun poll => asked (Beam.dotsPerFrame - (poll + 1))
      ∀ poll, console.Runs poll → (∀ i ≤ poll, (console.steps i).frame = console.frame) →
        (∀ i < poll, ¬ console.Interrupted requests i) → console.Interrupted requests poll →
        console.runFrameAsked asked =
          (.ok (console.spent poll), (console.steps poll).marked true false)) ∧
    console.runFrameAsked (fun _ => false) = console.runFrame := by
  have clocked := reached.clocked
  refine ⟨?_, ?_, console.runFrameAsked_never⟩
  · intro awake
    obtain ⟨count, whole⟩ := clocked.runsFrame awake
    exact ⟨count, whole.runs, whole.ends⟩
  · intro asked requests poll runs same calm seen
    obtain ⟨count, on, ends⟩ := clocked.runFrameAsked_ends asked
    have short (i : Nat) (inside : i ≤ poll) :
        leavesFrame console.frame (console.steps i) (0 + console.spent i) = false :=
      leavesFrame_eq_false.mpr (same i inside)
    have before : GoesOn (leavesFrame console.frame) requests 0 console poll :=
      ⟨runs, fun i early => short i (Nat.le_of_lt early), calm⟩
    have outcome := on.outcome_eq ends before (.interrupted (short poll (Nat.le_refl poll)) seen)
    rw [outcome, Nat.zero_add]

theorem builtIn_runFrame : let console := new Cartridge.empty
    console.Reachable ∧ console.Awake ∧
      (∃ count, console.Runs count ∧ FrameOutcome console count console.runFrame) ∧
      console.runFrameAsked (fun left => left == Beam.dotsPerFrame - 1) =
        (.ok 0, console.marked true false) := by
  have reached := Reachable.new Cartridge.empty
  have awake := awake_new Cartridge.empty
  obtain ⟨runs, rests, _⟩ := runFrame_advances reached
  refine ⟨reached, awake, runs awake, rests _ 0 nofun ?_ nofun (.inl rfl)⟩
  intro i none
  rw [Nat.le_zero.mp none]
  rfl

end Console

end Famicom
