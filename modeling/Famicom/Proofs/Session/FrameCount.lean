import Famicom.Proofs.Console.FrameRun
import Famicom.Session.Report

namespace Famicom

attribute [local irreducible] Bus.tick

theorem Console.frame_new (cartridge : Cartridge) : (new cartridge).frame = 0 := by
  let fresh := (Bus.new cartridge).picture
  have corner : fresh.1.beam.Inside := ⟨Nat.zero_le 261, Nat.zero_le 340⟩
  have start : fresh.1.beam.frame = 0 ∧ fresh.1.beam.place = 0 := ⟨rfl, rfl⟩
  have passed := PpuOperation.passed_run fresh corner (List.replicate 21 .tick)
  have most := passed.most
  rw [← picture_new, List.count_replicate_self, start.1, start.2] at most
  unfold Beam.place at most
  show (new cartridge).bus.picture.1.beam.frame = 0
  omega

namespace Session

open Console (after Running)

variable {cartridge : Cartridge} {steps count : Nat}

def frameLimits (count : Nat) : SessionLimits where
  frames := some count
  stopOnHalt := true

def counted (cartridge : Cartridge) (steps : Nat) : Session where
  console := after cartridge steps
  frames := (after cartridge steps).frame

theorem counted_zero (cartridge : Cartridge) : counted cartridge 0 = new cartridge := by
  unfold counted after
  rw [Console.frame_new]
  rfl

/-- How a session ends after so many steps: the picture unit has just begun the frame with the number
that was asked for, or in an earlier frame the next step fails. -/
inductive EndsAfter (cartridge : Cartridge) (count steps : Nat) : Turn → Prop
  | complete (running : Running cartridge steps)
      (earlier : ∀ i < steps, (after cartridge i).frame < count)
      (frame : (after cartridge steps).frame = count) :
      EndsAfter cartridge count steps
        { session := { console := after cartridge steps, frames := count }, activity := .ended none }
  | failed (running : Running cartridge steps)
      (earlier : ∀ i ≤ steps, (after cartridge i).frame < count) (error : CpuError)
      (fails : (after cartridge steps).step.1 = .error error) :
      EndsAfter cartridge count steps
        { session := { console := (after cartridge steps).step.2
                       frames := (after cartridge steps).frame }
          activity := .ended (some error) }

theorem awake_after (cartridge : Cartridge) (steps : Nat) : (after cartridge steps).Awake := by
  rw [Console.after_eq_steps]
  exact (Console.awake_new cartridge).steps

theorem clocked_after (running : Running cartridge steps) : (after cartridge steps).Clocked := by
  rw [Console.after_eq_steps]
  exact (Console.clocked_new cartridge).steps (Console.running_iff_runs.mp running)

theorem not_resting (running : Running cartridge steps) :
    (counted cartridge steps).isResting = false := by
  have live := (Console.halted_after_iff cartridge steps).mpr running
  have unpaused := (awake_after cartridge steps).unpaused
  unfold isResting counted
  simp [live, unpaused]

theorem isOver_counted : (counted cartridge steps).isOver (frameLimits count) =
    decide (count ≤ (after cartridge steps).frame) := rfl

theorem turn_of_over (enough : count ≤ (after cartridge steps).frame) :
    (counted cartridge steps).turn (frameLimits count) [] =
      { session := counted cartridge steps, activity := .ended none } := by
  have finished : (counted cartridge steps).isOver (frameLimits count) = true :=
    isOver_counted.trans (decide_eq_true enough)
  unfold turn handleAll
  simp only [List.foldl_nil, finished, if_true]

theorem turn_of_short (running : Running cartridge steps)
    (short : (after cartridge steps).frame < count) :
    (counted cartridge steps).turn (frameLimits count) [] =
      (counted cartridge steps).runFrame (frameLimits count) := by
  have goes : (counted cartridge steps).isOver (frameLimits count) = false :=
    isOver_counted.trans (decide_eq_false (Nat.not_le.mpr short))
  unfold turn handleAll
  simp only [List.foldl_nil, goes, not_resting running, Bool.false_eq_true, if_false]

theorem turn_cases (running : Running cartridge steps)
    (short : (after cartridge steps).frame < count) : ∃ more,
    Running cartridge (steps + more) ∧
    (∀ i < more, (after cartridge (steps + i)).frame = (after cartridge steps).frame) ∧
    (((after cartridge (steps + more)).frame = (after cartridge steps).frame + 1 ∧
        (counted cartridge steps).turn (frameLimits count) [] =
          { session := counted cartridge (steps + more), activity := .running }) ∨
      ((after cartridge (steps + more)).frame = (after cartridge steps).frame ∧
        ∃ error, (after cartridge (steps + more)).step.1 = .error error ∧
          (counted cartridge steps).turn (frameLimits count) [] =
            { session := { console := (after cartridge (steps + more)).step.2
                           frames := (after cartridge (steps + more)).frame }
              activity := .ended (some error) })) := by
  rw [turn_of_short running short]
  obtain ⟨more, whole⟩ := (clocked_after running).runsFrame (awake_after cartridge steps)
  have within (i : Nat) (early : i < more) :
      (after cartridge (steps + i)).frame = (after cartridge steps).frame := by
    rw [Console.after_add]
    exact whole.within i early
  refine ⟨more, running.concat whole.runs, within, ?_⟩
  unfold runFrame counted
  rw [Console.after_add]
  rcases ran : (after cartridge steps).runFrame with ⟨result, final⟩
  rw [ran] at whole
  cases result with
  | ok cycles =>
      obtain ⟨rfl, _, next, _⟩ := whole.ends
      refine .inl ⟨next, ?_⟩
      simp only [next, Nat.succ_ne_self, if_false]
  | error error =>
      obtain ⟨fails, _⟩ := whole.ends
      have same := whole.unfinished error rfl
      rw [fails, same]
      exact .inr ⟨rfl, error, rfl, rfl⟩

/-! ## All turns -/

section Deliver

variable (session : Session) (limits : SessionLimits) (events : List Event)

theorem deliver_of_running {next : Session} (turns : Nat)
    (runs : session.turn limits events = { session := next, activity := .running }) :
    session.deliver limits events (turns + 1) = next.deliver limits [] turns := by
  rw [deliver, runs]

theorem deliver_of_ended {next : Session} {error : Option CpuError} (turns : Nat)
    (ends : session.turn limits events = { session := next, activity := .ended error }) :
    session.deliver limits events turns = { session := next, activity := .ended error } := by
  cases turns with
  | zero => exact ends
  | succ turns => rw [deliver, ends]

theorem loggedDeliver_fst (tracing : Bool) (turns : Nat) :
    (session.loggedDeliver limits events tracing turns).1 =
      session.deliver limits events turns := by
  induction turns generalizing session events with
  | zero => rfl
  | succ turns continues =>
      unfold loggedDeliver deliver loggedTurn
      rcases session.turn limits events with ⟨next, activity⟩
      cases activity with
      | running => exact continues next []
      | resting => rfl
      | ended error => rfl

end Deliver

theorem exists_endsAfter (left : Nat) (running : Running cartridge steps)
    (earlier : ∀ i < steps, (after cartridge i).frame < count)
    (frame : (after cartridge steps).frame + left = count) :
    ∃ total turn, EndsAfter cartridge count total turn ∧
      ∀ turns, left ≤ turns →
        (counted cartridge steps).deliver (frameLimits count) [] turns = turn := by
  -- A turn completes one of the frames that are left, or the session ends with it.
  induction left generalizing steps with
  | zero =>
      have ends := turn_of_over (Nat.le_of_eq frame.symm)
      have last : counted cartridge steps =
          { console := after cartridge steps, frames := count } := by
        rw [← frame]
        rfl
      rw [last] at ends
      refine ⟨steps, _, .complete running earlier frame, fun turns _ => ?_⟩
      rw [last]
      exact deliver_of_ended _ _ _ turns ends
  | succ left continues =>
      obtain ⟨more, longer, within, outcome⟩ :=
        turn_cases running (show (after cartridge steps).frame < count by omega)
      have before : ∀ i < steps + more, (after cartridge i).frame < count := by
        intro i early
        rcases Nat.lt_or_ge i steps with first | since
        · exact earlier i first
        · obtain ⟨later, rfl⟩ := Nat.exists_eq_add_of_le since
          have same := within later (by omega)
          omega
      rcases outcome with ⟨next, turned⟩ | ⟨same, error, fails, turned⟩
      · obtain ⟨total, turn, ends, delivers⟩ := continues longer before (by omega)
        refine ⟨total, turn, ends, fun turns enough => ?_⟩
        cases turns with
        | zero => omega
        | succ turns =>
            rw [deliver_of_running _ _ _ turns turned]
            exact delivers turns (by omega)
      · have through : ∀ i ≤ steps + more, (after cartridge i).frame < count := by
          intro i early
          rcases Nat.lt_or_eq_of_le early with first | rfl
          · exact before i first
          · omega
        exact ⟨steps + more, _, .failed longer through error fails,
          fun turns _ => deliver_of_ended _ _ _ turns turned⟩

theorem new_endsAfter (cartridge : Cartridge) (count : Nat) :
    ∃ steps turn, EndsAfter cartridge count steps turn ∧
      ∀ turns, count ≤ turns → (new cartridge).deliver (frameLimits count) [] turns = turn := by
  have start : (after cartridge 0).frame + count = count := by
    rw [after, Console.frame_new, Nat.zero_add]
  have before (i : Nat) : ¬ i < 0 := Nat.not_lt_zero i
  rw [← counted_zero]
  exact exists_endsAfter count (fun i early => absurd early (before i))
    (fun i early => absurd early (before i)) start

theorem EndsAfter.of_first {turn : Turn} {error : CpuError}
    (fails : (Console.new cartridge).step.1 = .error error) (frames : 0 < count)
    (ends : EndsAfter cartridge count steps turn) :
    turn = { session := { console := (Console.new cartridge).step.2, frames := 0 }
             activity := .ended (some error) } := by
  have first (running : Console.Running cartridge steps) : steps = 0 := by
    rcases Nat.eq_zero_or_pos steps with none | early
    · exact none
    · obtain ⟨cycles, ran⟩ := running 0 early
      rw [Console.after, fails] at ran
      cases ran
  cases ends with
  | complete running earlier frame =>
      rw [first running, Console.after, Console.frame_new] at frame
      omega
  | failed running earlier other refused =>
      cases first running
      rw [Console.after] at refused ⊢
      rw [fails] at refused
      cases refused
      rw [Console.frame_new]

end Session

end Famicom
