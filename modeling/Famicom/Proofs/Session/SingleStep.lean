import Famicom.Proofs.Console.RunUntil
import Famicom.Session.Basic

/-!
The single steps that a session takes while its console rests. A step that was asked for stays asked
for until the console rests, whatever happens before, so it can come after a start that was meant to
end the stepping. Which steps are answered, and which of them come too late, is told from the events
alone and from the turns on which the console rests.
-/

namespace Famicom

/-! ## Turns -/

structure Arrivals where
  events : List Event := []
  /-- A request to stop comes before the events are taken in. -/
  stops : Bool := false
  /-- The polls of a frame before which further requests come. -/
  stopsDuring : Nat → Bool := fun _ => false

namespace Session

def takeIn (session : Session) (arrivals : Arrivals) : Session :=
  (if arrivals.stops then session.requestStop else session).handleAll arrivals.events

def runFrameAsked (session : Session) (limits : SessionLimits) (asked : Nat → Bool) : Turn :=
  let frame := session.console.frame
  match session.console.runFrameAsked asked with
  | (.ok _, console) =>
      let frames := if console.frame = frame then session.frames else session.frames + 1
      { session := { session with console, frames }, activity := .running }
  | (.error error, console) =>
      { session := { session with console }
        activity := if limits.stopOnHalt then .ended (some error) else .running }

/-- A turn during which requests to stop may arrive at any moment. -/
def turnOn (session : Session) (limits : SessionLimits) (arrivals : Arrivals) : Turn :=
  let session := session.takeIn arrivals
  if session.isOver limits then { session, activity := .ended none }
  else if session.isResting then { session := session.rest, activity := .resting }
  else session.runFrameAsked limits arrivals.stopsDuring

theorem runFrameAsked_never (session : Session) (limits : SessionLimits) :
    session.runFrameAsked limits (fun _ => false) = session.runFrame limits := by
  unfold runFrameAsked runFrame
  exact session.console.runFrameAsked_never ▸ rfl

theorem turnOn_undisturbed (session : Session) (limits : SessionLimits) (events : List Event)
    (stops : Bool) : session.turnOn limits { events, stops } =
      (if stops then session.requestStop else session).turn limits events := by
  unfold turnOn turn takeIn
  simp only [runFrameAsked_never]

section Turn

variable (session : Session) (limits : SessionLimits)

theorem handle_stepRequested (event : Event) :
    (session.handle event).stepRequested = true ↔
      session.stepRequested = true ∨ event = .step := by
  cases event with
  | load image =>
      simp only [handle]
      split <;> simp
  | _ => simp [handle]

theorem handleAll_stepRequested (events : List Event) :
    (session.handleAll events).stepRequested = true ↔
      session.stepRequested = true ∨ .step ∈ events := by
  induction events generalizing session with
  | nil => simp [handleAll]
  | cons event rest continues =>
      have first := session.handle_stepRequested event
      have later := continues (session.handle event)
      show ((session.handle event).handleAll rest).stepRequested = true ↔ _
      rw [later, first, List.mem_cons, or_assoc, @eq_comm Event .step event]

theorem handle_paused {event : Event} (other : event ≠ .start)
    (paused : session.console.paused = true) : (session.handle event).console.paused = true := by
  cases event with
  | load image =>
      simp only [handle, Console.load]
      cases Cartridge.load image with
      | ok cartridge => exact paused
      | error error => exact paused
  | start => contradiction
  | reset => exact paused
  | pause => rfl
  | step => rfl
  | quit => exact paused

theorem handleAll_paused {events : List Event} (others : .start ∉ events)
    (paused : session.console.paused = true) :
    (session.handleAll events).console.paused = true := by
  induction events generalizing session with
  | nil => exact paused
  | cons event rest continues =>
      rw [List.mem_cons, not_or] at others
      exact continues (session.handle event) others.2
        (session.handle_paused (Ne.symm others.1) paused)

theorem runFrameAsked_stepRequested (asked : Nat → Bool) :
    (session.runFrameAsked limits asked).session.stepRequested = session.stepRequested := by
  unfold runFrameAsked
  dsimp only
  split <;> rfl

end Turn

/-! ## What the events tell -/

/-- The last step among the events, if there is one, comes after the last start. -/
def StepSinceStart (events : List Event) : Prop :=
  ∃ before after, events = before ++ .step :: after ∧ .start ∉ after

def StartsAfterStep (events : List Event) : Prop :=
  .step ∈ events ∧ ¬ StepSinceStart events

theorem stepSinceStart_append (first second : List Event) :
    StepSinceStart (first ++ second) ↔
      StepSinceStart second ∨ StepSinceStart first ∧ .start ∉ second := by
  constructor
  · rintro ⟨before, after, split, none⟩
    rcases List.append_eq_append_iff.mp split with ⟨between, rfl, rest⟩ | ⟨between, rest, later⟩
    · exact .inl ⟨between, after, rest, none⟩
    · cases between with
      | nil => exact .inl ⟨[], after, later.symm, none⟩
      | cons event between =>
          obtain ⟨rfl, rfl⟩ := List.cons_eq_cons.mp later
          have split : .start ∉ between ∧ .start ∉ second :=
            not_or.mp fun either => none (List.mem_append.mpr either)
          exact .inr ⟨⟨before, between, rest, split.1⟩, split.2⟩
  · rintro (⟨before, after, rfl, none⟩ | ⟨⟨before, after, rfl, none⟩, also⟩)
    · exact ⟨first ++ before, after, by rw [List.append_assoc], none⟩
    · refine ⟨before, after ++ second, by rw [List.append_assoc, List.cons_append], ?_⟩
      rw [List.mem_append, not_or]
      exact ⟨none, also⟩

theorem stepSinceStart_of_mem {events : List Event} (asked : .step ∈ events)
    (none : .start ∉ events) : StepSinceStart events := by
  obtain ⟨before, after, rfl⟩ := List.append_of_mem asked
  refine ⟨before, after, rfl, fun later => none ?_⟩
  exact List.mem_append_right before (List.mem_cons_of_mem _ later)

theorem StepSinceStart.mem {events : List Event} (since : StepSinceStart events) :
    .step ∈ events := by
  obtain ⟨before, after, rfl, _⟩ := since
  exact List.mem_append_right before List.mem_cons_self

theorem StepSinceStart.paused {events : List Event} (since : StepSinceStart events)
    (session : Session) : (session.handleAll events).console.paused = true := by
  obtain ⟨before, after, rfl, none⟩ := since
  unfold handleAll
  rw [List.foldl_append, List.foldl_cons]
  exact handleAll_paused _ none rfl

/-! ## Many turns -/

section Turns

variable (limits : SessionLimits) (console : Console) (inputs : Nat → Arrivals)

def sessionAt : Nat → Session
  | 0 => { console }
  | turns + 1 => ((sessionAt turns).turnOn limits (inputs turns)).session

def handledAt (turns : Nat) : Session := (sessionAt limits console inputs turns).takeIn (inputs turns)

def Reached (turns : Nat) : Prop :=
  ∀ earlier < turns, ∀ error,
    ((sessionAt limits console inputs earlier).turnOn limits (inputs earlier)).activity ≠ .ended error

def Rests (turns : Nat) : Prop :=
  Reached limits console inputs turns ∧
    (handledAt limits console inputs turns).isOver limits = false ∧
    (handledAt limits console inputs turns).isResting = true

def TakesStep (turns : Nat) : Prop :=
  Rests limits console inputs turns ∧
    (handledAt limits console inputs turns).stepRequested = true

def consumed : Nat → List Event
  | 0 => []
  | turns + 1 => consumed turns ++ (inputs turns).events

variable {limits console inputs} {turns : Nat}

theorem handledAt_stepRequested :
    (handledAt limits console inputs turns).stepRequested = true ↔
      (sessionAt limits console inputs turns).stepRequested = true ∨
        .step ∈ (inputs turns).events := by
  unfold handledAt takeIn
  rw [handleAll_stepRequested]
  split <;> rfl

theorem Reached.before (reached : Reached limits console inputs (turns + 1)) :
    Reached limits console inputs turns :=
  fun earlier inside => reached earlier (Nat.lt_succ_of_lt inside)

theorem Reached.not_over (reached : Reached limits console inputs (turns + 1)) :
    (handledAt limits console inputs turns).isOver limits = false := by
  cases finished : (handledAt limits console inputs turns).isOver limits with
  | false => rfl
  | true =>
      refine absurd ?_ (reached turns (Nat.lt_succ_self turns) none)
      unfold turnOn
      exact congrArg Turn.activity (if_pos finished)

theorem sessionAt_of_rests (rests : Rests limits console inputs turns) :
    sessionAt limits console inputs (turns + 1) = (handledAt limits console inputs turns).rest := by
  obtain ⟨_, goes, resting⟩ := rests
  unfold handledAt at goes resting ⊢
  rw [sessionAt, turnOn]
  simp only [goes, resting, Bool.false_eq_true, if_false, if_true]

theorem sessionAt_of_runs (reached : Reached limits console inputs (turns + 1))
    (runs : ¬ Rests limits console inputs turns) :
    (handledAt limits console inputs turns).isResting = false ∧
      sessionAt limits console inputs (turns + 1) =
        ((handledAt limits console inputs turns).runFrameAsked limits
          (inputs turns).stopsDuring).session := by
  have goes := reached.not_over
  have busy : (handledAt limits console inputs turns).isResting = false :=
    Bool.eq_false_iff.mpr fun resting => runs ⟨reached.before, goes, resting⟩
  refine ⟨busy, ?_⟩
  unfold handledAt at goes busy ⊢
  rw [sessionAt, turnOn]
  simp only [goes, busy, Bool.false_eq_true, if_false]

theorem takesStep_iff : TakesStep limits console inputs turns ↔
    Rests limits console inputs turns ∧
      ((sessionAt limits console inputs turns).stepRequested = true ∨
        .step ∈ (inputs turns).events) := by
  unfold TakesStep
  rw [handledAt_stepRequested]

theorem sessionAt_stepRequested (reached : Reached limits console inputs (turns + 1)) :
    (sessionAt limits console inputs (turns + 1)).stepRequested = true ↔
      ¬ Rests limits console inputs turns ∧
        ((sessionAt limits console inputs turns).stepRequested = true ∨
          .step ∈ (inputs turns).events) := by
  rw [← handledAt_stepRequested]
  by_cases rests : Rests limits console inputs turns
  · rw [sessionAt_of_rests rests]
    unfold rest
    split_ifs with asked
    · simp [rests]
    · simp [rests, asked]
  · rw [(sessionAt_of_runs reached rests).2, runFrameAsked_stepRequested]
    simp [rests]

theorem not_stepSinceStart_of_runs (reached : Reached limits console inputs (turns + 1))
    (runs : ¬ Rests limits console inputs turns) : ¬ StepSinceStart (inputs turns).events := by
  intro since
  have busy := (sessionAt_of_runs reached runs).1
  unfold isResting handledAt takeIn at busy
  rw [since.paused, Bool.true_or] at busy
  cases busy

/-- A step that is still asked for between two turns comes too late. -/
theorem not_stepSinceStart_of_stepRequested (reached : Reached limits console inputs turns)
    (asked : (sessionAt limits console inputs turns).stepRequested = true) :
    ¬ StepSinceStart (consumed inputs turns) := by
  induction turns with
  | zero => cases asked
  | succ turns continues =>
      obtain ⟨runs, asked⟩ := (sessionAt_stepRequested reached).mp asked
      have stale := not_stepSinceStart_of_runs reached runs
      rw [consumed, stepSinceStart_append]
      rintro (since | ⟨since, none⟩)
      · exact stale since
      · rcases asked with before | now
        · exact continues reached.before before since
        · exact stale (stepSinceStart_of_mem now none)

theorem stepRequested_iff (reached : Reached limits console inputs turns) :
    (sessionAt limits console inputs turns).stepRequested = true ↔
      ∃ origin < turns, .step ∈ (inputs origin).events ∧
        ∀ other < turns, origin ≤ other → ¬ TakesStep limits console inputs other := by
  induction turns with
  | zero => exact ⟨nofun, fun ⟨_, before, _⟩ => absurd before (Nat.not_lt_zero _)⟩
  | succ turns continues =>
      have before := continues reached.before
      rw [sessionAt_stepRequested reached, Nat.exists_lt_succ_right]
      simp only [Nat.forall_lt_succ_right]
      constructor
      · rintro ⟨runs, asked⟩
        have untaken : ¬ TakesStep limits console inputs turns := fun takes => runs takes.1
        rcases asked with asked | now
        · obtain ⟨origin, earlier, asks, none⟩ := before.mp asked
          exact .inl ⟨origin, earlier, asks, none, fun _ => untaken⟩
        · exact .inr ⟨now, fun other earlier later => absurd earlier (Nat.not_lt.mpr later),
            fun _ => untaken⟩
      · rintro (⟨origin, earlier, asks, none, untaken⟩ | ⟨now, _, untaken⟩)
        · have asked := before.mpr ⟨origin, earlier, asks, none⟩
          exact ⟨fun rests => untaken (Nat.le_of_lt earlier) (takesStep_iff.mpr ⟨rests, .inl asked⟩),
            .inl asked⟩
        · exact ⟨fun rests => untaken (Nat.le_refl turns) (takesStep_iff.mpr ⟨rests, .inr now⟩),
            .inr now⟩

/-- What is asked for between two turns was asked for before a start in the same batch, and since
then only frames were run. -/
theorem stepRequested_iff_startsAfterStep (reached : Reached limits console inputs turns) :
    (sessionAt limits console inputs turns).stepRequested = true ↔
      ∃ origin < turns, StartsAfterStep (inputs origin).events ∧
        (∀ other < turns, origin < other → .step ∉ (inputs other).events) ∧
        ∀ other < turns, origin ≤ other → ¬ Rests limits console inputs other := by
  induction turns with
  | zero => exact ⟨nofun, fun ⟨_, before, _⟩ => absurd before (Nat.not_lt_zero _)⟩
  | succ turns continues =>
      rw [sessionAt_stepRequested reached, continues reached.before, Nat.exists_lt_succ_right]
      simp only [Nat.forall_lt_succ_right]
      constructor
      · rintro ⟨runs, asked⟩
        by_cases now : .step ∈ (inputs turns).events
        · exact .inr ⟨⟨now, not_stepSinceStart_of_runs reached runs⟩,
            ⟨fun other before later => absurd before (Nat.not_lt.mpr (Nat.le_of_lt later)),
              fun later => absurd later (Nat.lt_irrefl turns)⟩,
            fun other before later => absurd before (Nat.not_lt.mpr later), fun _ => runs⟩
        · obtain ⟨origin, before, starts, none, busy⟩ := asked.resolve_right now
          exact .inl ⟨origin, before, starts, ⟨none, fun _ => now⟩, busy, fun _ => runs⟩
      · rintro (⟨origin, before, starts, ⟨none, _⟩, busy, runs⟩ | ⟨starts, _, _, runs⟩)
        · exact ⟨runs (Nat.le_of_lt before), .inl ⟨origin, before, starts, none, busy⟩⟩
        · exact ⟨runs (Nat.le_refl turns), .inr starts.1⟩

theorem sessionAt_of_takesStep (takes : TakesStep limits console inputs turns) :
    (sessionAt limits console inputs (turns + 1)).console =
      (handledAt limits console inputs turns).console.step.2 := by
  rw [sessionAt_of_rests takes.1]
  unfold rest
  rw [if_pos takes.2]

theorem takesStep_iff_exists : TakesStep limits console inputs turns ↔
    Rests limits console inputs turns ∧
      ∃ origin ≤ turns, .step ∈ (inputs origin).events ∧
        ∀ other < turns, origin ≤ other → ¬ TakesStep limits console inputs other := by
  rw [takesStep_iff]
  refine and_congr_right fun rests => ?_
  rw [stepRequested_iff rests.1]
  constructor
  · rintro (⟨origin, before, asks, none⟩ | now)
    · exact ⟨origin, Nat.le_of_lt before, asks, none⟩
    · exact ⟨turns, Nat.le_refl turns, now,
        fun other before later => absurd before (Nat.not_lt.mpr later)⟩
  · rintro ⟨origin, inside, asks, none⟩
    rcases Nat.lt_or_eq_of_le inside with before | rfl
    · exact .inl ⟨origin, before, asks, none⟩
    · exact .inr asks

theorem stale_iff :
    TakesStep limits console inputs turns ∧ ¬ StepSinceStart (consumed inputs (turns + 1)) ↔
      Rests limits console inputs turns ∧
        ∃ origin ≤ turns, StartsAfterStep (inputs origin).events ∧
          (∀ other ≤ turns, origin < other → .step ∉ (inputs other).events) ∧
          ∀ other < turns, origin ≤ other → ¬ Rests limits console inputs other := by
  rw [takesStep_iff, consumed, stepSinceStart_append, and_assoc]
  refine and_congr_right fun rests => ?_
  constructor
  · rintro ⟨asked, stale⟩
    rw [not_or] at stale
    by_cases now : .step ∈ (inputs turns).events
    · exact ⟨turns, Nat.le_refl turns, ⟨now, stale.1⟩,
        fun other inside later => absurd inside (Nat.not_le.mpr later),
        fun other before later => absurd before (Nat.not_lt.mpr later)⟩
    · -- Nothing asks on this turn, so the request is one that an earlier start has left behind.
      obtain ⟨origin, before, starts, none, busy⟩ :=
        (stepRequested_iff_startsAfterStep rests.1).mp (asked.resolve_right now)
      refine ⟨origin, Nat.le_of_lt before, starts, ?_, busy⟩
      intro other inside later
      rcases Nat.lt_or_eq_of_le inside with earlier | rfl
      · exact none other earlier later
      · exact now
  · rintro ⟨origin, inside, starts, none, busy⟩
    rcases Nat.lt_or_eq_of_le inside with before | rfl
    · have asked := (stepRequested_iff_startsAfterStep rests.1).mpr
        ⟨origin, before, starts, fun other earlier => none other (Nat.le_of_lt earlier), busy⟩
      refine ⟨.inl asked, ?_⟩
      rintro (since | ⟨since, _⟩)
      · exact none turns (Nat.le_refl turns) before since.mem
      · exact not_stepSinceStart_of_stepRequested rests.1 asked since
    · refine ⟨.inr starts.1, ?_⟩
      rintro (since | ⟨_, unstarted⟩)
      · exact starts.2 since
      · exact starts.2 (stepSinceStart_of_mem starts.1 unstarted)

end Turns

/-- A resting turn takes a single step exactly if one was asked for and none was taken since then.
The step comes after a start that followed the last request exactly if both came on one turn and the
session has not rested since then. -/
theorem singleStep_taken (limits : SessionLimits) (console : Console) (inputs : Nat → Arrivals)
    (turn : Nat) :
    (TakesStep limits console inputs turn →
      (sessionAt limits console inputs (turn + 1)).console =
        (handledAt limits console inputs turn).console.step.2) ∧
    (TakesStep limits console inputs turn ↔ Rests limits console inputs turn ∧
      ∃ origin ≤ turn, .step ∈ (inputs origin).events ∧
        ∀ other < turn, origin ≤ other → ¬ TakesStep limits console inputs other) ∧
    (TakesStep limits console inputs turn ∧ ¬ StepSinceStart (consumed inputs (turn + 1)) ↔
      Rests limits console inputs turn ∧
        ∃ origin ≤ turn, StartsAfterStep (inputs origin).events ∧
          (∀ other ≤ turn, origin < other → .step ∉ (inputs other).events) ∧
          ∀ other < turn, origin ≤ other → ¬ Rests limits console inputs other) :=
  ⟨sessionAt_of_takesStep, takesStep_iff_exists, stale_iff⟩

def startedAndPaused (turn : Nat) : Arrivals :=
  if turn = 0 then { events := [.step, .start, .pause] } else {}

/-- The pause after a start runs an instruction that was asked for before the start. -/
theorem startedAndPaused_steps :
    let limits : SessionLimits := { frames := none, stopOnHalt := false }
    let console := Console.new Cartridge.empty
    TakesStep limits console startedAndPaused 0 ∧
      ¬ StepSinceStart (consumed startedAndPaused 1) := by
  intro limits console
  have rests : Rests limits console startedAndPaused 0 := ⟨nofun, rfl, rfl⟩
  refine stale_iff.mpr ⟨rests, 0, Nat.le_refl 0, ⟨List.mem_cons_self, ?_⟩, by omega, by omega⟩
  show ¬ StepSinceStart ([.step] ++ [.start, .pause])
  rw [stepSinceStart_append]
  rintro (since | ⟨_, none⟩)
  · have asked := since.mem
    simp at asked
  · exact none List.mem_cons_self

end Session

end Famicom
