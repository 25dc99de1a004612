import Famicom.Proofs.Ppu.Operation

/-!
The request for an interrupt: high while the vertical blank flag and its enable bit are both set. The
picture unit keeps its level, and each rise sets an edge that waits until the processor takes it.
-/

namespace Famicom

namespace Ppu

def nmiOutput (ppu : Ppu) : Bool := ppu.status.vblank && ppu.control.nmiEnabled

def request (ppu : Ppu) : Bool × PpuControl × Bool × Bool :=
  (ppu.status.vblank, ppu.control, ppu.nmiLevel, ppu.nmiEdge)

theorem nmiOutput_of_request {first second : Ppu} (same : first.request = second.request) :
    first.nmiOutput = second.nmiOutput := by
  simp only [request, Prod.mk.injEq] at same
  simp only [nmiOutput, same]

/-! ## Stages of a dot that do not touch the request -/

theorem runBackground_request (ppu : Ppu) (cartridge : Cartridge) :
    (ppu.runBackground cartridge).request = ppu.request := by
  obtain ⟨background, v, ran⟩ := runBackground_updates ppu cartridge
  rw [ran]
  rfl

theorem runScroll_request (ppu : Ppu) : ppu.runScroll.request = ppu.request := by
  obtain ⟨v, ran⟩ := ppu.runScroll_updates
  rw [ran]
  rfl

theorem runSprites_request (ppu : Ppu) (cartridge : Cartridge) :
    (ppu.runSprites cartridge).request = ppu.request := by
  unfold runSprites fetchSprites evaluateSprites
  dsimp only
  split_ifs <;> rfl

theorem render_request (ppu : Ppu) (cartridge : Cartridge) :
    (ppu.render cartridge).request = ppu.request := by
  unfold render
  split
  · rw [runSprites_request, runScroll_request, runBackground_request]
  · rfl

theorem output_request (ppu : Ppu) : ppu.output.request = ppu.request := by
  unfold output drawPixel
  dsimp only
  split_ifs <;> rfl

theorem request_beam (ppu : Ppu) (beam : Beam) : { ppu with beam }.request = ppu.request := rfl

/-! ## Edges -/

/-- The kept level is that of the request, and a rise since `before` has set the edge. -/
structure Tracks (before after : Ppu) : Prop where
  level : after.nmiLevel = after.nmiOutput
  edge : after.nmiEdge = (before.nmiEdge || (!before.nmiOutput && after.nmiOutput))

namespace Tracks

variable {before middle after : Ppu}

theorem of_request (level : before.nmiLevel = before.nmiOutput)
    (same : after.request = before.request) : Tracks before after := by
  have output := nmiOutput_of_request same
  simp only [request, Prod.mk.injEq] at same
  constructor
  · rw [same.2.2.1, level, output]
  · rw [same.2.2.2, output, Bool.not_and_self, Bool.or_false]

theorem updateNmi (level : before.nmiLevel = before.nmiOutput)
    (sameLevel : middle.nmiLevel = before.nmiLevel) (sameEdge : middle.nmiEdge = before.nmiEdge) :
    Tracks before middle.updateNmi where
  level := rfl
  edge := by
    rw [← level, ← sameLevel, ← sameEdge, Bool.and_comm]
    rfl

theorem trans_request (tracks : Tracks before middle) (same : after.request = middle.request) :
    Tracks before after := by
  have output := nmiOutput_of_request same
  simp only [request, Prod.mk.injEq] at same
  constructor
  · rw [same.2.2.1, tracks.level, output]
  · rw [same.2.2.2, tracks.edge, output]

end Tracks

theorem endVblank_of_blank {ppu : Ppu} (elsewhere : ppu.beam.line ≠ Beam.preRenderLine) :
    ppu.endVblank = ppu := by
  unfold endVblank
  rw [if_neg fun begins => elsewhere begins.2]

theorem startVblank_of_other {ppu : Ppu} (elsewhere : ppu.beam.line ≠ Beam.vblankLine) :
    ppu.startVblank = ppu := by
  unfold startVblank
  rw [if_neg fun begins => elsewhere begins.2]

theorem tracks_endVblank {ppu : Ppu} (level : ppu.nmiLevel = ppu.nmiOutput) :
    Tracks ppu ppu.endVblank := by
  unfold endVblank
  split
  · exact .updateNmi level rfl rfl
  · exact .of_request level rfl

theorem tracks_startVblank {ppu : Ppu} (level : ppu.nmiLevel = ppu.nmiOutput) :
    Tracks ppu ppu.startVblank := by
  unfold startVblank
  split
  · exact .updateNmi level rfl rfl
  · exact .of_request level rfl

theorem tracks_tick {ppu : Ppu} (level : ppu.nmiLevel = ppu.nmiOutput) (cartridge : Cartridge) :
    Tracks ppu (ppu.tick cartridge) := by
  have drawn : ((ppu.endVblank.render cartridge).output).request = ppu.endVblank.request := by
    rw [output_request, render_request]
  have beam : ((ppu.endVblank.render cartridge).output).beam = ppu.beam := by
    obtain ⟨_, _, _, outputs⟩ := (ppu.endVblank.render cartridge).output_updates
    obtain ⟨_, _, _, _, _, _, renders⟩ := ppu.endVblank.render_updates cartridge
    obtain ⟨_, _, _, ends⟩ := ppu.endVblank_updates
    rw [outputs, renders, ends]
  -- The flag is cleared on one line and set on another, so one of the two stages is idle.
  have moved : Tracks ppu ((ppu.endVblank.render cartridge).output).startVblank := by
    by_cases blank : ppu.beam.line = Beam.vblankLine
    · have stays : ppu.endVblank = ppu := endVblank_of_blank (by rw [blank]; decide)
      rw [stays] at drawn ⊢
      have before := Tracks.of_request level drawn
      have started := tracks_startVblank before.level
      constructor
      · exact started.level
      · rw [started.edge, before.edge, nmiOutput_of_request drawn, Bool.not_and_self,
          Bool.or_false]
    · rw [startVblank_of_other (by rwa [beam])]
      exact (tracks_endVblank level).trans_request drawn
  exact moved.trans_request (request_beam _ _)

end Ppu

namespace PpuOperation

def isQuiet : PpuOperation → Bool
  | takeNmi | reset => false
  | _ => true

theorem tracks_apply {state : Ppu × Cartridge} (level : state.1.nmiLevel = state.1.nmiOutput)
    {operation : PpuOperation} (quiet : operation.isQuiet = true) :
    Ppu.Tracks state.1 (apply state operation).1 := by
  cases operation with
  | tick => exact Ppu.tracks_tick level state.2
  | read address =>
      rcases read_cases state.1 state.2 address with ⟨_, shown⟩ | ⟨_, _, _, shown⟩
      · have acknowledged : Ppu.Tracks state.1 state.1.acknowledgeVblank :=
          .updateNmi level rfl rfl
        have same := congrArg Ppu.request shown
        exact acknowledged.trans_request same
      · have same := congrArg Ppu.request shown
        exact .of_request level same
  | write address data =>
      rcases write_cases state.1 state.2 address data with
        written | ⟨_, _, _, _, _, _, _, _, _, _, _, written⟩
      · have controlled : Ppu.Tracks state.1
            (Ppu.writeControl { state.1 with ioLatch := data } data) :=
          .updateNmi level rfl rfl
        have same := congrArg Ppu.request written
        exact controlled.trans_request same
      · have same := congrArg Ppu.request written
        exact .of_request level same
  | takeNmi => cases quiet
  | reset => cases quiet
  | board address data => exact .of_request level rfl

def Rises (state : Ppu × Cartridge) (history : List PpuOperation) : Prop :=
  ∃ before operation after, history = before ++ operation :: after ∧
    (run state before).1.nmiOutput = false ∧
    (run state (before ++ [operation])).1.nmiOutput = true

theorem not_rises_nil (state : Ppu × Cartridge) : ¬ Rises state [] := by
  rintro ⟨before, operation, after, split, _⟩
  cases before <;> cases split

theorem rises_cons (state : Ppu × Cartridge) (operation : PpuOperation)
    (rest : List PpuOperation) :
    Rises state (operation :: rest) ↔
      (state.1.nmiOutput = false ∧ (apply state operation).1.nmiOutput = true) ∨
        Rises (apply state operation) rest := by
  constructor
  · rintro ⟨before, rising, after, split, low, high⟩
    cases before with
    | nil =>
        obtain ⟨rfl, rfl⟩ := List.cons.inj split
        exact .inl ⟨low, high⟩
    | cons first before =>
        obtain ⟨rfl, rfl⟩ := List.cons.inj split
        exact .inr ⟨before, rising, after, rfl, low, high⟩
  · rintro (⟨low, high⟩ | ⟨before, rising, after, rfl, low, high⟩)
    · exact ⟨[], operation, rest, rfl, low, high⟩
    · exact ⟨operation :: before, rising, after, rfl, low, high⟩

theorem edge_run {state : Ppu × Cartridge} (level : state.1.nmiLevel = state.1.nmiOutput)
    (history : List PpuOperation) (quiet : history.all isQuiet = true) :
    (run state history).1.nmiLevel = (run state history).1.nmiOutput ∧
      ((run state history).1.nmiEdge = true ↔ state.1.nmiEdge = true ∨ Rises state history) := by
  induction history generalizing state with
  | nil => exact ⟨level, by simp [not_rises_nil, run]⟩
  | cons operation rest continues =>
      rw [List.all_cons, Bool.and_eq_true] at quiet
      have tracks := tracks_apply level quiet.1
      have later := continues tracks.level quiet.2
      refine ⟨later.1, ?_⟩
      rw [rises_cons, ← or_assoc]
      refine later.2.trans (or_congr_left ?_)
      rw [tracks.edge, Bool.or_eq_true, Bool.and_eq_true, Bool.not_eq_true']

end PpuOperation

end Famicom
