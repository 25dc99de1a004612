import Famicom.Proofs.Ppu.BackgroundLine
import Famicom.Proofs.Ppu.SpriteFetch

/-!
A visible line, dot by dot, with a layer on and nothing else touching the picture unit. Each part of
the unit has its own account of what it holds before a dot, and each dot carries every account on.
-/

namespace Famicom

namespace Scene

variable (scene : Scene) (cartridge : Cartridge)

/-! ## Background -/

structure BackgroundOn (line dot : Nat) (background : Background) (v : ScrollAddress) : Prop where
  drawing : dot ≤ 256 →
    scene.Fetched cartridge (scene.t.rowsBelow line) (max 17 (dot + 15)) background v
  below : dot = 257 → v.copyHorizontal scene.t = scene.t.rowsBelow (line + 1)
  prefetching : 258 ≤ dot →
    scene.Fetched cartridge (scene.t.rowsBelow (line + 1)) (min 17 (dot - 321)) background v

/-! ## Evaluation -/

structure EvaluationOn (line dot : Nat) (overran : Bool) (evaluation : Evaluation)
    (objectAddress : UInt8) : Prop where
  address : dot ≤ 65 ∨ 258 ≤ dot → objectAddress = 0
  overrun : dot ≤ 64 ∨ 257 ≤ dot → evaluation.overrun = overran
  evaluating : 65 ≤ dot → dot ≤ 257 → ∃ start : Evaluation, start.overrun = overran ∧
    (evaluation, objectAddress) = Evaluation.afterDots scene.objects line
      scene.control.spriteHeight (start.restart, 0) (dot - 65)
  evaluated : 257 ≤ dot → scene.Evaluated (line + 1) evaluation

/-! ## Sprites -/

structure SpritesOn (line dot : Nat) (sprites : SpriteLine) : Prop where
  shown : dot ≤ 256 → scene.Shown cartridge line (dot - 1) sprites
  arriving : 257 ≤ dot → scene.Arriving cartridge (line + 1) (min 8 ((dot - 257) / 8)) sprites

/-! ## Picture -/

/-- The places before a number, in the order the beam reaches them, are drawn, and only they have
been seen for hits. -/
structure Drawn (places : Nat) (picture : Memory 61440) (hit : Bool) : Prop where
  colours : ∀ cell : Fin 61440, cell.val < places →
    picture.read cell = scene.colour cartridge (cell.val / 256) (cell.val % 256)
  hits : hit = true ↔ ∃ place < places, scene.hits cartridge (place / 256) (place % 256)

variable {scene cartridge} in
theorem Drawn.next {places : Nat} {picture : Memory 61440} {hit seen : Bool}
    (drawn : scene.Drawn cartridge places picture hit) (inside : places < 61440)
    (hits : seen = true ↔ scene.hits cartridge (places / 256) (places % 256)) :
    scene.Drawn cartridge (places + 1)
      (picture.write ⟨places, inside⟩ (scene.colour cartridge (places / 256) (places % 256)))
      (hit || seen) := by
  constructor
  · intro cell before
    rw [Memory.read_write]
    split
    · rename_i here
      rw [← here]
    · rename_i other
      have earlier : cell.val ≠ places := fun same => other (Fin.ext same.symm)
      exact drawn.colours cell (by omega)
  · rw [Bool.or_eq_true, drawn.hits, hits]
    constructor
    · rintro (⟨place, before, hit⟩ | hit)
      · exact ⟨place, Nat.lt_succ_of_lt before, hit⟩
      · exact ⟨places, Nat.lt_succ_self places, hit⟩
    · rintro ⟨place, before, hit⟩
      rcases Nat.lt_succ_iff_lt_or_eq.mp before with earlier | rfl
      · exact .inl ⟨place, earlier, hit⟩
      · exact .inr hit

theorem paletteCell_eq (index : Nat) : Ppu.paletteCell index =
    residue 0x20 (if index % 4 = 0 then index % 0x10 else index) := by
  unfold Ppu.paletteCell
  apply Fin.ext
  split_ifs <;> simp only [val_residue] <;> omega

theorem blend_eq_colour (ppu : Ppu) (line column : Nat) :
    ppu.colour (Ppu.blend (ppu.scene.backgroundPixel cartridge line column)
      (ppu.scene.spritePixel cartridge line column)) =
      ppu.scene.colour cartridge line column := by
  unfold Ppu.colour colour paletteColour
  rw [paletteCell_eq]
  unfold Ppu.blend
  dsimp only
  cases ppu.scene.spritePixel cartridge line column <;> rfl

theorem hitsSpriteZero_of_others (background : Nat × Nat) (line column : Nat)
    (isOpaque : Fin 64 → Bool) {objects : List (Fin 64)} (others : ∀ object ∈ objects, object ≠ 0) :
    Ppu.hitsSpriteZero background
      ((objects.find? isOpaque).map (scene.shownPixel cartridge line column)) column = false := by
  cases found : objects.find? isOpaque with
  | none => rfl
  | some object =>
      have other : (object.val == 0) = false :=
        beq_false_of_ne fun same => others object (List.mem_of_find?_eq_some found) (Fin.ext same)
      simp [Ppu.hitsSpriteZero, shownPixel, other]

/-- The first object of memory wins wherever it is opaque, so a hit needs no look at the others. -/
theorem hitsSpriteZero_iff {line column : Nat} (inside : column < 256) :
    Ppu.hitsSpriteZero (scene.backgroundPixel cartridge line column)
      (scene.spritePixel cartridge line column) column = true ↔
      scene.hits cartridge line column := by
  have left : column ≠ 255 ↔ column ≤ 254 := by omega
  unfold spritePixel hits
  cases enabled : scene.mask.spritesAt column with
  | false => simp [Ppu.hitsSpriteZero]
  | true =>
      rw [if_pos rfl]
      rcases scene.objectsOn_cases line with ⟨covered, rest, objects, others⟩ | ⟨covered, others⟩
      · rw [objects, List.find?_cons]
        by_cases transparent : scene.objectPixel cartridge 0 line column = 0
        · simp [transparent, scene.hitsSpriteZero_of_others cartridge _ _ _ _ others]
        · have shows : (scene.objectPixel cartridge 0 line column != 0) = true := by
            simpa using transparent
          simp [shows, transparent, covered, Ppu.hitsSpriteZero, shownPixel, and_comm, left]
      · rw [scene.hitsSpriteZero_of_others cartridge _ _ _ _ others, covered]
        simp

end Scene

namespace Ppu

variable {ppu : Ppu} {cartridge : Cartridge} {line : Nat}

theorem not_preRender (visible : ppu.beam.line < 240) : ppu.beam.preRender = false := by
  unfold Beam.preRender
  apply beq_false_of_ne
  intro last
  rw [last] at visible
  exact absurd visible (by decide)

theorem visible_of_lt (visible : ppu.beam.line < 240) : ppu.beam.visible = true :=
  decide_eq_true visible

theorem nextV_of_visible (visible : ppu.beam.line < 240) (straight : ppu.beam.dot ≠ 256)
    (kept : ppu.beam.dot ≠ 257) : ppu.nextV = ppu.fetchedColumn := by
  unfold nextV
  rw [if_neg straight, if_neg kept, not_preRender visible]
  rfl

theorem backgroundOn_tick (fetching : ppu.fetching = true) (visible : ppu.beam.line < 240)
    (on : ppu.scene.BackgroundOn cartridge line ppu.beam.dot ppu.background ppu.v) :
    ppu.scene.BackgroundOn cartridge line (ppu.beam.dot + 1) (ppu.tick cartridge).background
      (ppu.tick cartridge).v := by
  rw [tick_background ppu cartridge fetching, tick_v ppu cartridge fetching]
  constructor
  · intro early
    rw [nextV_of_visible visible (by omega) (by omega)]
    exact ppu.fetched_drawing cartridge (by omega) (on.drawing (by omega))
  · intro last
    have dot : ppu.beam.dot = 256 := by omega
    have fetched := ppu.fetched_drawing cartridge (by omega) (on.drawing (by omega))
    have next : ppu.nextV = ppu.fetchedColumn.nextRow := by
      unfold nextV
      rw [if_pos dot]
    rw [next, fetched.address, ← ScrollAddress.rowsBelow_nextRow,
      ← ScrollAddress.columnsRight_nextRow_copyHorizontal (ppu.scene.t.rowsBelow line)]
    rfl
  · intro late
    by_cases first : ppu.beam.dot = 257
    · have next : ppu.nextV = ppu.scene.t.rowsBelow (line + 1) := by
        rw [← on.below first]
        unfold nextV fetchedColumn
        rw [first]
        rfl
      rw [next, first]
      exact ppu.scene.fetched_zero cartridge _ _
    · rw [nextV_of_visible visible (by omega) first]
      exact ppu.fetched_prefetching cartridge (by omega) (on.prefetching (by omega))

theorem nextEvaluation_of_clearing (visible : ppu.beam.line < 240) (first : 1 ≤ ppu.beam.dot)
    (clearing : ppu.beam.dot ≤ 64) : ppu.nextEvaluation = ppu.evaluation.clear ppu.beam.dot := by
  unfold nextEvaluation
  simp [visible_of_lt visible, first, clearing]

theorem next_of_evaluating (visible : ppu.beam.line < 240) (first : 65 ≤ ppu.beam.dot)
    (last : ppu.beam.dot ≤ 256) : (ppu.nextEvaluation, ppu.nextObjectAddress) =
      Evaluation.dotStep ppu.objects ppu.beam.line ppu.control.spriteHeight ppu.beam.dot
        (ppu.evaluation, ppu.objectAddress) := by
  have later : ¬ ppu.beam.dot ≤ 64 := by omega
  unfold nextEvaluation nextObjectAddress Evaluation.dotStep
  simp [visible_of_lt visible, first, last, later]

theorem nextEvaluation_of_idle (idle : ppu.beam.dot = 0 ∨ 257 ≤ ppu.beam.dot) :
    ppu.nextEvaluation = ppu.evaluation := by
  unfold nextEvaluation
  rcases idle with start | late
  · simp [start]
  · have later : ¬ ppu.beam.dot ≤ 64 := by omega
    have past : ¬ ppu.beam.dot ≤ 256 := by omega
    simp [later, past]

theorem nextObjectAddress_of_idle (idle : ppu.beam.dot ≤ 64 ∨ 257 ≤ ppu.beam.dot) :
    ppu.nextObjectAddress = if 257 ≤ ppu.beam.dot ∧ ppu.beam.dot ≤ 320 then 0
      else ppu.objectAddress := by
  unfold nextObjectAddress
  have idle : ¬ (65 ≤ ppu.beam.dot ∧ ppu.beam.dot ≤ 256) := by omega
  simp only [Bool.and_eq_true, decide_eq_true_eq, and_assoc]
  rw [if_neg fun running => idle running.2]

theorem evaluating_tick {overran : Bool} (visible : ppu.beam.line < 240)
    (on : ppu.scene.EvaluationOn ppu.beam.line ppu.beam.dot overran ppu.evaluation
      ppu.objectAddress) (first : 64 ≤ ppu.beam.dot) (last : ppu.beam.dot ≤ 256) :
    ∃ start : Evaluation, start.overrun = overran ∧
      (ppu.nextEvaluation, ppu.nextObjectAddress) =
        Evaluation.afterDots ppu.scene.objects ppu.beam.line ppu.scene.control.spriteHeight
          (start.restart, 0) (ppu.beam.dot + 1 - 65) := by
  by_cases restarts : ppu.beam.dot = 64
  · refine ⟨{ ppu.evaluation with
      pointer := 31, secondary := ppu.evaluation.secondary.write (residue 32 31) 0xff },
      on.overrun (by omega), ?_⟩
    rw [nextEvaluation_of_clearing visible (by omega) (by omega),
      nextObjectAddress_of_idle (by omega), if_neg (by omega), on.address (by omega), restarts]
    rfl
  · obtain ⟨start, same, before⟩ := on.evaluating (by omega) (by omega)
    refine ⟨start, same, ?_⟩
    rw [next_of_evaluating visible (by omega) (by omega), before, Nat.sub_add_comm (by omega),
      Evaluation.afterDots, Nat.add_sub_cancel' (by omega)]
    rfl

theorem evaluationOn_tick {overran : Bool} (fetching : ppu.fetching = true)
    (visible : ppu.beam.line < 240)
    (on : ppu.scene.EvaluationOn ppu.beam.line ppu.beam.dot overran ppu.evaluation
      ppu.objectAddress) :
    ppu.scene.EvaluationOn ppu.beam.line (ppu.beam.dot + 1) overran (ppu.tick cartridge).evaluation
      (ppu.tick cartridge).objectAddress := by
  rw [tick_evaluation, if_pos fetching, tick_objectAddress ppu cartridge fetching]
  -- On the last dot of evaluation its outcome is known.
  have outcome (last : ppu.beam.dot = 256) :
      ppu.scene.Evaluated (ppu.beam.line + 1) ppu.nextEvaluation ∧
        ppu.nextEvaluation.overrun = overran := by
    obtain ⟨start, same, ran⟩ := evaluating_tick visible on (by omega) (by omega)
    obtain ⟨after, next, whole, evaluated, kept⟩ := ppu.scene.exists_evaluated start ppu.beam.line
    rw [last, whole] at ran
    obtain ⟨rfl, _⟩ := Prod.mk.inj ran
    exact ⟨evaluated, kept.trans same⟩
  constructor
  · intro early
    by_cases fetches : 257 ≤ ppu.beam.dot ∧ ppu.beam.dot ≤ 320
    · rw [nextObjectAddress_of_idle (by omega), if_pos fetches]
    · rw [nextObjectAddress_of_idle (by omega), if_neg fetches]
      exact on.address (by omega)
  · intro settled
    by_cases last : ppu.beam.dot = 256
    · exact (outcome last).2
    · by_cases clearing : 1 ≤ ppu.beam.dot ∧ ppu.beam.dot ≤ 64
      · rw [nextEvaluation_of_clearing visible clearing.1 clearing.2]
        rw [Evaluation.clear_overrun]
        exact on.overrun (by omega)
      · rw [nextEvaluation_of_idle (by omega)]
        exact on.overrun (by omega)
  · intro first last
    exact evaluating_tick visible on (by omega) (by omega)
  · intro late
    by_cases last : ppu.beam.dot = 256
    · exact (outcome last).1
    · rw [nextEvaluation_of_idle (by omega)]
      exact on.evaluated (by omega)

theorem nextSprites_of_idle (idle : ¬ (257 ≤ ppu.beam.dot ∧ ppu.beam.dot ≤ 320 ∧
    (ppu.beam.dot - 257) % 8 = 7)) : ppu.nextSprites cartridge = ppu.sprites := by
  unfold nextSprites
  exact if_neg idle

theorem spritesOn_tick {overran : Bool} (fetching : ppu.fetching = true)
    (visible : ppu.beam.line < 240)
    (evaluation : ppu.scene.EvaluationOn ppu.beam.line ppu.beam.dot overran ppu.evaluation
      ppu.objectAddress)
    (on : ppu.scene.SpritesOn cartridge ppu.beam.line ppu.beam.dot ppu.sprites) :
    ppu.scene.SpritesOn cartridge ppu.beam.line (ppu.beam.dot + 1)
      (ppu.tick cartridge).sprites := by
  -- The slots move on the dots of the picture and are filled on later ones, never on the same dot.
  by_cases onScreen : ppu.onScreen
  · have first : 1 ≤ ppu.beam.dot := onScreen.2.1
    have last : ppu.beam.dot ≤ 256 := onScreen.2.2
    rw [(ppu.tick_onScreen cartridge fetching onScreen).1]
    constructor
    · intro early
      have shown := (on.shown (by omega)).shift
      rw [Nat.sub_add_cancel first] at shown
      exact shown
    · intro _
      have none : min 8 ((ppu.beam.dot + 1 - 257) / 8) = 0 := by omega
      rw [none]
      exact ppu.scene.arriving_zero cartridge _ _
  · have places : ppu.beam.dot = 0 ∨ 257 ≤ ppu.beam.dot := by
      unfold Ppu.onScreen at onScreen
      omega
    rw [(ppu.tick_offScreen cartridge fetching onScreen).1]
    constructor
    · intro early
      have start : ppu.beam.dot = 0 := by omega
      rw [nextSprites_of_idle (by omega)]
      have shown := on.shown (by omega)
      rw [start] at shown ⊢
      exact shown
    · intro late
      by_cases fetches : 257 ≤ ppu.beam.dot ∧ ppu.beam.dot ≤ 320 ∧ (ppu.beam.dot - 257) % 8 = 7
      · have slot : (residue 8 ((ppu.beam.dot - 257) / 8)).val = (ppu.beam.dot - 257) / 8 := by
          rw [val_residue]
          omega
        have fetched : min 8 ((ppu.beam.dot + 1 - 257) / 8) = (ppu.beam.dot - 257) / 8 + 1 := by
          omega
        have before := on.arriving (by omega)
        rw [Nat.min_eq_right (by omega), ← slot] at before
        have next := before.next (evaluation.evaluated (by omega))
        rw [fetched, ← slot]
        unfold nextSprites
        dsimp only
        rw [if_pos fetches, if_pos (visible_of_lt visible)]
        exact next
      · have same : min 8 ((ppu.beam.dot + 1 - 257) / 8) = min 8 ((ppu.beam.dot - 257) / 8) := by
          omega
        rw [nextSprites_of_idle fetches, same]
        exact on.arriving (by omega)

theorem drawnBackground_eq (onScreen : ppu.onScreen)
    (on : ppu.scene.BackgroundOn cartridge ppu.beam.line ppu.beam.dot ppu.background ppu.v) :
    ppu.drawnBackground cartridge =
      ppu.scene.backgroundPixel cartridge ppu.beam.line (ppu.beam.dot - 1) := by
  have first : 1 ≤ ppu.beam.dot := onScreen.2.1
  have fetched := ppu.fetched_drawing cartridge onScreen.2.2 (on.drawing onScreen.2.2)
  have drawn : max 17 (ppu.beam.dot + 1 + 15) = ppu.beam.dot - 1 + 17 := by omega
  unfold drawnBackground Scene.backgroundPixel
  rw [fetched.pixel ppu.fineX drawn]
  rfl

theorem drawnSprite_eq (onScreen : ppu.onScreen)
    (on : ppu.scene.SpritesOn cartridge ppu.beam.line ppu.beam.dot ppu.sprites) :
    ppu.drawnSprite = ppu.scene.spritePixel cartridge ppu.beam.line (ppu.beam.dot - 1) := by
  unfold drawnSprite spritePixel Scene.spritePixel
  rw [(on.shown onScreen.2.2).pixel]
  rfl

theorem drawn_tick (fetching : ppu.fetching = true) (visible : ppu.beam.line < 240)
    (background : ppu.scene.BackgroundOn cartridge ppu.beam.line ppu.beam.dot ppu.background ppu.v)
    (sprites : ppu.scene.SpritesOn cartridge ppu.beam.line ppu.beam.dot ppu.sprites)
    (on : ppu.scene.Drawn cartridge (ppu.beam.line * 256 + min 256 (ppu.beam.dot - 1)) ppu.picture
      ppu.status.spriteZeroHit) :
    ppu.scene.Drawn cartridge (ppu.beam.line * 256 + min 256 (ppu.beam.dot + 1 - 1))
      (ppu.tick cartridge).picture (ppu.tick cartridge).status.spriteZeroHit := by
  by_cases onScreen : ppu.onScreen
  · have first : 1 ≤ ppu.beam.dot := onScreen.2.1
    have last : ppu.beam.dot ≤ 256 := onScreen.2.2
    obtain ⟨_, picture, hit⟩ := ppu.tick_onScreen cartridge fetching onScreen
    have here : min 256 (ppu.beam.dot - 1) = ppu.beam.dot - 1 := by omega
    have next : ppu.beam.line * 256 + min 256 (ppu.beam.dot + 1 - 1) =
        ppu.beam.line * 256 + (ppu.beam.dot - 1) + 1 := by omega
    have line : (ppu.beam.line * 256 + (ppu.beam.dot - 1)) / 256 = ppu.beam.line := by omega
    have column : (ppu.beam.line * 256 + (ppu.beam.dot - 1)) % 256 = ppu.beam.dot - 1 := by omega
    rw [here] at on
    have grown := on.next (ppu.cell onScreen).isLt
      (by
        rw [line, column]
        exact ppu.scene.hitsSpriteZero_iff cartridge (by omega))
    rw [line, column, ← Scene.blend_eq_colour] at grown
    rw [next, picture, hit, drawnBackground_eq onScreen background,
      drawnSprite_eq onScreen sprites]
    exact grown
  · obtain ⟨_, picture, hit⟩ := ppu.tick_offScreen cartridge fetching onScreen
    have same : min 256 (ppu.beam.dot + 1 - 1) = min 256 (ppu.beam.dot - 1) := by
      unfold Ppu.onScreen at onScreen
      omega
    have below : ¬ (ppu.beam.dot = 1 ∧ ppu.beam.line = 261) := by omega
    rw [same, picture, hit, decide_eq_false below, Bool.not_false, Bool.and_true]
    exact on

end Ppu

end Famicom
