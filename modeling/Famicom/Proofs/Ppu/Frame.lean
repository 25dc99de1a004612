import Famicom.Cartridge.Image
import Famicom.Proofs.Ppu.Line

namespace Famicom.Ppu

def afterDots (cartridge : Cartridge) (ppu : Ppu) : Nat → Ppu
  | 0 => ppu
  | dots + 1 => (afterDots cartridge ppu dots).tick cartridge

theorem afterDots_add (cartridge : Cartridge) (ppu : Ppu) (first second : Nat) :
    afterDots cartridge ppu (first + second) =
      afterDots cartridge (afterDots cartridge ppu first) second := by
  induction second with
  | zero => rfl
  | succ second ih =>
      show (afterDots cartridge ppu (first + second)).tick cartridge = _
      rw [ih]
      rfl

variable {scene : Scene} {cartridge : Cartridge} {overran : Bool} {line dot : Nat} {ppu : Ppu}

/-! ## Visible lines -/

structure OnLine (scene : Scene) (cartridge : Cartridge) (overran : Bool) (line dot : Nat)
    (ppu : Ppu) : Prop where
  unchanged : ppu.scene = scene
  background : scene.BackgroundOn cartridge line dot ppu.background ppu.v
  evaluation : scene.EvaluationOn line dot overran ppu.evaluation ppu.objectAddress
  sprites : scene.SpritesOn cartridge line dot ppu.sprites
  drawn : scene.Drawn cartridge (line * 256 + min 256 (dot - 1)) ppu.picture
    ppu.status.spriteZeroHit

theorem OnLine.tick (rendering : scene.mask.rendering = true) (visible : line < 240)
    (here : ppu.beam.line = line ∧ ppu.beam.dot = dot)
    (on : OnLine scene cartridge overran line dot ppu) :
    OnLine scene cartridge overran line (dot + 1) (ppu.tick cartridge) := by
  obtain ⟨rfl, rfl⟩ := here
  obtain ⟨rfl, background, evaluation, sprites, drawn⟩ := on
  have fetching : ppu.fetching = true := by
    unfold fetching Beam.onRenderingLine
    rw [visible_of_lt visible]
    exact rendering
  exact {
    unchanged := ppu.tick_scene cartridge
    background := backgroundOn_tick fetching visible background
    evaluation := evaluationOn_tick fetching visible evaluation
    sprites := spritesOn_tick fetching visible evaluation sprites
    drawn := drawn_tick fetching visible background sprites drawn }

theorem OnLine.nextLine (on : OnLine scene cartridge overran line 341 ppu) :
    OnLine scene cartridge overran (line + 1) 0 ppu where
  unchanged := on.unchanged
  background :=
    { drawing := fun _ => on.background.prefetching (by decide)
      below := by omega
      prefetching := by omega }
  evaluation :=
    { address := fun _ => on.evaluation.address (by decide)
      overrun := fun _ => on.evaluation.overrun (by decide)
      evaluating := by omega
      evaluated := by omega }
  sprites :=
    { shown := fun _ => (on.sprites.arriving (by decide)).shown
      arriving := by omega }
  drawn := by
    have places : (line + 1) * 256 + min 256 (0 - 1) = line * 256 + min 256 (341 - 1) := by omega
    rw [places]
    exact on.drawn

/-! ## The line before the picture -/

structure BeforePicture (scene : Scene) (cartridge : Cartridge) (overran : Bool) (dot : Nat)
    (ppu : Ppu) : Prop where
  unchanged : ppu.scene = scene
  copied : 258 ≤ dot → dot ≤ 304 → ppu.v.copyVertical scene.t = scene.t
  prefetching : 305 ≤ dot →
    scene.Fetched cartridge scene.t (min 17 (dot - 321)) ppu.background ppu.v
  address : 258 ≤ dot → ppu.objectAddress = 0
  overrun : ppu.evaluation.overrun = overran
  empty : 265 ≤ dot → ppu.sprites.count = 0 ∧ ppu.sprites.zeroOnLine = false
  hit : 2 ≤ dot → ppu.status.spriteZeroHit = false

section

variable (last : ppu.beam.line = 261)
include last

theorem preRender_of_last : ppu.beam.preRender = true := by
  unfold Beam.preRender
  rw [last]
  rfl

theorem not_visible_of_last : ppu.beam.visible = false := by
  unfold Beam.visible
  rw [last]
  rfl

theorem offScreen_of_last : ¬ ppu.onScreen := by
  unfold Ppu.onScreen
  omega

theorem nextSprites_of_last : ppu.nextSprites cartridge =
    if ppu.beam.dot = 264 then ppu.sprites.clear else ppu.sprites := by
  unfold nextSprites
  rw [not_visible_of_last last]
  by_cases first : ppu.beam.dot = 264
  · rw [first]
    rfl
  · rw [if_neg first]
    dsimp only
    split_ifs with fetches hidden slot
    · cases hidden
    · rw [val_residue] at slot
      omega
    · rfl
    · rfl

theorem nextV_of_last (late : 257 ≤ ppu.beam.dot) (early : ppu.beam.dot ≤ 304) : ppu.nextV =
    if ppu.beam.dot = 257 then ppu.v.copyHorizontal ppu.t
    else if 280 ≤ ppu.beam.dot then ppu.v.copyVertical ppu.t
    else ppu.v := by
  have column : ppu.fetchedColumn = ppu.v := by
    unfold fetchedColumn
    rw [if_neg]
    rw [fetchesTile_iff]
    omega
  unfold nextV
  rw [column, preRender_of_last last, if_neg (by omega)]
  simp [early]

theorem BeforePicture.tick (rendering : scene.mask.rendering = true) (here : ppu.beam.dot = dot)
    (before : BeforePicture scene cartridge overran dot ppu) :
    BeforePicture scene cartridge overran (dot + 1) (ppu.tick cartridge) := by
  subst here
  obtain ⟨rfl, copied, prefetching, address, overrun, empty, hit⟩ := before
  have fetching : ppu.fetching = true := by
    unfold fetching Beam.onRenderingLine
    rw [preRender_of_last last, Bool.or_true]
    exact rendering
  obtain ⟨sprites, _, status⟩ := ppu.tick_offScreen cartridge fetching (offScreen_of_last last)
  constructor
  · exact ppu.tick_scene cartridge
  · intro late early
    rw [tick_v ppu cartridge fetching, nextV_of_last last (by omega) (by omega)]
    split_ifs with first
    · rfl
    · exact copied (by omega) (by omega)
    · exact copied (by omega) (by omega)
  · intro late
    rw [tick_background ppu cartridge fetching, tick_v ppu cartridge fetching]
    -- The address is whole only after the last vertical copy, and there the row begins.
    by_cases first : ppu.beam.dot = 304
    · have whole : ppu.nextV = ppu.scene.t := by
        rw [nextV_of_last last (by omega) (by omega), if_neg (by omega), if_pos (by omega)]
        exact copied (by omega) (by omega)
      rw [whole, first]
      exact ppu.scene.fetched_zero cartridge _ _
    · have straight : ppu.nextV = ppu.fetchedColumn := by
        unfold nextV
        rw [if_neg (by omega), if_neg (by omega), if_neg]
        simp
        omega
      rw [straight]
      exact ppu.fetched_prefetching cartridge (by omega) (prefetching (by omega))
  · intro late
    rw [tick_objectAddress ppu cartridge fetching, nextObjectAddress_of_idle (by omega)]
    split
    · rfl
    · exact address (by omega)
  · rw [tick_evaluation, if_pos fetching]
    unfold nextEvaluation
    rw [not_visible_of_last last]
    exact overrun
  · intro late
    rw [sprites, nextSprites_of_last last]
    split
    · exact ⟨rfl, rfl⟩
    · exact empty (by omega)
  · intro late
    rw [status]
    by_cases first : ppu.beam.dot = 1
    · rw [decide_eq_true ⟨first, last⟩, Bool.not_true, Bool.and_false]
    · rw [hit (by omega), Bool.false_and]

end

theorem BeforePicture.shown (late : 265 ≤ dot)
    (before : BeforePicture scene cartridge overran dot ppu) :
    scene.Shown cartridge 0 0 ppu.sprites := by
  have uncovered (object : Fin 64) : scene.covers object 0 = false := by
    unfold Scene.covers
    exact decide_eq_false fun both => Nat.not_lt_zero _ both.1
  have none : scene.objectsOn 0 = [] := by
    unfold Scene.objectsOn
    simp [uncovered]
  constructor
  · rw [(before.empty late).1, none]
    rfl
  · rw [(before.empty late).2, uncovered]
  · intro index inside
    rw [none] at inside
    exact absurd inside (Nat.not_lt_zero index)

theorem BeforePicture.firstLine (late : 338 ≤ dot)
    (before : BeforePicture scene cartridge overran dot ppu) :
    OnLine scene cartridge overran 0 0 ppu where
  unchanged := before.unchanged
  background :=
    { drawing := fun _ => by
        have fetched := before.prefetching (by omega)
        rw [Nat.min_eq_left (by omega)] at fetched
        rw [ScrollAddress.rowsBelow_zero]
        exact fetched
      below := by omega
      prefetching := by omega }
  evaluation :=
    { address := fun _ => before.address (by omega)
      overrun := fun _ => before.overrun
      evaluating := by omega
      evaluated := by omega }
  sprites :=
    { shown := fun _ => before.shown (by omega)
      arriving := by omega }
  drawn :=
    { colours := by omega
      hits := by
        rw [before.hit (by omega)]
        constructor
        · intro never
          cases never
        · rintro ⟨place, none, _⟩
          omega }

/-! ## The whole picture -/

theorem advance_plain {beam : Beam} {rendering : Bool} (plain : beam.skipsDot rendering = false) :
    beam.advance rendering =
      if beam.dot = 340 then beam.nextLine else { beam with dot := beam.dot + 1 } := by
  have same : beam.dot + 1 = Beam.dotsPerLine ↔ beam.dot = 340 := by
    unfold Beam.dotsPerLine
    omega
  unfold Beam.advance
  rw [plain]
  simp only [Bool.false_eq_true, if_false, same]

theorem advance_within {beam : Beam} {rendering : Bool} (inside : beam.dot < 339) :
    beam.advance rendering = { beam with dot := beam.dot + 1 } := by
  have early : (beam.dot == Beam.dotsPerLine - 2) = false :=
    beq_false_of_ne (by unfold Beam.dotsPerLine; omega)
  rw [advance_plain (by simp [Beam.skipsDot, early]), if_neg (by omega)]

theorem advance_visible {beam : Beam} {rendering : Bool} (visible : beam.line < 240) :
    beam.advance rendering =
      if beam.dot = 340 then { beam with line := beam.line + 1, dot := 0 }
      else { beam with dot := beam.dot + 1 } := by
  have inside : beam.line ≠ Beam.preRenderLine := by
    unfold Beam.preRenderLine
    omega
  rw [advance_plain (by simp [Beam.skipsDot, Beam.preRender, inside]), Beam.nextLine,
    if_neg inside]

theorem advance_last {beam : Beam} (last : beam.line = 261)
    (final : beam.dot = 339 ∨ beam.dot = 340) :
    beam.advance true = if beam.dot = 339 ∧ beam.oddFrame = false then { beam with dot := 340 }
      else { line := 0, dot := 0, frame := beam.frame + 1, oddFrame := !beam.oddFrame } := by
  obtain ⟨line, dot, frame, oddFrame⟩ := beam
  simp only at last final
  subst last
  rcases final with rfl | rfl
  · cases oddFrame <;> rfl
  · cases oddFrame <;> rfl

section Run

variable (rendering : scene.mask.rendering = true)
include rendering

theorem rendering_of_unchanged (unchanged : ppu.scene = scene) : ppu.mask.rendering = true := by
  rw [← unchanged] at rendering
  exact rendering

theorem beforePicture_afterDots {dots : Nat} (inside : dots ≤ 339)
    (top : ppu.beam.line = 261 ∧ ppu.beam.dot = 0)
    (before : BeforePicture scene cartridge overran 0 ppu) :
    (afterDots cartridge ppu dots).beam.line = 261 ∧
      (afterDots cartridge ppu dots).beam.dot = dots ∧
      BeforePicture scene cartridge overran dots (afterDots cartridge ppu dots) := by
  induction dots with
  | zero => exact ⟨top.1, top.2, before⟩
  | succ dots ih =>
      obtain ⟨line, dot, before⟩ := ih (by omega)
      have beam := (afterDots cartridge ppu dots).tick_beam cartridge
      rw [advance_within (by omega)] at beam
      rw [afterDots, beam]
      exact ⟨line, by rw [dot], before.tick line rendering dot⟩

theorem exists_endOfLine (last : ppu.beam.line = 261) (dot : ppu.beam.dot = 339)
    (before : BeforePicture scene cartridge overran 339 ppu) : ∃ dots,
    (∀ earlier < dots, (afterDots cartridge ppu earlier).beam.line = 261) ∧
      (afterDots cartridge ppu dots).beam.line = 0 ∧ (afterDots cartridge ppu dots).beam.dot = 0 ∧
      OnLine scene cartridge overran 0 0 (afterDots cartridge ppu dots) := by
  have layers := rendering_of_unchanged rendering before.unchanged
  have next : BeforePicture scene cartridge overran 340 (ppu.tick cartridge) :=
    before.tick last rendering dot
  have beam := ppu.tick_beam cartridge
  rw [layers, advance_last last (.inl dot)] at beam
  cases odd : ppu.beam.oddFrame with
  | true =>
      rw [if_neg (by simp [odd])] at beam
      refine ⟨1, ?_, congrArg Beam.line beam, congrArg Beam.dot beam, next.firstLine (by decide)⟩
      intro earlier before
      rw [Nat.lt_one_iff.mp before]
      exact last
  | false =>
      rw [if_pos ⟨dot, odd⟩] at beam
      have line : (ppu.tick cartridge).beam.line = 261 := by
        rw [beam]
        exact last
      have final := (ppu.tick cartridge).tick_beam cartridge
      have dropped : ¬ ((ppu.tick cartridge).beam.dot = 339 ∧
          (ppu.tick cartridge).beam.oddFrame = false) := by
        rw [beam]
        simp
      rw [rendering_of_unchanged rendering next.unchanged, advance_last line (.inr (by rw [beam])),
        if_neg dropped] at final
      refine ⟨2, ?_, congrArg Beam.line final, congrArg Beam.dot final,
        (next.tick line rendering (by rw [beam])).firstLine (by decide)⟩
      intro earlier before
      rcases Nat.lt_succ_iff_lt_or_eq.mp before with first | rfl
      · rw [Nat.lt_one_iff.mp first]
        exact last
      · exact line

theorem exists_firstLine (top : ppu.beam.line = 261 ∧ ppu.beam.dot = 0)
    (before : BeforePicture scene cartridge overran 0 ppu) : ∃ dots,
    (∀ earlier < dots, (afterDots cartridge ppu earlier).beam.line = 261) ∧
      (afterDots cartridge ppu dots).beam.line = 0 ∧ (afterDots cartridge ppu dots).beam.dot = 0 ∧
      OnLine scene cartridge overran 0 0 (afterDots cartridge ppu dots) := by
  obtain ⟨line, dot, late⟩ := beforePicture_afterDots rendering (Nat.le_refl 339) top before
  obtain ⟨dots, earlier, ended⟩ := exists_endOfLine rendering line dot late
  refine ⟨339 + dots, ?_, by rw [afterDots_add]; exact ended⟩
  intro place inside
  by_cases first : place ≤ 339
  · exact (beforePicture_afterDots rendering first top before).1
  · obtain ⟨rest, rfl⟩ := Nat.exists_eq_add_of_le (Nat.le_of_not_le first)
    rw [afterDots_add]
    exact earlier rest (by omega)

theorem onLine_afterDots {dots : Nat} (inside : dots ≤ 240 * 341)
    (top : ppu.beam.line = 0 ∧ ppu.beam.dot = 0)
    (on : OnLine scene cartridge overran 0 0 ppu) :
    ((afterDots cartridge ppu dots).beam.line = dots / 341 ∧
      (afterDots cartridge ppu dots).beam.dot = dots % 341) ∧
      OnLine scene cartridge overran (dots / 341) (dots % 341) (afterDots cartridge ppu dots) := by
  induction dots with
  | zero => exact ⟨top, on⟩
  | succ dots ih =>
      obtain ⟨⟨line, dot⟩, on⟩ := ih (by omega)
      have visible : dots / 341 < 240 := by omega
      have next := on.tick rendering visible ⟨line, dot⟩
      have beam := (afterDots cartridge ppu dots).tick_beam cartridge
      rw [advance_visible (by omega), line, dot] at beam
      rw [afterDots, beam]
      by_cases last : dots % 341 = 340
      · have below : (dots + 1) / 341 = dots / 341 + 1 := by omega
        have first : (dots + 1) % 341 = 0 := by omega
        rw [last] at next
        rw [if_pos last, below, first]
        exact ⟨⟨rfl, rfl⟩, next.nextLine⟩
      · have same : (dots + 1) / 341 = dots / 341 := by omega
        have right : (dots + 1) % 341 = dots % 341 + 1 := by omega
        rw [if_neg last, same, right]
        exact ⟨⟨rfl, rfl⟩, next⟩

end Run

/-- From the top of the line before the picture, dots alone draw what a lookup finds at each place,
and the hit flag then tells whether the first object of memory met the background anywhere. -/
theorem frame_shows_scene (ppu : Ppu) (cartridge : Cartridge)
    (top : ppu.beam.line = 261 ∧ ppu.beam.dot = 0) (rendering : ppu.mask.rendering = true) :
    ∃ dots,
      (∀ earlier < dots, (afterDots cartridge ppu earlier).beam.line ≠ 240) ∧
      (afterDots cartridge ppu dots).beam.line = 240 ∧
      (afterDots cartridge ppu dots).beam.dot = 0 ∧
      (∀ (line : Fin 240) (column : Fin 256),
        (afterDots cartridge ppu dots).picture.read ⟨256 * line.val + column.val, by omega⟩ =
          ppu.scene.colour cartridge line.val column.val) ∧
      ((afterDots cartridge ppu dots).status.spriteZeroHit = true ↔
        ∃ line column, line < 240 ∧ ppu.scene.hits cartridge line column) ∧
      (afterDots cartridge ppu dots).evaluation.overrun = ppu.evaluation.overrun := by
  have before : BeforePicture ppu.scene cartridge ppu.evaluation.overrun 0 ppu :=
    { unchanged := rfl
      copied := by omega
      prefetching := by omega
      address := by omega
      overrun := rfl
      empty := by omega
      hit := by omega }
  have layers : ppu.scene.mask.rendering = true := rendering
  -- First the line above the picture, of one length or the other, and then its 240 lines.
  obtain ⟨lead, above, first⟩ := exists_firstLine layers top before
  have lines {dots : Nat} (inside : dots ≤ 240 * 341) :=
    onLine_afterDots layers inside ⟨first.1, first.2.1⟩ first.2.2
  have whole := lines (Nat.le_refl (240 * 341))
  rw [Nat.mul_div_cancel 240 (by decide), Nat.mul_mod_left] at whole
  obtain ⟨⟨line, dot⟩, on⟩ := whole
  refine ⟨lead + 240 * 341, ?_, ?_⟩
  · intro earlier inside
    by_cases early : earlier < lead
    · rw [above earlier early]
      decide
    · obtain ⟨rest, rfl⟩ := Nat.exists_eq_add_of_le (Nat.not_lt.mp early)
      rw [afterDots_add, (lines (show rest ≤ 240 * 341 by omega)).1.1]
      omega
  rw [afterDots_add]
  refine ⟨line, dot, ?_, ?_, on.evaluation.overrun (by decide)⟩
  · intro line column
    have row : (256 * line.val + column.val) / 256 = line.val := by omega
    have place : (256 * line.val + column.val) % 256 = column.val := by omega
    have drawn := on.drawn.colours ⟨256 * line.val + column.val, by omega⟩ (by simp only; omega)
    simp only [row, place] at drawn
    exact drawn
  · rw [on.drawn.hits]
    constructor
    · rintro ⟨place, inside, hit⟩
      exact ⟨place / 256, place % 256, by omega, hit⟩
    · rintro ⟨line, column, inside, hit⟩
      have left : column ≤ 254 := hit.1
      refine ⟨line * 256 + column, by omega, ?_⟩
      have row : (line * 256 + column) / 256 = line := by omega
      have place : (line * 256 + column) % 256 = column := by omega
      rw [row, place]
      exact hit

/-- Every pattern is opaque, so the first object meets the background in its first row. -/
def opaquePatterns : Cartridge := { Cartridge.empty with chr := Chip.fill 0x2000 0xff (by decide) }

def abovePicture : Ppu where
  palettes := Memory.fill 0x20 0x21
  mask := { byte := 0x1e }
  beam := { line := 261 }

theorem abovePicture_hits : (abovePicture.beam.line = 261 ∧ abovePicture.beam.dot = 0) ∧
    abovePicture.mask.rendering = true ∧ ∃ dots,
      (afterDots opaquePatterns abovePicture dots).beam.line = 240 ∧
      (afterDots opaquePatterns abovePicture dots).picture.read (residue 61440 256) = 0x21 ∧
      (afterDots opaquePatterns abovePicture dots).status.spriteZeroHit = true := by
  have colour : abovePicture.scene.colour opaquePatterns 1 0 = 0x21 := by decide +kernel
  have hits : abovePicture.scene.hits opaquePatterns 1 0 := by decide +kernel
  refine ⟨⟨rfl, rfl⟩, rfl, ?_⟩
  obtain ⟨dots, _, line, _, colours, hit, _⟩ :=
    frame_shows_scene abovePicture opaquePatterns ⟨rfl, rfl⟩ rfl
  exact ⟨dots, line, (colours 1 0).trans colour, hit.mpr ⟨1, 0, by decide, hits⟩⟩

end Famicom.Ppu
