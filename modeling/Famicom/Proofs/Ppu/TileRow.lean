import Famicom.Proofs.Ppu.Frame

/-!
One row of tiles, from its first fetches at the end of a line to its last pixel on the next one. What
the shifters and the fetch latches held before does not show.
-/

namespace Famicom.Ppu

variable {ppu : Ppu} {cartridge : Cartridge} {row : ScrollAddress}

theorem scroll_stays (late : 305 ≤ ppu.beam.dot ∨ ppu.beam.dot ≤ 255) :
    ppu.nextV = ppu.fetchedColumn := by
  unfold nextV
  rw [if_neg (by omega), if_neg (by omega), if_neg]
  simp only [Bool.and_eq_true, decide_eq_true_eq]
  omega

structure Prefetching (scene : Scene) (cartridge : Cartridge) (row : ScrollAddress) (dot : Nat)
    (ppu : Ppu) : Prop where
  unchanged : ppu.scene = scene
  fetched : scene.Fetched cartridge row (min 17 (dot - 321)) ppu.background ppu.v

structure Drawing (scene : Scene) (cartridge : Cartridge) (row : ScrollAddress) (dot : Nat)
    (ppu : Ppu) : Prop where
  unchanged : ppu.scene = scene
  fetched : scene.Fetched cartridge row (max 17 (dot + 15)) ppu.background ppu.v

variable {scene : Scene} {dot : Nat}

theorem Prefetching.tick (fetching : ppu.fetching = true) (here : ppu.beam.dot = dot)
    (late : 321 ≤ dot) (prefetching : Prefetching scene cartridge row dot ppu) :
    Prefetching scene cartridge row (dot + 1) (ppu.tick cartridge) := by
  subst here
  obtain ⟨rfl, fetched⟩ := prefetching
  refine ⟨ppu.tick_scene cartridge, ?_⟩
  rw [tick_background ppu cartridge fetching, tick_v ppu cartridge fetching,
    scroll_stays (by omega)]
  exact ppu.fetched_prefetching cartridge (by omega) fetched

theorem Drawing.tick (fetching : ppu.fetching = true) (here : ppu.beam.dot = dot)
    (early : dot ≤ 255) (drawing : Drawing scene cartridge row dot ppu) :
    Drawing scene cartridge row (dot + 1) (ppu.tick cartridge) := by
  subst here
  obtain ⟨rfl, fetched⟩ := drawing
  refine ⟨ppu.tick_scene cartridge, ?_⟩
  rw [tick_background ppu cartridge fetching, tick_v ppu cartridge fetching,
    scroll_stays (by omega)]
  exact ppu.fetched_drawing cartridge (by omega) fetched

theorem Drawing.selected {column : Nat} (fetching : ppu.fetching = true)
    (here : ppu.beam.dot = column + 1) (early : column ≤ 255)
    (drawing : Drawing scene cartridge row (column + 1) ppu) :
    (ppu.tick cartridge).background = (ppu.render cartridge).background ∧
      ((ppu.render cartridge).background.pattern.pixel (ppu.render cartridge).fineX.val,
        (ppu.render cartridge).background.palette.pixel (ppu.render cartridge).fineX.val) =
          scene.rowPixel cartridge row (scene.fineX.val + column) := by
  obtain ⟨rfl, fetched⟩ := drawing
  obtain ⟨_, _, rendered⟩ := ppu.render_eq cartridge fetching
  rw [← here] at fetched
  have complete := ppu.fetched_drawing cartridge (by omega) fetched
  rw [tick_background ppu cartridge fetching, rendered]
  exact ⟨rfl, complete.pixel ppu.fineX (by omega)⟩

theorem Prefetching.nextLine (late : 338 ≤ dot)
    (prefetching : Prefetching scene cartridge row dot ppu) :
    Drawing scene cartridge row 0 ppu := by
  refine ⟨prefetching.unchanged, ?_⟩
  have whole : min 17 (dot - 321) = 17 := by omega
  have fetched := prefetching.fetched
  rw [whole] at fetched
  exact fetched

/-! ## From one line to the next -/

def PrecedesVisible (line : Nat) : Prop := line < 239 ∨ line = 261

def lineAfter (line : Nat) : Nat := if line = 261 then 0 else line + 1

theorem lineAfter_lt {line : Nat} (precedes : PrecedesVisible line) : lineAfter line < 240 := by
  unfold PrecedesVisible at precedes
  unfold lineAfter
  split <;> omega

theorem fetching_of_visible (visible : ppu.beam.line < 240) (rendering : ppu.mask.rendering = true) :
    ppu.fetching = true := by
  unfold fetching Beam.onRenderingLine
  rw [rendering, visible_of_lt visible]
  rfl

theorem fetching_of_precedesVisible (precedes : PrecedesVisible ppu.beam.line)
    (rendering : ppu.mask.rendering = true) : ppu.fetching = true := by
  unfold fetching Beam.onRenderingLine
  rw [rendering, Bool.and_true]
  rcases precedes with visible | last
  · rw [visible_of_lt (by omega), Bool.true_or]
  · rw [preRender_of_last last, Bool.or_true]

/-- The dots from dot 321 to the end of the line, which an odd frame shortens. -/
def dotsToLineEnd (beam : Beam) : Nat := if beam.line = 261 ∧ beam.oddFrame = true then 19 else 20

theorem nextLine_place (beam : Beam) :
    beam.nextLine.line = lineAfter beam.line ∧ beam.nextLine.dot = 0 := by
  unfold Beam.nextLine lineAfter Beam.preRenderLine
  split <;> exact ⟨rfl, rfl⟩

theorem advance_toLineEnd {beam : Beam} {dots : Nat} (place : beam.dot = 321 + dots)
    (inside : dots < dotsToLineEnd beam) : beam.advance true =
      if dots + 1 = dotsToLineEnd beam then beam.nextLine
      else { beam with dot := 321 + (dots + 1) } := by
  have eighteen : 321 + dots = 341 - 2 ↔ dots = 18 := by omega
  have skips : beam.skipsDot true = true ↔
      dots = 18 ∧ beam.line = 261 ∧ beam.oddFrame = true := by
    simp only [Beam.skipsDot, Beam.preRender, Beam.preRenderLine, Beam.dotsPerLine, place,
      Bool.and_true, Bool.and_eq_true, beq_iff_eq, eighteen]
    tauto
  have ends : beam.dot + (if beam.skipsDot true then 2 else 1) = 341 ↔
      dots + 1 = dotsToLineEnd beam := by
    unfold dotsToLineEnd at inside ⊢
    simp only [skips, place]
    by_cases short : beam.line = 261 ∧ beam.oddFrame = true
    · simp only [short, and_self, and_true, if_true] at inside ⊢
      split <;> omega
    · simp only [short, and_false, if_false] at inside ⊢
      omega
  unfold Beam.advance Beam.dotsPerLine
  simp only [ends]
  split
  · rfl
  · rename_i stays
    have plain : ¬ beam.skipsDot true = true := by
      rw [skips]
      rintro ⟨rfl, short⟩
      unfold dotsToLineEnd at stays
      exact stays (if_pos short).symm
    rw [if_neg plain, place, Nat.add_assoc]

section Run

variable (cartridge) (rendering : ppu.mask.rendering = true) (place : ppu.beam.dot = 321)
  (precedes : PrecedesVisible ppu.beam.line)
include rendering place precedes

theorem prefetching_afterDots {dots : Nat} (inside : dots < dotsToLineEnd ppu.beam) :
    (afterDots cartridge ppu dots).beam = { ppu.beam with dot := 321 + dots } ∧
      Prefetching ppu.scene cartridge ppu.v (321 + dots) (afterDots cartridge ppu dots) := by
  have layers : ppu.scene.mask.rendering = true := rendering
  induction dots with
  | zero =>
      have here : { ppu.beam with dot := 321 } = ppu.beam := by rw [← place]
      have none : min 17 (321 + 0 - 321) = 0 := rfl
      refine ⟨here.symm, rfl, ?_⟩
      rw [none]
      exact ppu.scene.fetched_zero cartridge ppu.v ppu.background
  | succ dots continues =>
      obtain ⟨beam, prefetching⟩ := continues (by omega)
      have dot : (afterDots cartridge ppu dots).beam.dot = 321 + dots := by rw [beam]
      have line : (afterDots cartridge ppu dots).beam.line = ppu.beam.line := by rw [beam]
      have length : dotsToLineEnd (afterDots cartridge ppu dots).beam = dotsToLineEnd ppu.beam := by
        rw [beam]
        rfl
      have lit := rendering_of_unchanged layers prefetching.unchanged
      have moved := (afterDots cartridge ppu dots).tick_beam cartridge
      rw [lit, advance_toLineEnd dot (by omega), length, if_neg (by omega), beam] at moved
      have next := prefetching.tick
        (fetching_of_precedesVisible (line.symm ▸ precedes) lit) dot (by omega)
      exact ⟨moved, next⟩

theorem drawing_atLineEnd :
    let next := afterDots cartridge ppu (dotsToLineEnd ppu.beam)
    (next.beam.line = lineAfter ppu.beam.line ∧ next.beam.dot = 0) ∧
      Drawing ppu.scene cartridge ppu.v 0 next := by
  have layers : ppu.scene.mask.rendering = true := rendering
  have long : 18 < dotsToLineEnd ppu.beam := by
    unfold dotsToLineEnd
    split <;> decide
  obtain ⟨last, whole⟩ := Nat.exists_eq_succ_of_ne_zero (by omega : dotsToLineEnd ppu.beam ≠ 0)
  obtain ⟨beam, prefetching⟩ := prefetching_afterDots cartridge rendering place precedes
    (by omega : last < dotsToLineEnd ppu.beam)
  have dot : (afterDots cartridge ppu last).beam.dot = 321 + last := by rw [beam]
  have line : (afterDots cartridge ppu last).beam.line = ppu.beam.line := by rw [beam]
  have length : dotsToLineEnd (afterDots cartridge ppu last).beam = dotsToLineEnd ppu.beam := by
    rw [beam]
    rfl
  have lit := rendering_of_unchanged layers prefetching.unchanged
  have moved := (afterDots cartridge ppu last).tick_beam cartridge
  rw [lit, advance_toLineEnd dot (by omega), length, if_pos whole.symm] at moved
  have next := prefetching.tick (fetching_of_precedesVisible (line.symm ▸ precedes) lit) dot
    (by omega)
  rw [whole]
  refine ⟨?_, next.nextLine (by omega)⟩
  rw [← line, afterDots, moved]
  exact nextLine_place _

theorem drawing_afterDots {dots : Nat} (inside : dots ≤ 256) :
    let drawn := afterDots cartridge ppu (dotsToLineEnd ppu.beam + dots)
    (drawn.beam.line = lineAfter ppu.beam.line ∧ drawn.beam.dot = dots) ∧
      Drawing ppu.scene cartridge ppu.v dots drawn := by
  have layers : ppu.scene.mask.rendering = true := rendering
  induction dots with
  | zero => exact drawing_atLineEnd cartridge rendering place precedes
  | succ dots continues =>
      obtain ⟨⟨line, dot⟩, drawing⟩ := continues (by omega)
      have visible := lineAfter_lt precedes
      rw [← line] at visible
      have lit := rendering_of_unchanged layers drawing.unchanged
      have moved := (afterDots cartridge ppu (dotsToLineEnd ppu.beam + dots)).tick_beam cartridge
      rw [lit, advance_within (by omega)] at moved
      refine ⟨?_, drawing.tick (fetching_of_visible visible lit) dot (by omega)⟩
      rw [← Nat.add_assoc, afterDots, moved]
      exact ⟨line, congrArg (· + 1) dot⟩

end Run

/-- On each line of the picture fine scrolling selects the pixels that a lookup finds along the row
of tiles at which the prefetches of the line before began. -/
theorem row_shows_tiles (ppu : Ppu) (cartridge : Cartridge) (place : ppu.beam.dot = 321)
    (precedes : PrecedesVisible ppu.beam.line) (rendering : ppu.mask.rendering = true)
    (column : Fin 256) :
    let here := afterDots cartridge ppu (dotsToLineEnd ppu.beam + (column.val + 1))
    let drawing := here.render cartridge
    (here.beam.line = lineAfter ppu.beam.line ∧ here.beam.dot = column.val + 1) ∧
      (here.tick cartridge).background = drawing.background ∧
      (drawing.background.pattern.pixel drawing.fineX.val,
        drawing.background.palette.pixel drawing.fineX.val) =
          ppu.scene.rowPixel cartridge ppu.v (ppu.fineX.val + column.val) := by
  obtain ⟨⟨line, dot⟩, drawing⟩ :=
    drawing_afterDots cartridge rendering place precedes (show column.val + 1 ≤ 256 by omega)
  have visible := lineAfter_lt precedes
  rw [← line] at visible
  have layers : ppu.scene.mask.rendering = true := rendering
  have fetching := fetching_of_visible visible (rendering_of_unchanged layers drawing.unchanged)
  exact ⟨⟨line, dot⟩, drawing.selected fetching dot (by omega)⟩

def sideBySide : Cartridge :=
  { opaquePatterns with mapper := .nrom { mirroring := .vertical, prgBanks := 1 } }

/-- Before the shortened line of an odd frame, with the row's first tile the last of its nametable
and leftovers in the latches and shifters. -/
def lastColumnFirst : Ppu where
  nametables := (Memory.fill 0x1000 0).write (residue 0x1000 0x7c7) 0x08
  mask := { byte := 0x10 }
  v := { coarseX := residue 32 31 }
  fineX := residue 8 7
  background := { tile := 0x55, patternLow := 0x5a, pattern := { low := 0xffff, high := 0x1234 } }
  beam := { line := 261, dot := 321, frame := 1, oddFrame := true }

/-- The last pixel of the line belongs to the thirty-third tile, in the nametable to the right. -/
theorem lastColumnFirst_shows : lastColumnFirst.beam.dot = 321 ∧
    PrecedesVisible lastColumnFirst.beam.line ∧ lastColumnFirst.mask.rendering = true ∧
    let here := afterDots sideBySide lastColumnFirst 275
    let drawing := here.render sideBySide
    (here.beam.line = 0 ∧ here.beam.dot = 256) ∧
      (drawing.background.pattern.pixel drawing.fineX.val,
        drawing.background.palette.pixel drawing.fineX.val) = (3, 2) := by
  have shown : lastColumnFirst.scene.rowPixel sideBySide lastColumnFirst.v
      (lastColumnFirst.fineX.val + 255) = (3, 2) := by decide +kernel
  have count : dotsToLineEnd lastColumnFirst.beam + ((Fin.last 255).val + 1) = 275 := rfl
  have shows := row_shows_tiles lastColumnFirst sideBySide rfl (.inr rfl) rfl (Fin.last 255)
  simp only [count] at shows
  obtain ⟨reached, _, pixel⟩ := shows
  exact ⟨rfl, .inr rfl, rfl, reached, pixel.trans shown⟩

end Famicom.Ppu
