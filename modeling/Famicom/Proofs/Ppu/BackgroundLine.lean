import Famicom.Proofs.Ppu.Dot

/-!
The background of one line: seventeen fetching dots at the end of the line before, then one a pixel.
After any number of them the shifters hold the pixels that a direct lookup finds.
-/

namespace Famicom

namespace Shifter

variable (shifter : Shifter)

theorem pixel_shift {column : Nat} (inside : column < 15) :
    shifter.shift.pixel column = shifter.pixel (column + 1) := by
  have plane (word : UInt16) :
      (word <<< 1).toNat.testBit (15 - column) = word.toNat.testBit (15 - (column + 1)) := by
    have above : 15 - column < 16 := by omega
    have lower : 1 ≤ 15 - column := by omega
    have place : 15 - column - 1 = 15 - (column + 1) := by omega
    rw [UInt16.toNat_shiftLeft, show (1 : UInt16).toNat % 16 = 1 from rfl, Nat.testBit_mod_two_pow,
      Nat.testBit_shiftLeft, place]
    simp [above, lower]
  unfold pixel shift
  rw [plane, plane]

theorem testBit_load (word : UInt16) (byte : UInt8) {place : Nat} (inside : place < 16) :
    ((word &&& 0xff00) ||| byte.toUInt16).toNat.testBit place =
      if 8 ≤ place then word.toNat.testBit place else byte.bit place := by
  have mask : ∀ place : Fin 16, (0xff00 : Nat).testBit place = decide (8 ≤ place.val) := by decide
  have high := mask ⟨place, inside⟩
  simp only at high
  rw [UInt16.toNat_or, UInt16.toNat_and, Nat.testBit_or, Nat.testBit_and, UInt8.toNat_toUInt16]
  change (word.toNat.testBit place && (0xff00 : Nat).testBit place || _) = _
  rw [high]
  split
  · rename_i upper
    have bound : byte.toNat < 2 ^ place :=
      Nat.lt_of_lt_of_le byte.toNat_lt (Nat.pow_le_pow_right (by decide) upper)
    simp [upper, Nat.testBit_lt_two_pow bound]
  · rename_i lower
    simp [lower, UInt8.bit]

theorem pixel_load_left (low high : UInt8) {column : Nat} (left : column < 8) :
    (shifter.load low high).pixel column = shifter.pixel column := by
  have upper : 8 ≤ 15 - column := by omega
  unfold pixel load
  rw [testBit_load _ _ (by omega), testBit_load _ _ (by omega), if_pos upper, if_pos upper]

theorem pixel_load_right (low high : UInt8) {column : Nat} (right : column < 8) :
    (shifter.load low high).pixel (8 + column) =
      (low.bit (7 - column)).toNat + 2 * (high.bit (7 - column)).toNat := by
  have lower : ¬ 8 ≤ 15 - (8 + column) := by omega
  have place : 15 - (8 + column) = 7 - column := by omega
  unfold pixel load
  rw [testBit_load _ _ (by omega), testBit_load _ _ (by omega), if_neg lower, if_neg lower, place]

end Shifter

namespace Scene

variable (scene : Scene) (cartridge : Cartridge)

theorem tilePalette_lt (place : ScrollAddress) : scene.tilePalette cartridge place < 4 :=
  Nat.mod_lt _ (by decide)

theorem quadrantBits_eq (place : ScrollAddress) :
    Background.quadrantBits (scene.nametableByte cartridge place.attributeAddress) place =
      UInt8.ofNat (scene.tilePalette cartridge place) := by
  unfold Background.quadrantBits tilePalette
  generalize (scene.nametableByte cartridge place.attributeAddress).toNat = attributes
  have half (number : Nat) : number.testBit 1 = decide (number / 2 % 2 = 1) := by
    rw [Nat.testBit_eq_decide_div_mod_eq]
  simp only [half, decide_eq_true_eq]
  congr 1
  rcases Nat.mod_two_eq_zero_or_one (place.coarseY.val / 2) with row | row <;>
    rcases Nat.mod_two_eq_zero_or_one (place.coarseX.val / 2) with column | column
  all_goals
    simp only [row, column]
    grind

structure Latched (place : ScrollAddress) (background : Background) : Prop where
  quadrant : background.quadrant = UInt8.ofNat (scene.tilePalette cartridge place)
  low : background.patternLow = scene.tilePlane cartridge place 0
  high : background.patternHigh = scene.tilePlane cartridge place 8

variable {scene cartridge} in
theorem Latched.loadTile_right {place : ScrollAddress} {background : Background}
    (latched : scene.Latched cartridge place background) {column : Nat} (right : column < 8) :
    (background.loadTile.pattern.pixel (8 + column), background.loadTile.palette.pixel (8 + column))
      = (scene.tilePixel cartridge place column, scene.tilePalette cartridge place) := by
  have plane (bit : Bool) : (if bit then 0xff else 0 : UInt8).bit (7 - column) = bit := by
    have every : ∀ place : Fin 8, (0xff : UInt8).bit place.val = true ∧
        (0 : UInt8).bit place.val = false := by decide
    cases bit with
    | true => exact (every ⟨7 - column, by omega⟩).1
    | false => exact (every ⟨7 - column, by omega⟩).2
  have bits : ∀ palette : Fin 4, ((UInt8.ofNat palette.val).bit 0).toNat +
      2 * ((UInt8.ofNat palette.val).bit 1).toNat = palette.val := by decide
  unfold Background.loadTile
  simp only [Shifter.pixel_load_right _ _ _ right, plane, latched.quadrant, latched.low,
    latched.high]
  rw [bits ⟨_, scene.tilePalette_lt cartridge place⟩]
  rfl

/-- What the fetch latches and the shifters hold after so many fetching dots along a row of tiles
that starts at an address. -/
structure Fetched (row : ScrollAddress) (dots : Nat) (background : Background)
    (v : ScrollAddress) : Prop where
  address : v = row.columnsRight (dots / 8)
  tile : 1 ≤ dots % 8 → background.tile = scene.tile cartridge (row.columnsRight (dots / 8))
  quadrant : 3 ≤ dots % 8 → background.quadrant =
    UInt8.ofNat (scene.tilePalette cartridge (row.columnsRight (dots / 8)))
  low : 5 ≤ dots % 8 → background.patternLow =
    scene.tilePlane cartridge (row.columnsRight (dots / 8)) 0
  high : 7 ≤ dots % 8 → background.patternHigh =
    scene.tilePlane cartridge (row.columnsRight (dots / 8)) 8
  latched : dots % 8 = 0 → 8 ≤ dots →
    scene.Latched cartridge (row.columnsRight (dots / 8 - 1)) background
  /-- The leftmost pixel lies seventeen dots back. -/
  window : ∀ column position, position + 17 = dots + column → column < 16 - (dots - 1) % 8 →
    (background.pattern.pixel column, background.palette.pixel column) =
      scene.rowPixel cartridge row position

theorem fetched_zero (row : ScrollAddress) (background : Background) :
    scene.Fetched cartridge row 0 background row where
  address := row.columnsRight_zero.symm
  tile := by omega
  quadrant := by omega
  low := by omega
  high := by omega
  latched := by omega
  window := by
    intro column position place inside
    omega

variable {scene cartridge} {row v : ScrollAddress} {dots : Nat} {background : Background}

theorem Fetched.shift_window (fetched : scene.Fetched cartridge row dots background v)
    {column position : Nat} (place : position + 17 = dots + 1 + column)
    (inside : column < 15 - (dots - 1) % 8) :
    (background.shift.pattern.pixel column, background.shift.palette.pixel column) =
      scene.rowPixel cartridge row position := by
  have left : column < 15 := by omega
  rw [← fetched.window (column + 1) position (by omega) (by omega)]
  unfold Background.shift
  simp only [Shifter.pixel_shift _ left]

variable (scene cartridge v background) in
theorem fetched_shifters (phase : Nat) (other : phase ≠ 0) :
    (Ppu.fetched cartridge scene v phase background).pattern = background.pattern ∧
    (Ppu.fetched cartridge scene v phase background).palette = background.palette := by
  unfold Ppu.fetched
  split
  · contradiction
  all_goals exact ⟨rfl, rfl⟩

theorem Fetched.next_window (fetched : scene.Fetched cartridge row dots background v)
    {column position : Nat} (place : position + 17 = dots + 1 + column)
    (inside : column < 16 - dots % 8) :
    ((Ppu.fetched cartridge scene v (dots % 8) background.shift).pattern.pixel column,
      (Ppu.fetched cartridge scene v (dots % 8) background.shift).palette.pixel column) =
      scene.rowPixel cartridge row position := by
  by_cases first : dots % 8 = 0
  · -- The tile fetched before is loaded, so the lower half of the shifters is new.
    rw [first]
    change (background.shift.loadTile.pattern.pixel column,
      background.shift.loadTile.palette.pixel column) = _
    by_cases left : column < 8
    · have kept := fetched.shift_window place (by omega)
      rw [← kept]
      unfold Background.loadTile
      simp only [Shifter.pixel_load_left _ _ _ left]
    · obtain ⟨right, rfl⟩ := Nat.exists_eq_add_of_le (Nat.not_lt.mp left)
      have latched := fetched.latched first (by omega)
      have moved : scene.Latched cartridge (row.columnsRight (dots / 8 - 1)) background.shift :=
        ⟨latched.quadrant, latched.low, latched.high⟩
      rw [moved.loadTile_right (by omega)]
      have tile : position / 8 = dots / 8 - 1 := by omega
      have within : position % 8 = right := by omega
      unfold rowPixel
      simp only [tile, within]
  · obtain ⟨pattern, palette⟩ :=
      fetched_shifters scene cartridge v background.shift (dots % 8) first
    rw [pattern, palette]
    exact fetched.shift_window place (by omega)

variable (scene cartridge v background) in
theorem fetched_latches (phase : Nat) :
    let after := Ppu.fetched cartridge scene v phase background
    after.tile = (if phase = 0 then scene.tile cartridge v else background.tile) ∧
    after.quadrant = (if phase = 2 then UInt8.ofNat (scene.tilePalette cartridge v)
      else background.quadrant) ∧
    after.patternLow = (if phase = 4 then
      cartridge.chrRead (background.patternAddress scene.control.backgroundTable v)
      else background.patternLow) ∧
    after.patternHigh = (if phase = 6 then
      cartridge.chrRead (background.patternAddress scene.control.backgroundTable v + 8)
      else background.patternHigh) := by
  unfold Ppu.fetched
  split
  · exact ⟨rfl, rfl, rfl, rfl⟩
  · rw [quadrantBits_eq]
    exact ⟨rfl, rfl, rfl, rfl⟩
  · exact ⟨rfl, rfl, rfl, rfl⟩
  · exact ⟨rfl, rfl, rfl, rfl⟩
  · simp_all

theorem Fetched.planes (fetched : scene.Fetched cartridge row dots background v)
    (known : 1 ≤ dots % 8) :
    cartridge.chrRead (background.patternAddress scene.control.backgroundTable v) =
      scene.tilePlane cartridge v 0 ∧
    cartridge.chrRead (background.patternAddress scene.control.backgroundTable v + 8) =
      scene.tilePlane cartridge v 8 := by
  have tile := fetched.tile known
  rw [← fetched.address] at tile
  unfold Background.patternAddress tilePlane
  rw [tile]
  exact ⟨rfl, rfl⟩

theorem Fetched.next (fetched : scene.Fetched cartridge row dots background v) :
    scene.Fetched cartridge row (dots + 1)
      (Ppu.fetched cartridge scene v (dots % 8) background.shift)
      (if dots % 8 = 7 then v.nextColumn else v) := by
  obtain ⟨tile, quadrant, low, high⟩ :=
    fetched_latches scene cartridge v background.shift (dots % 8)
  have same (within : dots % 8 ≠ 7) : (dots + 1) / 8 = dots / 8 := by omega
  have address := fetched.address
  -- Each latch is fetched on one phase of eight and kept on the others, until the shifters take it.
  constructor
  · rw [fetched.address]
    split
    · rw [ScrollAddress.columnsRight_nextColumn]
      congr 1
      omega
    · rename_i within
      rw [same within]
  · intro late
    rw [tile, same (by omega)]
    split
    · rw [fetched.address]
    · exact fetched.tile (by omega)
  · intro late
    rw [quadrant, same (by omega)]
    split
    · rw [fetched.address]
    · exact fetched.quadrant (by omega)
  · intro late
    rw [low, same (by omega)]
    split
    · rename_i phase
      rw [← fetched.address]
      exact (fetched.planes (by omega)).1
    · exact fetched.low (by omega)
  · intro late
    rw [high, same (by omega)]
    split
    · rename_i phase
      rw [← fetched.address]
      exact (fetched.planes (by omega)).2
    · exact fetched.high (by omega)
  · intro whole _
    have last : dots % 8 = 7 := by omega
    have place : (dots + 1) / 8 - 1 = dots / 8 := by omega
    rw [place]
    refine ⟨?_, ?_, ?_⟩
    · rw [quadrant, if_neg (by omega)]
      exact fetched.quadrant (by omega)
    · rw [low, if_neg (by omega)]
      exact fetched.low (by omega)
    · rw [high, if_neg (by omega)]
      exact fetched.high (by omega)
  · intro column position place inside
    exact fetched.next_window place inside

theorem Fetched.pixel (fetched : scene.Fetched cartridge row dots background v) {column : Nat}
    (offset : Fin 8) (place : dots = column + 17) :
    (background.pattern.pixel offset.val, background.palette.pixel offset.val) =
      scene.rowPixel cartridge row (offset.val + column) := by
  have := offset.isLt
  exact fetched.window offset.val (offset.val + column) (by omega) (by omega)

end Scene

namespace Ppu

variable (ppu : Ppu) (cartridge : Cartridge) {row : ScrollAddress} {dots : Nat}

theorem fetchesTile_iff (dot : Nat) :
    fetchesTile dot = true ↔ (2 ≤ dot ∧ dot ≤ 257) ∨ (321 ≤ dot ∧ dot ≤ 337) := by
  simp [fetchesTile]

theorem fetched_of_fetchesTile (fetches : fetchesTile ppu.beam.dot = true)
    (phase : (ppu.beam.dot - 1) % 8 = dots % 8)
    (fetched : ppu.scene.Fetched cartridge row dots ppu.background ppu.v) :
    ppu.scene.Fetched cartridge row (dots + 1) (ppu.nextBackground cartridge)
      ppu.fetchedColumn := by
  unfold nextBackground fetchedColumn
  simp only [fetches, phase, if_true, true_and]
  exact fetched.next

theorem fetchedColumn_of_idle (idle : ¬ fetchesTile ppu.beam.dot = true) :
    ppu.fetchedColumn = ppu.v := by
  unfold fetchedColumn
  exact if_neg fun both => idle both.1

theorem fetched_of_idle (idle : ¬ fetchesTile ppu.beam.dot = true)
    (known : ppu.beam.dot = 338 ∨ ppu.beam.dot = 340 → 1 ≤ dots % 8)
    (fetched : ppu.scene.Fetched cartridge row dots ppu.background ppu.v) :
    ppu.scene.Fetched cartridge row dots (ppu.nextBackground cartridge) ppu.fetchedColumn := by
  rw [ppu.fetchedColumn_of_idle idle]
  unfold nextBackground
  rw [if_neg idle]
  split
  · rename_i again
    -- The tile number is read once more from the place it came from.
    have same : ppu.scene.tile cartridge ppu.v = ppu.background.tile := by
      rw [fetched.tile (known again), fetched.address]
    rw [same]
    exact fetched
  · exact fetched

theorem fetched_drawing (early : ppu.beam.dot ≤ 256)
    (fetched : ppu.scene.Fetched cartridge row (max 17 (ppu.beam.dot + 15)) ppu.background ppu.v) :
    ppu.scene.Fetched cartridge row (max 17 (ppu.beam.dot + 1 + 15)) (ppu.nextBackground cartridge)
      ppu.fetchedColumn := by
  by_cases first : ppu.beam.dot ≤ 1
  · have same : max 17 (ppu.beam.dot + 1 + 15) = max 17 (ppu.beam.dot + 15) := by omega
    rw [same]
    refine fetched_of_idle ppu cartridge ?_ (by omega) fetched
    rw [fetchesTile_iff]
    omega
  · have next : max 17 (ppu.beam.dot + 1 + 15) = max 17 (ppu.beam.dot + 15) + 1 := by omega
    rw [next]
    refine fetched_of_fetchesTile ppu cartridge ?_ (by omega) fetched
    rw [fetchesTile_iff]
    omega

theorem fetched_prefetching (late : 258 ≤ ppu.beam.dot)
    (fetched : ppu.scene.Fetched cartridge row (min 17 (ppu.beam.dot - 321)) ppu.background ppu.v) :
    ppu.scene.Fetched cartridge row (min 17 (ppu.beam.dot + 1 - 321)) (ppu.nextBackground cartridge)
      ppu.fetchedColumn := by
  by_cases fetches : fetchesTile ppu.beam.dot = true
  · rw [fetchesTile_iff] at fetches
    have next : min 17 (ppu.beam.dot + 1 - 321) = min 17 (ppu.beam.dot - 321) + 1 := by omega
    rw [next]
    refine fetched_of_fetchesTile ppu cartridge ?_ (by omega) fetched
    rw [fetchesTile_iff]
    exact fetches
  · have idle := fetches
    rw [fetchesTile_iff] at fetches
    have same : min 17 (ppu.beam.dot + 1 - 321) = min 17 (ppu.beam.dot - 321) := by omega
    rw [same]
    exact fetched_of_idle ppu cartridge idle (by omega) fetched

end Ppu

end Famicom
