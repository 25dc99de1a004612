import Famicom.Cartridge.Image
import Famicom.Proofs.Ppu.SpriteOutput

namespace Famicom

namespace SpriteEntry

variable (entry : SpriteEntry) (cartridge : Cartridge) (line height table column : Nat)

/-- The row of the pattern, counted from its top as drawn. The distance from the stored top wraps
around the height. -/
def row : Nat :=
  let distance := (((line : Int) - entry.top.toNat) % height).toNat
  if entry.attributes.bit 7 then height - 1 - distance else distance

/-- Sprites of sixteen rows are a pair of tiles, the even one above. Their table is told by the bit
that tells the tiles of a pair apart. -/
def rowAddress (row : Nat) : Nat :=
  if height = 16 then
    let pair := entry.tile.toNat - entry.tile.toNat % 2
    (if entry.tile.bit 0 then 0x1000 else 0) + 16 * (if row < 8 then pair else pair + 1) + row % 8
  else table + 16 * entry.tile.toNat + row

def patternPixel : Nat :=
  if entry.left.toNat ≤ column ∧ column ≤ entry.left.toNat + 7 then
    let position :=
      if entry.attributes.bit 6 then 7 - (column - entry.left.toNat)
      else column - entry.left.toNat
    let address := entry.rowAddress height table (entry.row line height)
    ((cartridge.chrRead address).bit (7 - position)).toNat +
      2 * ((cartridge.chrRead (address + 8)).bit (7 - position)).toNat
  else 0

variable {height}

theorem patternAddress_eq {row : Nat} (inside : row < height) :
    SpriteLine.patternAddress entry.tile row height table =
      entry.rowAddress height table row := by
  have parity : entry.tile.bit 0 = decide (entry.tile.toNat % 2 = 1) := Nat.testBit_zero _
  unfold SpriteLine.patternAddress rowAddress
  rw [parity]
  split
  · dsimp only
    by_cases odd : entry.tile.toNat % 2 = 1
    · simp only [odd, decide_true, if_true]
      split <;> omega
    · simp only [odd, decide_false, Bool.false_eq_true, if_false]
      split <;> omega
  · omega

variable (sized : height = 8 ∨ height = 16)
include sized

theorem patternRow_eq :
    SpriteLine.patternRow entry.top entry.attributes line height = entry.row line height := by
  have top := entry.top.toNat_lt
  have distance : (line + 0x100 - entry.top.toNat) % height =
      (((line : Int) - entry.top.toNat) % height).toNat := by
    rcases sized with rfl | rfl <;> omega
  unfold SpriteLine.patternRow row
  rw [distance]

theorem row_lt : entry.row line height < height := by
  unfold row
  rcases sized with rfl | rfl
  · dsimp only
    split <;> omega
  · dsimp only
    split <;> omega

theorem shifts_pixel :
    (SpriteSlot.shift^[column] (SpriteLine.entrySlot cartridge entry line height table)).pixel =
      entry.patternPixel cartridge line height table column := by
  rw [SpriteLine.entrySlot_pixel, entry.patternRow_eq line sized,
    entry.patternAddress_eq table (entry.row_lt line sized)]
  unfold patternPixel
  by_cases shown : entry.left.toNat ≤ column ∧ column ≤ entry.left.toNat + 7
  · have same : entry.left.toNat ≤ column ∧ column < entry.left.toNat + 8 := by omega
    have turned : 7 - (7 - (column - entry.left.toNat)) = column - entry.left.toNat := by omega
    simp only [same, shown, and_self, if_true]
    split
    · rw [turned]
    · rfl
  · have same : ¬ (entry.left.toNat ≤ column ∧ column < entry.left.toNat + 8) := by omega
    simp only [same, shown, if_false]

end SpriteEntry

namespace SpriteLine

/-! ## Fetches -/

section Fetches

variable (sprites : SpriteLine) (cartridge : Cartridge) (evaluation : Evaluation)
  (line height table : Nat)

def afterFetches : Nat → SpriteLine
  | 0 => sprites
  | slots + 1 =>
      (afterFetches slots).fetch cartridge evaluation (residue 8 slots) line height table

structure Filled (fetched : Nat) (sprites : SpriteLine) : Prop where
  count : 0 < fetched → sprites.count = evaluation.pointer / 4
  zeroOnLine : 0 < fetched → sprites.zeroOnLine = evaluation.zeroFound
  slots : ∀ index (room : index < 8), index < fetched → index < evaluation.pointer / 4 →
    sprites.slots[index] =
      entrySlot cartridge (candidate evaluation ⟨index, room⟩) line height table

variable {sprites cartridge evaluation line height table}

theorem filled_zero : Filled cartridge evaluation line height table 0 sprites where
  count := nofun
  zeroOnLine := nofun
  slots := nofun

theorem Filled.next {slot : Fin 8}
    (filled : Filled cartridge evaluation line height table slot.val sprites) :
    Filled cartridge evaluation line height table (slot.val + 1)
      (sprites.fetch cartridge evaluation slot line height table) := by
  have counted : (if slot.val = 0 then evaluation.pointer / 4 else sprites.count) =
      evaluation.pointer / 4 := by
    split
    · rfl
    · exact filled.count (by omega)
  constructor
  · intro _
    exact counted
  · intro _
    unfold fetch
    dsimp only
    split
    · rfl
    · exact filled.zeroOnLine (by omega)
  · intro index room fetched occupied
    unfold fetch
    dsimp only
    rw [counted]
    by_cases here : index = slot.val
    · subst here
      rw [if_pos occupied, fetchSlot_eq]
      exact Vector.getElem_set_self room
    · rw [Vector.getElem_set_ne slot.isLt room (Ne.symm here)]
      exact filled.slots index room (by omega) occupied

variable (sprites cartridge evaluation line height table)

theorem filled_afterFetches {fetched : Nat} (few : fetched ≤ 8) :
    Filled cartridge evaluation line height table fetched
      (sprites.afterFetches cartridge evaluation line height table fetched) := by
  induction fetched with
  | zero => exact filled_zero
  | succ fetched before =>
      have place : (residue 8 fetched).val = fetched := Nat.mod_eq_of_lt few
      have filled := before (by omega)
      rw [← place] at filled
      have next := filled.next
      rw [place] at next
      exact next

end Fetches

/-! ## Dots -/

section Dots

/-- What a dot puts out, and the slots after it. They move whether the layer is shown or not. -/
def putOut (sprites : SpriteLine) (visible : Bool) : Option SpritePixel × SpriteLine :=
  (if visible then sprites.pixel else none, sprites.shift)

def outputs (sprites : SpriteLine) : List Bool → List (Option SpritePixel)
  | [] => []
  | visible :: rest => (sprites.putOut visible).1 :: (sprites.putOut visible).2.outputs rest

theorem drawPixel_putOut {ppu : Ppu} (rendering : ppu.mask.rendering = true) (column : Nat)
    (cell : Fin 61440) : (ppu.spritePixel column, (ppu.drawPixel column cell).sprites) =
      ppu.sprites.putOut (ppu.mask.spritesAt column) := by
  unfold Ppu.drawPixel
  rw [if_pos rendering]
  rfl

theorem outputs_eq (sprites : SpriteLine) (visible : List Bool) :
    sprites.outputs visible = visible.mapIdx fun column shown =>
      if shown then (shift^[column] sprites).pixel else none := by
  induction visible generalizing sprites with
  | nil => rfl
  | cons shown rest continues =>
      rw [outputs, List.mapIdx_cons, putOut, continues]
      rfl

variable (sprites : SpriteLine) (dots : Nat)

theorem shifts_count : (shift^[dots] sprites).count = sprites.count := by
  induction dots with
  | zero => rfl
  | succ dots before => rw [Function.iterate_succ_apply', shift_count, before]

theorem shifts_zeroOnLine : (shift^[dots] sprites).zeroOnLine = sprites.zeroOnLine := by
  induction dots with
  | zero => rfl
  | succ dots before => rw [Function.iterate_succ_apply', shift_zeroOnLine, before]

theorem shifts_slots {index : Nat} (room : index < 8) (occupied : index < sprites.count) :
    (shift^[dots] sprites).slots[index] = SpriteSlot.shift^[dots] sprites.slots[index] := by
  induction dots with
  | zero => rfl
  | succ dots before =>
      rw [← shifts_count sprites dots] at occupied
      rw [Function.iterate_succ_apply', Function.iterate_succ_apply', shift_slots _ room occupied,
        before]

end Dots

/-! ## The line -/

section Line

variable (cartridge : Cartridge) (evaluation : Evaluation) (line height table column : Nat)

def entryPixel (slot : Fin 8) : SpritePixel :=
  let entry := candidate evaluation slot
  { pixel := entry.patternPixel cartridge line height table column
    palette := entry.attributes.toNat % 4
    behindBackground := entry.attributes.bit 5
    spriteZero := decide (slot.val = 0) && evaluation.zeroFound }

def frontPixel (count : Nat) : Option SpritePixel :=
  let shown := entryPixel cartridge evaluation line height table column
  (((List.finRange 8).take count).find? fun slot => (shown slot).pixel != 0).map shown

variable {cartridge evaluation line height table} {sprites : SpriteLine}

theorem Filled.shifts_pixel (filled : Filled cartridge evaluation line height table 8 sprites)
    (sized : height = 8 ∨ height = 16) (slot : Fin 8) (occupied : slot.val < evaluation.pointer / 4) :
    (shift^[column] sprites).slots[slot].pixel =
      (entryPixel cartridge evaluation line height table column slot).pixel := by
  have counted := filled.count (by decide)
  rw [Fin.getElem_fin, shifts_slots sprites column slot.isLt (by omega),
    filled.slots slot.val slot.isLt slot.isLt occupied, SpriteEntry.shifts_pixel _ _ _ _ _ sized]
  rfl

theorem Filled.shifts_shown (filled : Filled cartridge evaluation line height table 8 sprites)
    (sized : height = 8 ∨ height = 16) (slot : Fin 8) (occupied : slot.val < evaluation.pointer / 4) :
    { pixel := (shift^[column] sprites).slots[slot].pixel
      palette := (shift^[column] sprites).slots[slot].palette
      behindBackground := (shift^[column] sprites).slots[slot].behindBackground
      spriteZero := slot.val == 0 && (shift^[column] sprites).zeroOnLine : SpritePixel } =
      entryPixel cartridge evaluation line height table column slot := by
  have counted := filled.count (by decide)
  have attributes : (shift^[column] sprites).slots[slot].attributes =
      (candidate evaluation slot).attributes := by
    rw [Fin.getElem_fin, shifts_slots sprites column slot.isLt (by omega),
      SpriteSlot.shifts_attributes, filled.slots slot.val slot.isLt slot.isLt occupied]
    rfl
  rw [filled.shifts_pixel column sized slot occupied, shifts_zeroOnLine,
    filled.zeroOnLine (by decide)]
  unfold SpriteSlot.palette SpriteSlot.behindBackground
  rw [attributes]
  rfl

theorem Filled.pixel (filled : Filled cartridge evaluation line height table 8 sprites)
    (sized : height = 8 ∨ height = 16) {count : Nat} (few : count ≤ 8)
    (pointer : evaluation.pointer = 4 * count) :
    (shift^[column] sprites).pixel =
      frontPixel cartridge evaluation line height table column count := by
  have occupied : evaluation.pointer / 4 = count := by omega
  let first := (List.finRange 8).take count
  let isOpaque (slot : Fin 8) : Bool :=
    (entryPixel cartridge evaluation line height table column slot).pixel != 0
  have length : first.length = count := by
    rw [List.length_take, List.length_finRange, Nat.min_eq_left few]
  have listed (slot : Fin 8) (inside : slot.val < count) : first[slot.val]? = some slot := by
    rw [List.getElem?_take_of_lt inside, List.getElem?_eq_getElem (by simp),
      List.getElem_finRange]
    rfl
  have same (index : Nat) (inside : index < first.length) :
      isOpaque first[index] = ((shift^[column] sprites).slots[index].pixel != 0) := by
    rw [length] at inside
    have here : first[index] = ⟨index, by omega⟩ :=
      Option.some_inj.mp ((List.getElem?_eq_getElem _).symm.trans (listed ⟨index, _⟩ inside))
    have shown := filled.shifts_pixel column sized ⟨index, by omega⟩ (occupied.symm ▸ inside)
    simp only [isOpaque, here, ← shown, Fin.getElem_fin]
  obtain ⟨found, bound⟩ := find?_take (shift^[column] sprites).slots first isOpaque (by omega) same
    count (Nat.le_of_eq length.symm)
  rw [List.take_take, Nat.min_self] at found
  unfold frontPixel SpriteLine.pixel
  dsimp only
  rw [found, shifts_count, filled.count (by decide), occupied]
  cases front : firstOpaque (shift^[column] sprites).slots count with
  | none => rfl
  | some slot =>
      have inside := bound slot front
      rw [Option.bind_some, listed slot inside, Option.map_some, Option.map_some,
        filled.shifts_shown column sized slot (by omega)]

/-- Whatever the slots held before, once all eight are fetched each dot puts out the pixel of the
first entry that is opaque there, if the layer is shown on that dot, whether or not it was shown on
the dots before. -/
theorem outputs_afterFetches (sprites : SpriteLine) (cartridge : Cartridge)
    (evaluation : Evaluation) (line table : Nat) {height : Nat} (sized : height = 8 ∨ height = 16)
    {count : Nat} (few : count ≤ 8) (pointer : evaluation.pointer = 4 * count)
    (visible : List Bool) :
    (sprites.afterFetches cartridge evaluation line height table 8).outputs visible =
      visible.mapIdx fun column shown =>
        if shown then frontPixel cartridge evaluation line height table column count else none := by
  have filled := sprites.filled_afterFetches cartridge evaluation line height table (Nat.le_refl 8)
  -- Hidden dots shift the slots as well, so each dot can be looked at alone.
  rw [outputs_eq]
  congr 1
  funext column shown
  rw [filled.pixel column sized few pointer]

/-- Two sprites of sixteen rows that overlap: the upper tile of the second one, and in front of it a
first one that is turned both ways and shows its lower tile. -/
def overlapping : Evaluation where
  secondary := [10, 0x03, 0xe1, 2, 5, 0x02, 0x02, 1].zipIdx.foldl
    (fun memory (byte, place) => memory.write (residue 32 place) byte) (Memory.fill 32 0xff)
  pointer := 8
  zeroFound := true

def overlappingPatterns : Cartridge :=
  { Cartridge.empty with
    chr := [(0x1035, 0x01), (0x103d, 0x01), (0x0027, 0xc0)].foldl
      (fun chip (offset, byte) => chip.write offset byte) Cartridge.empty.chr }

/-- The second sprite stays unseen on the dot on which the layer is hidden, and on the next one the
first sprite covers it. -/
theorem overlapping_outputs : (16 = 8 ∨ 16 = 16) ∧ 2 ≤ 8 ∧ overlapping.pointer = 4 * 2 ∧
    (afterFetches {} overlappingPatterns overlapping 12 16 0 8).outputs [true, false, true] =
      [none, none,
        some { pixel := 3, palette := 1, behindBackground := true, spriteZero := true }] := by
  have law := outputs_afterFetches {} overlappingPatterns overlapping 12 0
    (show 16 = 8 ∨ 16 = 16 from .inr rfl) (show 2 ≤ 8 by decide) rfl [true, false, true]
  refine ⟨.inr rfl, by decide, rfl, law.trans ?_⟩
  decide +kernel

end Line

end SpriteLine

end Famicom
