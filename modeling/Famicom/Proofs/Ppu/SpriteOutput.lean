import Famicom.Proofs.Ppu.Scene
import Mathlib.Data.List.Induction
import Mathlib.Logic.Function.Iterate

namespace UInt8

theorem bit_shiftLeft_one (byte : UInt8) {place : Nat} (inside : place < 8) :
    (byte <<< 1).bit place = (decide (1 ≤ place) && byte.bit (place - 1)) := by
  unfold bit
  rw [UInt8.toNat_shiftLeft, show (1 : UInt8).toNat % 8 = 1 from rfl, Nat.testBit_mod_two_pow,
    Nat.testBit_shiftLeft]
  simp [inside]

theorem bit_shiftsLeft (byte : UInt8) (times : Nat) {place : Nat} (inside : place < 8) :
    ((fun byte : UInt8 => byte <<< 1)^[times] byte).bit place =
      (decide (times ≤ place) && byte.bit (place - times)) := by
  induction times generalizing place with
  | zero => simp
  | succ times ih =>
      rw [Function.iterate_succ_apply', bit_shiftLeft_one _ inside, ih (by omega)]
      by_cases room : times + 1 ≤ place
      · have lower : place - 1 - times = place - (times + 1) := by omega
        have first : 1 ≤ place := by omega
        have before : times ≤ place - 1 := by omega
        simp [room, lower, first, before]
      · by_cases first : 1 ≤ place
        · have before : ¬ times ≤ place - 1 := by omega
          simp [room, before]
        · simp [room, first]

theorem bit_reverseBits (byte : UInt8) {place : Nat} (inside : place < 8) :
    byte.reverseBits.bit place = byte.bit (7 - place) := by
  have every : ∀ byte : Fin 256, ∀ place : Fin 8,
      (UInt8.ofFin byte).reverseBits.bit place.val = (UInt8.ofFin byte).bit (7 - place.val) := by
    decide +kernel
  exact every byte.toFin ⟨place, inside⟩

end UInt8

namespace Famicom

namespace SpriteSlot

variable (slot : SpriteSlot) (dots : Nat)

theorem shift_delay : slot.shift.delay.toNat = slot.delay.toNat - 1 := by
  unfold shift
  split
  · rename_i now
    rw [now]
    rfl
  · rename_i later
    have positive : 1 ≤ slot.delay.toNat := by
      by_contra zero
      exact later (UInt8.toNat_inj.mp (by simpa using zero))
    exact UInt8.toNat_sub_of_le _ _ positive

theorem shifts_delay : (shift^[dots] slot).delay.toNat = slot.delay.toNat - dots := by
  induction dots with
  | zero => rfl
  | succ dots ih =>
      rw [Function.iterate_succ_apply', shift_delay, ih]
      omega

theorem shifts_attributes : (shift^[dots] slot).attributes = slot.attributes := by
  induction dots with
  | zero => rfl
  | succ dots ih =>
      rw [Function.iterate_succ_apply', ← ih]
      unfold shift
      split <;> rfl

theorem shifts_patterns :
    (shift^[dots] slot).patternLow =
      (fun byte : UInt8 => byte <<< 1)^[dots - slot.delay.toNat] slot.patternLow ∧
    (shift^[dots] slot).patternHigh =
      (fun byte : UInt8 => byte <<< 1)^[dots - slot.delay.toNat] slot.patternHigh := by
  induction dots with
  | zero =>
      rw [Nat.zero_sub]
      exact ⟨rfl, rfl⟩
  | succ dots ih =>
      rw [Function.iterate_succ_apply', shift]
      have delay := slot.shifts_delay dots
      split
      · rename_i now
        rw [now] at delay
        have before : slot.delay.toNat ≤ dots := Nat.le_of_sub_eq_zero delay.symm
        rw [Nat.succ_sub before, Function.iterate_succ_apply', Function.iterate_succ_apply',
          ← ih.1, ← ih.2]
        exact ⟨rfl, rfl⟩
      · rename_i later
        have after : dots < slot.delay.toNat := by
          by_contra waiting
          apply later
          apply UInt8.toNat_inj.mp
          rw [delay]
          exact Nat.sub_eq_zero_of_le (Nat.not_lt.mp waiting)
        rw [Nat.sub_eq_zero_of_le (Nat.le_of_lt after)] at ih
        rw [Nat.sub_eq_zero_of_le after]
        exact ih

theorem shifts_pixel : (shift^[dots] slot).pixel =
    if slot.delay.toNat ≤ dots ∧ dots < slot.delay.toNat + 8 then
      (slot.patternLow.bit (7 - (dots - slot.delay.toNat))).toNat +
        2 * (slot.patternHigh.bit (7 - (dots - slot.delay.toNat))).toNat
    else 0 := by
  obtain ⟨low, high⟩ := slot.shifts_patterns dots
  have delay := slot.shifts_delay dots
  unfold pixel
  rw [low, high, UInt8.bit_shiftsLeft _ _ (by decide), UInt8.bit_shiftsLeft _ _ (by decide)]
  by_cases begun : slot.delay.toNat ≤ dots
  · have now : (shift^[dots] slot).delay = 0 := by
      apply UInt8.toNat_inj.mp
      rw [delay]
      exact Nat.sub_eq_zero_of_le begun
    rw [if_pos now]
    by_cases shown : dots < slot.delay.toNat + 8
    · have few : dots - slot.delay.toNat ≤ 7 := by omega
      simp [begun, shown, few]
    · have many : ¬ dots - slot.delay.toNat ≤ 7 := by omega
      simp [shown, many]
  · have later : ¬ (shift^[dots] slot).delay = 0 := by
      intro now
      rw [now] at delay
      exact begun (Nat.le_of_sub_eq_zero delay.symm)
    rw [if_neg later, if_neg fun both => begun both.1]

end SpriteSlot

namespace SpriteLine

/-! ## One slot -/

def entrySlot (cartridge : Cartridge) (entry : SpriteEntry) (line height table : Nat) :
    SpriteSlot :=
  let address := patternAddress entry.tile (patternRow entry.top entry.attributes line height)
    height table
  let plane (offset : Nat) : UInt8 :=
    let byte := cartridge.chrRead (address + offset)
    if entry.attributes.bit 6 then byte.reverseBits else byte
  { delay := entry.left, attributes := entry.attributes, patternLow := plane 0,
    patternHigh := plane 8 }

theorem fetchSlot_eq (cartridge : Cartridge) (evaluation : Evaluation) (slot : Fin 8)
    (line height table : Nat) : fetchSlot cartridge evaluation slot line height table =
      entrySlot cartridge (candidate evaluation slot) line height table := rfl

theorem entrySlot_pixel (cartridge : Cartridge) (entry : SpriteEntry)
    (line height table column : Nat) :
    (SpriteSlot.shift^[column] (entrySlot cartridge entry line height table)).pixel =
      let address := patternAddress entry.tile (patternRow entry.top entry.attributes line height)
        height table
      if entry.left.toNat ≤ column ∧ column < entry.left.toNat + 8 then
        let position := column - entry.left.toNat
        let bit := if entry.attributes.bit 6 then position else 7 - position
        ((cartridge.chrRead address).bit bit).toNat +
          2 * ((cartridge.chrRead (address + 8)).bit bit).toNat
      else 0 := by
  rw [SpriteSlot.shifts_pixel]
  unfold entrySlot
  dsimp only
  split
  · rename_i shown
    split
    · have position : 7 - (7 - (column - entry.left.toNat)) = column - entry.left.toNat := by omega
      rw [UInt8.bit_reverseBits _ (by omega), UInt8.bit_reverseBits _ (by omega), position,
        Nat.add_zero]
    · rfl
  · rfl

/-! ## Eight slots -/

variable (sprites : SpriteLine)

@[simp] theorem shift_count : sprites.shift.count = sprites.count := by
  unfold shift
  split <;> rfl

@[simp] theorem shift_zeroOnLine : sprites.shift.zeroOnLine = sprites.zeroOnLine := by
  unfold shift
  split <;> rfl

theorem shift_slots {index : Nat} (room : index < 8) (occupied : index < sprites.count) :
    sprites.shift.slots[index] = sprites.slots[index].shift := by
  unfold shift
  rw [if_neg (by omega)]
  simp [occupied]

theorem find?_take {Entry : Type} (slots : Vector SpriteSlot 8) (entries : List Entry)
    (isOpaque : Entry → Bool) (few : entries.length ≤ 8)
    (same : ∀ index (inside : index < entries.length),
      isOpaque entries[index] = (slots[index].pixel != 0)) (count : Nat)
    (within : count ≤ entries.length) :
    (entries.take count).find? isOpaque =
      (firstOpaque slots count).bind (fun slot => entries[slot.val]?) ∧
      ∀ slot, firstOpaque slots count = some slot → slot.val < count := by
  -- One more slot matters only where none of those before it is opaque.
  induction count with
  | zero => exact ⟨rfl, by simp [firstOpaque]⟩
  | succ count ih =>
      obtain ⟨found, bound⟩ := ih (by omega)
      have inside : count < entries.length := by omega
      have here := same count inside
      rw [List.take_succ_eq_append_getElem inside, List.find?_append, found, firstOpaque]
      cases earlier : firstOpaque slots count with
      | some slot =>
          have before := bound slot earlier
          refine ⟨?_, ?_⟩
          · rw [Option.bind_some, List.getElem?_eq_getElem (by omega)]
            rfl
          · intro other same
            cases same
            omega
      | none =>
          rw [Option.bind_none, Option.none_or]
          simp only [show count < 8 by omega, dite_true]
          by_cases transparent : slots[count].pixel = 0
          · rw [if_pos transparent]
            rw [transparent] at here
            refine ⟨by simp [here], by simp⟩
          · rw [if_neg transparent, Option.bind_some, List.getElem?_eq_getElem inside]
            have shown : isOpaque entries[count] = true := by
              rw [here]
              simpa using transparent
            refine ⟨by simp [shown], ?_⟩
            intro slot same
            cases same
            exact Nat.lt_succ_self count

end SpriteLine

theorem PpuControl.spriteHeight_cases (control : PpuControl) :
    control.spriteHeight = 8 ∨ control.spriteHeight = 16 := by
  unfold spriteHeight
  split
  · exact .inr rfl
  · exact .inl rfl

namespace Scene

variable (scene : Scene) (cartridge : Cartridge)

def objectSlot (object : Fin 64) (line : Nat) : SpriteSlot :=
  SpriteLine.entrySlot cartridge (scene.entry object) (line - 1) scene.control.spriteHeight
    scene.control.spriteTable

theorem covers_iff (object : Fin 64) (line : Nat) : scene.covers object line = true ↔
    (scene.entry object).top.toNat < line ∧
      line ≤ (scene.entry object).top.toNat + scene.control.spriteHeight := by
  unfold covers
  exact decide_eq_true_iff

theorem patternRow_eq {object : Fin 64} {line : Nat} (covered : scene.covers object line = true) :
    SpriteLine.patternRow (scene.entry object).top (scene.entry object).attributes (line - 1)
      scene.control.spriteHeight = scene.objectRow object line := by
  have top := (scene.entry object).top.toNat_lt
  obtain ⟨below, inside⟩ := (scene.covers_iff object line).mp covered
  have row : (line - 1 + 0x100 - (scene.entry object).top.toNat) % scene.control.spriteHeight =
      line - 1 - (scene.entry object).top.toNat := by
    rcases scene.control.spriteHeight_cases with low | tall
    · rw [low] at inside ⊢
      omega
    · rw [tall] at inside ⊢
      omega
  unfold SpriteLine.patternRow objectRow
  rw [row]

theorem objectSlot_pixel {object : Fin 64} {line : Nat} (column : Nat)
    (covered : scene.covers object line = true) :
    (SpriteSlot.shift^[column] (scene.objectSlot cartridge object line)).pixel =
      scene.objectPixel cartridge object line column := by
  unfold objectSlot
  rw [SpriteLine.entrySlot_pixel, scene.patternRow_eq covered]
  rfl

theorem covers_of_mem {object : Fin 64} {line : Nat} (member : object ∈ scene.objectsOn line) :
    scene.covers object line = true := by
  unfold objectsOn at member
  exact (List.mem_filter.mp (List.mem_of_mem_take member)).2

theorem objectsOn_length (line : Nat) : (scene.objectsOn line).length ≤ 8 :=
  List.length_take_le _ _

/-- The first object of memory is the first one of a line, if it is on the line at all. -/
theorem objectsOn_cases (line : Nat) :
    (scene.covers 0 line = true ∧
      ∃ rest, scene.objectsOn line = 0 :: rest ∧ ∀ object ∈ rest, object ≠ 0) ∨
    (scene.covers 0 line = false ∧ ∀ object ∈ scene.objectsOn line, object ≠ 0) := by
  cases covered : scene.covers 0 line with
  | true =>
      refine .inl ⟨rfl, (((List.finRange 63).map Fin.succ).filter (scene.covers · line)).take 7,
        ?_, ?_⟩
      · unfold objectsOn
        rw [List.finRange_succ, List.filter_cons_of_pos (p := (scene.covers · line)) covered]
        exact List.take_succ_cons
      · intro object member
        obtain ⟨other, _, rfl⟩ :=
          List.mem_map.mp (List.mem_filter.mp (List.mem_of_mem_take member)).1
        exact Fin.succ_ne_zero other
  | false =>
      refine .inr ⟨rfl, ?_⟩
      intro object member same
      rw [same] at member
      rw [scene.covers_of_mem member] at covered
      cases covered

theorem objectsOn_getElem_zero {line index : Nat}
    (inside : index < (scene.objectsOn line).length) :
    ((scene.objectsOn line)[index].val == 0) = (index == 0 && scene.covers 0 line) := by
  have nonzero {object : Fin 64} (other : object ≠ 0) : (object.val == 0) = false :=
    beq_false_of_ne fun same => other (Fin.ext same)
  rcases scene.objectsOn_cases line with ⟨covered, rest, objects, others⟩ | ⟨covered, others⟩
  · cases index with
    | zero => simp [covered, objects]
    | succ index =>
        simp only [objects, List.getElem_cons_succ, List.length_cons] at inside ⊢
        exact nonzero (others _ (List.getElem_mem (Nat.lt_of_succ_lt_succ inside)))
  · rw [nonzero (others _ (List.getElem_mem inside)), covered, Bool.and_false]

structure Shown (line dots : Nat) (sprites : SpriteLine) : Prop where
  count : sprites.count = (scene.objectsOn line).length
  zeroOnLine : sprites.zeroOnLine = scene.covers 0 line
  slots : ∀ index (inside : index < (scene.objectsOn line).length) (room : index < 8),
    sprites.slots[index] =
      SpriteSlot.shift^[dots] (scene.objectSlot cartridge (scene.objectsOn line)[index] line)

variable {scene cartridge} {line dots : Nat} {sprites : SpriteLine}

theorem Shown.shift (shown : scene.Shown cartridge line dots sprites) :
    scene.Shown cartridge line (dots + 1) sprites.shift := by
  constructor
  · rw [SpriteLine.shift_count, shown.count]
  · rw [SpriteLine.shift_zeroOnLine, shown.zeroOnLine]
  · intro index inside room
    rw [SpriteLine.shift_slots sprites room (by rw [shown.count]; exact inside),
      shown.slots index inside room, Function.iterate_succ_apply']

theorem Shown.slot_pixel (shown : scene.Shown cartridge line dots sprites) {index : Nat}
    (inside : index < (scene.objectsOn line).length) (room : index < 8) :
    sprites.slots[index].pixel =
      scene.objectPixel cartridge (scene.objectsOn line)[index] line dots := by
  rw [shown.slots index inside room]
  exact scene.objectSlot_pixel cartridge dots (scene.covers_of_mem (List.getElem_mem inside))

theorem Shown.slot_shown (shown : scene.Shown cartridge line dots sprites) {index : Fin 8}
    (inside : index.val < (scene.objectsOn line).length) :
    { pixel := sprites.slots[index].pixel
      palette := sprites.slots[index].palette
      behindBackground := sprites.slots[index].behindBackground
      spriteZero := index.val == 0 && sprites.zeroOnLine : SpritePixel } =
      scene.shownPixel cartridge line dots (scene.objectsOn line)[index.val] := by
  have slot := shown.slots index.val inside index.isLt
  have attributes : sprites.slots[index].attributes =
      (scene.entry (scene.objectsOn line)[index.val]).attributes := by
    rw [Fin.getElem_fin, slot, SpriteSlot.shifts_attributes]
    rfl
  have zero : (index.val == 0 && sprites.zeroOnLine) =
      ((scene.objectsOn line)[index.val].val == 0) := by
    rw [scene.objectsOn_getElem_zero inside, shown.zeroOnLine]
  unfold shownPixel SpriteSlot.palette SpriteSlot.behindBackground
  rw [zero, attributes, Fin.getElem_fin, shown.slot_pixel inside index.isLt]

theorem Shown.pixel (shown : scene.Shown cartridge line dots sprites) :
    sprites.pixel = ((scene.objectsOn line).find? fun object =>
      scene.objectPixel cartridge object line dots != 0).map
        (scene.shownPixel cartridge line dots) := by
  obtain ⟨found, bound⟩ := SpriteLine.find?_take sprites.slots (scene.objectsOn line)
    (fun object => scene.objectPixel cartridge object line dots != 0) (scene.objectsOn_length line)
    (fun index inside => by
      rw [shown.slot_pixel inside (by have := scene.objectsOn_length line; omega)])
    (scene.objectsOn line).length (Nat.le_refl _)
  rw [List.take_length] at found
  rw [found]
  unfold SpriteLine.pixel
  rw [shown.count]
  cases first : SpriteLine.firstOpaque sprites.slots (scene.objectsOn line).length with
  | none => rfl
  | some slot =>
      have inside := bound slot first
      rw [Option.bind_some, List.getElem?_eq_getElem inside, Option.map_some, Option.map_some,
        shown.slot_shown inside]

end Scene

end Famicom
