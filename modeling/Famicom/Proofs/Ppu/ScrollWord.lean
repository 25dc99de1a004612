import Famicom.Proofs.Ppu.CheckedAccess
import Mathlib.Tactic.IntervalCases

/-!
The picture address as one word of sixteen bits. A store into a field of the word is refused when
the value has more bits than the field; `ScrollAddress` says what every step does when none is
refused.
-/

namespace Famicom

structure ScrollWord where
  bits : UInt16 := 0
  deriving DecidableEq

namespace ScrollWord

def coarseX (word : ScrollWord) : Nat := word.bits.field 0 5

def coarseY (word : ScrollWord) : Nat := word.bits.field 5 5

def nametable (word : ScrollWord) : Nat := word.bits.field 10 2

def fineY (word : ScrollWord) : Nat := word.bits.field 12 3

def address (word : ScrollWord) : Nat := word.bits.field 0 14

def tileAddress (word : ScrollWord) : Nat := 0x2000 + word.bits.field 0 12

def attributeAddress (word : ScrollWord) : Nat :=
  0x23c0 + word.nametable * 0x400 + word.coarseY / 4 * 8 + word.coarseX / 4

def store (word : ScrollWord) (start width value : Nat) : Except PpuFault ScrollWord := do
  let bits ← word.bits.storeField start width value
  .ok { bits }

def storeCoarseX (word : ScrollWord) : Nat → Except PpuFault ScrollWord := word.store 0 5

def storeCoarseY (word : ScrollWord) : Nat → Except PpuFault ScrollWord := word.store 5 5

def storeNametable (word : ScrollWord) : Nat → Except PpuFault ScrollWord := word.store 10 2

def storeFineY (word : ScrollWord) : Nat → Except PpuFault ScrollWord := word.store 12 3

def switchNametable (word : ScrollWord) (bit : Nat) : Except PpuFault ScrollWord :=
  word.storeNametable (word.nametable ^^^ bit)

def nextColumn (word : ScrollWord) : Except PpuFault ScrollWord :=
  if word.coarseX = 31 then do
    let word ← word.storeCoarseX 0
    word.switchNametable 1
  else word.storeCoarseX (word.coarseX + 1)

def nextTileRow (word : ScrollWord) : Except PpuFault ScrollWord :=
  if word.coarseY = 29 then do
    let word ← word.storeCoarseY 0
    word.switchNametable 2
  else if word.coarseY = 31 then word.storeCoarseY 0
  else word.storeCoarseY (word.coarseY + 1)

def nextRow (word : ScrollWord) : Except PpuFault ScrollWord :=
  if word.fineY < 7 then word.storeFineY (word.fineY + 1)
  else do
    let word ← word.storeFineY 0
    word.nextTileRow

def advance (word : ScrollWord) (distance : Nat) : ScrollWord where
  bits := (word.bits + UInt16.ofNat distance) &&& 0x7fff

def merge (word source : ScrollWord) (mask : UInt16) : ScrollWord where
  bits := (word.bits &&& ~~~mask) ||| (source.bits &&& mask)

def copyHorizontal (word source : ScrollWord) : ScrollWord := word.merge source 0x041f

def copyVertical (word source : ScrollWord) : ScrollWord := word.merge source 0x7be0

def storeHigh (word : ScrollWord) (data : UInt8) : Except PpuFault ScrollWord :=
  word.store 8 7 (data &&& 0x3f).toNat

def storeLow (word : ScrollWord) (data : UInt8) : Except PpuFault ScrollWord :=
  word.store 0 8 data.toNat

theorem ext_toNat {first second : ScrollWord} (same : first.bits.toNat = second.bits.toNat) :
    first = second := by
  obtain ⟨firstBits⟩ := first
  obtain ⟨secondBits⟩ := second
  exact congrArg mk (UInt16.toNat_inj.mp same)

end ScrollWord

namespace ScrollAddress

variable (scroll source : ScrollAddress)

def word : ScrollWord where
  bits := UInt16.ofNat scroll.toNat

@[simp] theorem toNat_word : scroll.word.bits.toNat = scroll.toNat := by
  have below := scroll.toNat_lt
  unfold word
  rw [UInt16.toNat_ofNat']
  omega

theorem word_lt : scroll.word.bits < 0x8000 := by
  rw [UInt16.lt_iff_toNat_lt, toNat_word]
  exact scroll.toNat_lt

/-! ## Fields -/

theorem word_coarseX : scroll.word.coarseX = scroll.coarseX.val := by
  have := scroll.coarseX.isLt
  unfold ScrollWord.coarseX UInt16.field
  rw [toNat_word, toNat, tileOffset]
  omega

theorem word_coarseY : scroll.word.coarseY = scroll.coarseY.val := by
  have := scroll.coarseX.isLt
  have := scroll.coarseY.isLt
  unfold ScrollWord.coarseY UInt16.field
  rw [toNat_word, toNat, tileOffset]
  omega

theorem word_nametable :
    scroll.word.nametable = scroll.nametableY.toNat * 2 + scroll.nametableX.toNat := by
  have := scroll.coarseX.isLt
  have := scroll.coarseY.isLt
  have := Bool.toNat_le scroll.nametableX
  have := Bool.toNat_le scroll.nametableY
  unfold ScrollWord.nametable UInt16.field
  rw [toNat_word, toNat, tileOffset]
  omega

theorem word_fineY : scroll.word.fineY = scroll.fineY.val := by
  have := scroll.fineY.isLt
  have := scroll.tileOffset_lt
  unfold ScrollWord.fineY UInt16.field
  rw [toNat_word, toNat]
  omega

theorem word_address : scroll.word.address = scroll.address := by
  unfold ScrollWord.address UInt16.field address
  rw [toNat_word]
  omega

theorem word_tileAddress : scroll.word.tileAddress = scroll.tileAddress := by
  have := scroll.tileOffset_lt
  unfold ScrollWord.tileAddress UInt16.field tileAddress
  rw [toNat_word, toNat]
  omega

theorem word_attributeAddress : scroll.word.attributeAddress = scroll.attributeAddress := by
  unfold ScrollWord.attributeAddress attributeAddress
  rw [word_nametable, word_coarseY, word_coarseX]
  omega

/-! ## Stores -/

theorem store_word {start width value : Nat} {after : ScrollAddress}
    (inside : start + width ≤ 16) (fits : value < 2 ^ width)
    (stored : scroll.toNat - scroll.toNat / 2 ^ start % 2 ^ width * 2 ^ start + value * 2 ^ start =
      after.toNat) : scroll.word.store start width value = .ok after.word := by
  unfold ScrollWord.store
  rw [UInt16.storeField_of_fits _ inside fits, PpuFault.ok_bind]
  unfold UInt16.field
  rw [toNat_word, stored]
  rfl

theorem storeCoarseX_word {value : Nat} (fits : value < 32) : scroll.word.storeCoarseX value =
    .ok { scroll with coarseX := residue 32 value }.word := by
  have := scroll.coarseX.isLt
  apply store_word _ (by decide) fits
  simp only [toNat, tileOffset, val_residue]
  omega

theorem storeCoarseY_word {value : Nat} (fits : value < 32) : scroll.word.storeCoarseY value =
    .ok { scroll with coarseY := residue 32 value }.word := by
  have := scroll.coarseX.isLt
  have := scroll.coarseY.isLt
  apply store_word _ (by decide) fits
  simp only [toNat, tileOffset, val_residue]
  omega

theorem storeNametable_word (x y : Bool) : scroll.word.storeNametable (y.toNat * 2 + x.toNat) =
    .ok { scroll with nametableX := x, nametableY := y }.word := by
  have := scroll.coarseX.isLt
  have := scroll.coarseY.isLt
  have := Bool.toNat_le scroll.nametableX
  have := Bool.toNat_le scroll.nametableY
  have := Bool.toNat_le x
  have := Bool.toNat_le y
  apply store_word _ (by decide)
  · omega
  · simp only [toNat, tileOffset]
    omega

theorem storeFineY_word {value : Nat} (fits : value < 8) : scroll.word.storeFineY value =
    .ok { scroll with fineY := residue 8 value }.word := by
  have := scroll.fineY.isLt
  have := scroll.tileOffset_lt
  apply store_word _ (by decide) fits
  simp only [toNat, tileOffset, val_residue] at this ⊢
  omega

theorem storeHigh_word (data : UInt8) : scroll.word.storeHigh data =
    .ok (scroll.setHigh data).word := by
  have := scroll.toNat_lt
  have six : (data &&& 0x3f).toNat = data.toNat % 0x40 := by
    rw [UInt8.toNat_and]
    exact Nat.and_two_pow_sub_one_eq_mod data.toNat 6
  unfold ScrollWord.storeHigh
  rw [six]
  apply store_word _ (by decide)
  · omega
  · rw [setHigh, toNat_ofNat]
    omega

theorem storeLow_word (data : UInt8) : scroll.word.storeLow data =
    .ok (scroll.setLow data).word := by
  have := scroll.toNat_lt
  have := data.toNat_lt
  apply store_word _ (by decide)
  · omega
  · rw [setLow, toNat_ofNat]
    omega

/-! ## Steps -/

theorem switchNametable_word (x y : Bool) :
    scroll.word.switchNametable (y.toNat * 2 + x.toNat) = .ok { scroll with
      nametableX := xor scroll.nametableX x
      nametableY := xor scroll.nametableY y }.word := by
  have switched : (scroll.nametableY.toNat * 2 + scroll.nametableX.toNat) ^^^
      (y.toNat * 2 + x.toNat) =
        (xor scroll.nametableY y).toNat * 2 + (xor scroll.nametableX x).toNat := by
    cases scroll.nametableX <;> cases scroll.nametableY <;> cases x <;> cases y <;> rfl
  unfold ScrollWord.switchNametable
  rw [word_nametable, switched, storeNametable_word]

theorem nextColumn_word : scroll.word.nextColumn = .ok scroll.nextColumn.word := by
  have := scroll.coarseX.isLt
  unfold ScrollWord.nextColumn nextColumn
  rw [word_coarseX]
  split
  · rename_i last
    rw [storeCoarseX_word _ (by decide), PpuFault.ok_bind]
    refine (switchNametable_word _ true false).trans ?_
    simp [last, residue]
  · exact storeCoarseX_word _ (by omega)

theorem nextTileRow_word : scroll.word.nextTileRow = .ok scroll.nextTileRow.word := by
  have := scroll.coarseY.isLt
  unfold ScrollWord.nextTileRow nextTileRow
  rw [word_coarseY]
  split_ifs with last attributes
  · rw [storeCoarseY_word _ (by decide), PpuFault.ok_bind]
    refine (switchNametable_word _ false true).trans ?_
    simp
  · rw [storeCoarseY_word _ (by decide)]
    simp [attributes, residue]
  · exact storeCoarseY_word _ (by omega)

theorem nextRow_word : scroll.word.nextRow = .ok scroll.nextRow.word := by
  have := scroll.fineY.isLt
  unfold ScrollWord.nextRow nextRow
  rw [word_fineY]
  by_cases last : scroll.fineY.val = 7
  · rw [if_neg (by omega), if_pos last, storeFineY_word _ (by decide), PpuFault.ok_bind,
      nextTileRow_word]
    simp [last, residue]
  · rw [if_pos (by omega), if_neg last]
    exact storeFineY_word _ (by omega)

theorem advance_word (distance : Nat) : scroll.word.advance distance =
    (scroll.advance distance).word := by
  apply ScrollWord.ext_toNat
  unfold ScrollWord.advance advance
  rw [toNat_word, toNat_ofNat, UInt16.toNat_and, UInt16.toNat_add, toNat_word, UInt16.toNat_ofNat']
  refine (Nat.and_two_pow_sub_one_eq_mod _ 15).trans ?_
  omega

theorem testBit_toNat (position : Nat) : scroll.toNat.testBit position =
    if position < 5 then scroll.coarseX.val.testBit position
    else if position < 10 then scroll.coarseY.val.testBit (position - 5)
    else if position = 10 then scroll.nametableX
    else if position = 11 then scroll.nametableY
    else scroll.fineY.val.testBit (position - 12) := by
  have nested : scroll.toNat = 2 ^ 5 * (2 ^ 5 * (2 ^ 1 * (2 ^ 1 * scroll.fineY.val +
      scroll.nametableY.toNat) + scroll.nametableX.toNat) + scroll.coarseY.val) +
        scroll.coarseX.val := by
    rw [toNat, tileOffset]
    omega
  have column := scroll.coarseX.isLt
  have row := scroll.coarseY.isLt
  rw [nested, Nat.testBit_two_pow_mul_add _ column, Nat.testBit_two_pow_mul_add _ row,
    Nat.testBit_two_pow_mul_add _ scroll.nametableX.toNat_lt,
    Nat.testBit_two_pow_mul_add _ scroll.nametableY.toNat_lt, Nat.testBit_bool_toNat,
    Nat.testBit_bool_toNat]
  split_ifs <;> grind

theorem testBit_of_high {position : Nat} (high : 15 ≤ position) :
    scroll.toNat.testBit position = false := by
  apply Nat.testBit_lt_two_pow
  exact Nat.lt_of_lt_of_le scroll.toNat_lt (Nat.pow_le_pow_right Nat.two_pos high)

theorem merge_word {mask : UInt16} {after : ScrollAddress}
    (merged : ∀ position < 15, after.toNat.testBit position =
      if mask.toNat.testBit position then source.toNat.testBit position
      else scroll.toNat.testBit position) :
    scroll.word.merge source.word mask = after.word := by
  apply ScrollWord.ext_toNat
  apply Nat.eq_of_testBit_eq
  intro position
  unfold ScrollWord.merge
  rw [toNat_word, UInt16.toNat_or, UInt16.toNat_and, UInt16.toNat_and, Nat.testBit_or,
    Nat.testBit_and, Nat.testBit_and, toNat_word, toNat_word]
  by_cases inside : position < 15
  · have others : (~~~mask).toNat.testBit position = !mask.toNat.testBit position := by
      have complement : (~~~mask).toNat = 2 ^ 16 - (mask.toNat + 1) := by
        rw [UInt16.toNat_not, Nat.sub_sub, Nat.add_comm]
        rfl
      rw [complement, Nat.testBit_two_pow_sub_succ mask.toNat_lt,
        decide_eq_true (Nat.lt_succ_of_lt inside), Bool.true_and]
    rw [merged position inside, others]
    cases mask.toNat.testBit position
    · simp
    · simp
  · have high := Nat.not_lt.mp inside
    rw [testBit_of_high _ high, testBit_of_high _ high, testBit_of_high _ high]
    rfl

theorem copyHorizontal_word : scroll.word.copyHorizontal source.word =
    (scroll.copyHorizontal source).word := by
  apply merge_word
  intro position inside
  simp only [testBit_toNat, copyHorizontal]
  interval_cases position <;> rfl

theorem copyVertical_word : scroll.word.copyVertical source.word =
    (scroll.copyVertical source).word := by
  apply merge_word
  intro position inside
  simp only [testBit_toNat, copyVertical]
  interval_cases position <;> rfl

end ScrollAddress

end Famicom
