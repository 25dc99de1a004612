import Famicom.Ppu.Access
import Famicom.Proofs.Ppu.BackgroundLine
import Famicom.Proofs.Ppu.SecondaryMemory
import Famicom.Proofs.Ppu.SpriteOutput

/-!
Accesses of the picture unit that are checked where they happen: plain numbers for the places in its
memories and for the values of its bit fields, and a fault for each check that can fail. Beside each
access stands when it succeeds and what it then does, in terms of the types that need no check.
-/

namespace Famicom

inductive PpuFault
  | field
  | shifterBit
  | nametable
  | palette
  | object
  | objectRow
  | secondaryClear
  | secondaryStore
  | secondaryRead
  | slot
  | picture
  deriving DecidableEq

namespace PpuFault

variable {α β : Type}

@[simp] theorem ok_bind (value : α) (next : α → Except PpuFault β) :
    (Except.ok value >>= next) = next value := rfl

end PpuFault

/-! ## Memories -/

namespace Memory

variable {size : Nat} (memory : Memory size) (fault : PpuFault)

def readChecked (index : Nat) : Except PpuFault UInt8 :=
  if inside : index < size then .ok (memory.read ⟨index, inside⟩) else .error fault

def writeChecked (index : Nat) (byte : UInt8) : Except PpuFault (Memory size) :=
  if inside : index < size then .ok (memory.write ⟨index, inside⟩ byte) else .error fault

@[simp] theorem readChecked_val (index : Fin size) :
    memory.readChecked fault index.val = .ok (memory.read index) :=
  dif_pos index.isLt

theorem readChecked_of_lt {index : Nat} (inside : index < size) :
    memory.readChecked fault index = .ok (memory.read ⟨index, inside⟩) :=
  dif_pos inside

theorem writeChecked_of_lt {index : Nat} (inside : index < size) (byte : UInt8) :
    memory.writeChecked fault index byte = .ok (memory.write ⟨index, inside⟩ byte) :=
  dif_pos inside

end Memory

namespace Mirroring

def areaStarts : Mirroring → Vector Nat 4
  | horizontal => #v[0, 0, 0x400, 0x400]
  | vertical => #v[0, 0x400, 0, 0x400]
  | singleScreen0 => #v[0, 0, 0, 0]
  | singleScreen1 => #v[0x400, 0x400, 0x400, 0x400]
  | fourScreen => #v[0, 0x400, 0x800, 0xc00]

def nametableOffset (mirroring : Mirroring) (address : Nat) : Nat :=
  mirroring.areaStarts.get (residue 4 (address / 0x400)) + address % 0x400

theorem areaStarts_get (mirroring : Mirroring) (table : Fin 4) :
    mirroring.areaStarts.get table = (mirroring.area table).val * 0x400 := by
  revert table
  cases mirroring <;> decide

theorem nametableOffset_eq (mirroring : Mirroring) (address : Nat) :
    mirroring.nametableOffset address = (mirroring.nametableCell address).val := by
  unfold nametableOffset
  rw [areaStarts_get]
  rfl

end Mirroring

namespace Ppu

def paletteOffset (index : Nat) : Nat :=
  let cell := index % 0x20
  if cell &&& 0x13 = 0x10 then cell % 0x10 else cell

theorem paletteOffset_eq (index : Nat) : paletteOffset index = (paletteCell index).val := by
  have backdrop : ∀ cell : Fin 0x20, cell.val &&& 0x13 = 0x10 ↔
      cell.val / 0x10 = 1 ∧ cell.val % 4 = 0 := by decide
  have here := backdrop (residue 0x20 index)
  simp only [val_residue, Nat.mod_mod_of_dvd index (show 4 ∣ 0x20 by decide)] at here
  unfold paletteOffset paletteCell
  simp only [here]
  split
  · simp only [val_residue]
    omega
  · rfl

def corruptChecked (objects : Memory 0x100) (row : Nat) : Except PpuFault (Memory 0x100) :=
  if inside : row * 8 + 8 ≤ 0x100 then .ok (corruptObjects objects ⟨row, by omega⟩)
  else .error .objectRow

theorem corruptChecked_val (objects : Memory 0x100) (row : Fin 32) :
    corruptChecked objects row.val = .ok (corruptObjects objects row) :=
  dif_pos (by omega)

end Ppu

end Famicom

/-! ## Bit fields and shifters -/

namespace UInt16

open Famicom

def field (word : UInt16) (start width : Nat) : Nat := word.toNat / 2 ^ start % 2 ^ width

/-- The field lies within the word, and the value has no more bits than the field. -/
def storeField (word : UInt16) (start width value : Nat) : Except PpuFault UInt16 :=
  if start + width ≤ 16 ∧ value < 2 ^ width then
    .ok (UInt16.ofNat (word.toNat - word.field start width * 2 ^ start + value * 2 ^ start))
  else .error .field

theorem storeField_of_fits (word : UInt16) {start width value : Nat} (inside : start + width ≤ 16)
    (fits : value < 2 ^ width) : word.storeField start width value =
      .ok (UInt16.ofNat (word.toNat - word.field start width * 2 ^ start + value * 2 ^ start)) :=
  if_pos ⟨inside, fits⟩

example : storeField 0x7fff 0 5 32 = .error .field := by decide

theorem storeField_lowByte (word : UInt16) (byte : UInt8) :
    word.storeField 0 8 byte.toNat = .ok ((word &&& 0xff00) ||| byte.toUInt16) := by
  have below := word.toNat_lt
  have small := byte.toNat_lt
  rw [storeField_of_fits word (by decide) small]
  congr 1
  apply UInt16.toNat_inj.mp
  apply Nat.eq_of_testBit_eq
  intro place
  by_cases inside : place < 16
  · have split : word.toNat - word.field 0 8 * 2 ^ 0 + byte.toNat * 2 ^ 0 =
        2 ^ 8 * (word.toNat / 2 ^ 8) + byte.toNat := by
      unfold field
      omega
    rw [Shifter.testBit_load word byte inside, UInt16.toNat_ofNat', split, Nat.testBit_mod_two_pow,
      decide_eq_true inside, Bool.true_and, Nat.testBit_two_pow_mul_add _ small]
    by_cases low : place < 8
    · rw [if_pos low, if_neg (by omega)]
      rfl
    · rw [if_neg low, if_pos (by omega), Nat.testBit_div_two_pow]
      congr 1
      omega
  · have high (number : UInt16) : number.toNat.testBit place = false := by
      apply Nat.testBit_lt_two_pow
      exact Nat.lt_of_lt_of_le number.toNat_lt
        (Nat.pow_le_pow_right Nat.two_pos (Nat.not_lt.mp inside))
    rw [high, high]

end UInt16

namespace Famicom

namespace Shifter

variable (shifter : Shifter)

def pixelChecked (column : Nat) : Except PpuFault Nat :=
  if column < 16 then .ok (shifter.pixel column) else .error .shifterBit

def loadChecked (low high : UInt8) : Except PpuFault Shifter := do
  let low ← shifter.low.storeField 0 8 low.toNat
  let high ← shifter.high.storeField 0 8 high.toNat
  .ok { low, high }

theorem pixelChecked_of_lt {column : Nat} (inside : column < 16) :
    shifter.pixelChecked column = .ok (shifter.pixel column) :=
  if_pos inside

theorem loadChecked_eq (low high : UInt8) :
    shifter.loadChecked low high = .ok (shifter.load low high) := by
  unfold loadChecked
  rw [UInt16.storeField_lowByte, UInt16.storeField_lowByte]
  rfl

end Shifter

namespace Background

def loadTileChecked (background : Background) : Except PpuFault Background := do
  let plane (position : Nat) : UInt8 := if background.quadrant.bit position then 0xff else 0
  let pattern ← background.pattern.loadChecked background.patternLow background.patternHigh
  let palette ← background.palette.loadChecked (plane 0) (plane 1)
  .ok { background with pattern, palette }

theorem loadTileChecked_eq (background : Background) :
    background.loadTileChecked = .ok background.loadTile := by
  unfold loadTileChecked
  simp only [Shifter.loadChecked_eq, PpuFault.ok_bind]
  rfl

end Background

/-! ## Sprites -/

namespace Evaluation

variable (evaluation : Evaluation) (objects : Memory 0x100) (address : UInt8)
  (dot line height : Nat)

def clearChecked : Except PpuFault Evaluation :=
  if dot % 2 = 1 then .ok evaluation
  else do
    let pointer := (dot / 2 - 1) % 0x20
    let secondary ← evaluation.secondary.writeChecked .secondaryClear pointer 0xff
    let cleared := { evaluation with pointer, secondary }
    .ok (if dot = 64 then cleared.restart else cleared)

def checkStore : Except PpuFault Unit :=
  if evaluation.pointer < 0x20 then .ok () else .error .secondaryStore

def runChecked : Except PpuFault Progress :=
  if dot % 2 = 1 then do
    let latch ← objects.readChecked .object address.toNat
    .ok { address, evaluation := { evaluation with latch } }
  else
    let found := onLine evaluation.latch line height
    match evaluation.phase with
    | .scan => do
        evaluation.checkStore
        .ok (evaluation.scan address found)
    | .copy remaining => do
        evaluation.checkStore
        .ok (evaluation.copyByte address remaining)
    | .overflow => .ok (evaluation.seekOverflow address found)
    | .finished => .ok { evaluation, address := UInt8.ofNat (address.toNat / 4 * 4 + 4) }

theorem clearChecked_eq : evaluation.clearChecked dot = .ok (evaluation.clear dot) := by
  unfold clearChecked clear
  split
  · rfl
  · have inside := Nat.mod_lt (dot / 2 - 1) (show 0 < 0x20 by decide)
    dsimp only
    rw [Memory.writeChecked_of_lt _ _ inside]
    rfl

theorem checkStore_bind (next : Progress)
    (stored : next.evaluation.overrun =
      (evaluation.overrun || decide (32 ≤ evaluation.pointer)))
    (sound : evaluation.overrun = false) :
    (do evaluation.checkStore; .ok next) =
      if next.evaluation.overrun then .error PpuFault.secondaryStore else .ok next := by
  unfold checkStore
  rw [stored, sound, Bool.false_or]
  by_cases inside : evaluation.pointer < 32
  · rw [if_pos inside, decide_eq_false (Nat.not_le.mpr inside)]
    rfl
  · rw [if_neg inside, decide_eq_true (Nat.not_lt.mp inside)]
    rfl

theorem runChecked_eq (sound : evaluation.overrun = false) :
    evaluation.runChecked objects address dot line height =
      if (evaluation.run objects address dot line height).evaluation.overrun then
        .error .secondaryStore
      else .ok (evaluation.run objects address dot line height) := by
  unfold runChecked run
  split
  · rw [Memory.readChecked_of_lt _ _ address.toNat_lt, PpuFault.ok_bind]
    simp only [sound]
    rfl
  · dsimp only
    cases phase : evaluation.phase with
    | scan =>
        simp only
        exact evaluation.checkStore_bind _ (evaluation.scan_overrun address _) sound
    | copy remaining =>
        simp only
        exact evaluation.checkStore_bind _ (evaluation.copyByte_overrun address remaining) sound
    | overflow =>
        simp only
        rw [seekOverflow_overrun, sound]
        rfl
    | finished =>
        simp only [sound]
        rfl

end Evaluation

namespace SpriteLine

variable (sprites : SpriteLine) (cartridge : Cartridge) (evaluation : Evaluation)

def fetchChecked (slot line height table : Nat) : Except PpuFault SpriteLine :=
  if slot * 4 + 4 ≤ 0x20 then
    if inside : slot < 8 then
      .ok (sprites.fetch cartridge evaluation ⟨slot, inside⟩ line height table)
    else .error .slot
  else .error .secondaryRead

def shiftChecked : Except PpuFault SpriteLine :=
  if sprites.count ≤ 8 then .ok sprites.shift else .error .slot

theorem fetchChecked_of_lt {slot : Nat} (inside : slot < 8) (line height table : Nat) :
    sprites.fetchChecked cartridge evaluation slot line height table =
      .ok (sprites.fetch cartridge evaluation ⟨slot, inside⟩ line height table) := by
  unfold fetchChecked
  rw [if_pos (by omega), dif_pos inside]

theorem shiftChecked_of_le (few : sprites.count ≤ 8) :
    sprites.shiftChecked = .ok sprites.shift :=
  if_pos few

theorem fetch_count_le (few : sprites.count ≤ 8) (inside : evaluation.pointer ≤ 32) (slot : Fin 8)
    (line height table : Nat) :
    (sprites.fetch cartridge evaluation slot line height table).count ≤ 8 := by
  unfold fetch
  dsimp only
  split
  · omega
  · exact few

end SpriteLine

end Famicom
