import Famicom.Ppu.Scroll
import Mathlib.Tactic.SplitIfs

/-!
Where an address lies so many tile columns right of another, or so many rows below it, told at once
instead of step by step.
-/

namespace Famicom.ScrollAddress

attribute [ext] ScrollAddress

variable (scroll : ScrollAddress) (distance : Nat)

/-! ## One step -/

theorem nextColumn_coarseX :
    scroll.nextColumn.coarseX.val = (scroll.coarseX.val + 1) % 32 := by
  unfold nextColumn
  dsimp only
  split_ifs <;> rfl

theorem nextColumn_nametableX :
    scroll.nextColumn.nametableX = (scroll.nametableX ^^ decide (scroll.coarseX.val = 31)) := by
  unfold nextColumn
  dsimp only
  split_ifs with last <;> simp [last]

theorem nextColumn_vertical : scroll.nextColumn.coarseY = scroll.coarseY ∧
    scroll.nextColumn.nametableY = scroll.nametableY ∧
    scroll.nextColumn.fineY = scroll.fineY := by
  unfold nextColumn
  dsimp only
  split_ifs <;> exact ⟨rfl, rfl, rfl⟩

theorem nextRow_fineY : scroll.nextRow.fineY.val = (scroll.fineY.val + 1) % 8 := by
  unfold nextRow nextTileRow
  dsimp only
  split_ifs <;> rfl

theorem nextRow_coarseY : scroll.nextRow.coarseY.val =
    if scroll.fineY.val = 7 then
      if scroll.coarseY.val = 29 then 0 else (scroll.coarseY.val + 1) % 32
    else scroll.coarseY.val := by
  unfold nextRow nextTileRow
  dsimp only
  split_ifs <;> rfl

theorem nextRow_nametableY : scroll.nextRow.nametableY =
    (scroll.nametableY ^^ decide (scroll.fineY.val = 7 ∧ scroll.coarseY.val = 29)) := by
  unfold nextRow nextTileRow
  dsimp only
  split_ifs <;> simp_all

theorem nextRow_horizontal : scroll.nextRow.coarseX = scroll.coarseX ∧
    scroll.nextRow.nametableX = scroll.nametableX := by
  unfold nextRow nextTileRow
  dsimp only
  split_ifs <;> exact ⟨rfl, rfl⟩

/-! ## Many steps -/

/-- Two horizontal nametables lie side by side, and the first follows the second again. -/
def columnsRight : ScrollAddress :=
  let column := scroll.coarseX.val + distance
  { scroll with
    coarseX := residue 32 column
    nametableX := scroll.nametableX ^^ decide (column / 32 % 2 = 1) }

/-- The row within a nametable and how often the nametable changed on the way. Nametables have 240
rows, but a start in the attributes below them runs on to row 255 and then into the rows of the same
nametable. -/
def rowBelow (start distance : Nat) : Nat × Nat :=
  let row := start + distance
  if start < 240 then (row % 240, row / 240)
  else if row < 256 then (row, 0)
  else ((row - 256) % 240, (row - 256) / 240)

def rowsBelow : ScrollAddress :=
  let below := rowBelow (scroll.coarseY.val * 8 + scroll.fineY.val) distance
  { scroll with
    coarseY := residue 32 (below.1 / 8)
    fineY := residue 8 below.1
    nametableY := scroll.nametableY ^^ decide (below.2 % 2 = 1) }

@[simp] theorem columnsRight_zero : scroll.columnsRight 0 = scroll := by
  have inside := scroll.coarseX.isLt
  have here : ¬ scroll.coarseX.val / 32 % 2 = 1 := by omega
  ext
  · exact Nat.mod_eq_of_lt inside
  · rfl
  · simp [columnsRight, here]
  · rfl
  · rfl

theorem columnsRight_nextColumn :
    (scroll.columnsRight distance).nextColumn = scroll.columnsRight (distance + 1) := by
  obtain ⟨coarseY, nametableY, fineY⟩ := (scroll.columnsRight distance).nextColumn_vertical
  ext
  · rw [nextColumn_coarseX]
    simp only [columnsRight, val_residue]
    omega
  · rw [coarseY]
    rfl
  · rw [nextColumn_nametableX]
    simp only [columnsRight, val_residue, Bool.xor_assoc]
    congr 1
    grind
  · rw [nametableY]
    rfl
  · rw [fineY]
    rfl

@[simp] theorem rowsBelow_zero : scroll.rowsBelow 0 = scroll := by
  have coarse := scroll.coarseY.isLt
  have fine := scroll.fineY.isLt
  ext
  · rfl
  · simp only [rowsBelow, rowBelow, val_residue]
    split_ifs <;> omega
  · rfl
  · simp only [rowsBelow, rowBelow]
    have here : ¬ (scroll.coarseY.val * 8 + scroll.fineY.val) / 240 % 2 = 1 ∨
        ¬ scroll.coarseY.val * 8 + scroll.fineY.val < 240 := by omega
    split_ifs <;> simp_all
    omega
  · simp only [rowsBelow, rowBelow, val_residue]
    split_ifs <;> omega

theorem rowBelow_lt (start : Nat) : (rowBelow start distance).1 < 256 := by
  unfold rowBelow
  dsimp only
  split_ifs <;> omega

theorem rowBelow_succ {start row turns : Nat} (below : rowBelow start distance = (row, turns)) :
    rowBelow start (distance + 1) =
      if row = 239 then (0, turns + 1) else if row = 255 then (0, turns) else (row + 1, turns) := by
  unfold rowBelow at below ⊢
  dsimp only at below ⊢
  split_ifs at below with picture attributes
  · obtain ⟨rfl, rfl⟩ := Prod.mk.inj below
    rw [if_pos picture]
    split_ifs <;> simp only [Prod.mk.injEq] <;> omega
  · obtain ⟨rfl, rfl⟩ := Prod.mk.inj below
    rw [if_neg picture]
    split_ifs <;> simp only [Prod.mk.injEq, and_true] <;> omega
  · obtain ⟨rfl, rfl⟩ := Prod.mk.inj below
    rw [if_neg picture, if_neg (by omega)]
    split_ifs <;> simp only [Prod.mk.injEq] <;> omega

theorem rowsBelow_nextRow :
    (scroll.rowsBelow distance).nextRow = scroll.rowsBelow (distance + 1) := by
  have inside := rowBelow_lt distance (scroll.coarseY.val * 8 + scroll.fineY.val)
  rcases below : rowBelow (scroll.coarseY.val * 8 + scroll.fineY.val) distance with ⟨row, turns⟩
  have next := rowBelow_succ distance below
  simp only [below] at inside
  ext
  · rw [(nextRow_horizontal _).1]
    rfl
  · rw [nextRow_coarseY]
    simp only [rowsBelow, below, next, val_residue]
    grind
  · rw [(nextRow_horizontal _).2]
    rfl
  · rw [nextRow_nametableY]
    simp only [rowsBelow, below, next, val_residue, Bool.xor_assoc]
    congr 1
    grind
  · rw [nextRow_fineY]
    simp only [rowsBelow, below, next, val_residue]
    grind

theorem columnsRight_nextRow_copyHorizontal :
    (scroll.columnsRight distance).nextRow.copyHorizontal scroll = scroll.nextRow := by
  ext
  · rw [(nextRow_horizontal scroll).1]
    rfl
  · simp only [copyHorizontal, nextRow_coarseY, columnsRight]
  · rw [(nextRow_horizontal scroll).2]
    rfl
  · simp only [copyHorizontal, nextRow_nametableY, columnsRight]
  · simp only [copyHorizontal, nextRow_fineY, columnsRight]

end Famicom.ScrollAddress
