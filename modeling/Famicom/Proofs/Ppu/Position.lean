import Famicom.Proofs.Ppu.Operation
import Mathlib.Data.Nat.Count

/-!
The position of the beam counted from power-on. Every frame has 89342 dots, but for the odd frames
that drop one, so the position and the number of completed frames tell how many dots have run.
-/

namespace Famicom

namespace PpuOperation

def dots (state : Ppu × Cartridge) : List PpuOperation → List Ppu
  | [] => []
  | operation :: rest =>
      (if operation = .tick then [state.1] else []) ++ dots (apply state operation) rest

theorem length_dots (state : Ppu × Cartridge) (history : List PpuOperation) :
    (dots state history).length = history.count .tick := by
  induction history generalizing state with
  | nil => rfl
  | cons operation rest continues =>
      rw [dots, List.length_append, continues, List.count_cons, Nat.add_comm]
      cases operation <;> rfl

end PpuOperation

/-- An odd frame in which rendering was on when the last dot but one of its last line ran. -/
def DropsDot (dots : List Ppu) (frame : Nat) : Prop :=
  frame % 2 = 1 ∧ ∃ ppu ∈ dots, ppu.beam.frame = frame ∧ ppu.beam.line = 261 ∧
    ppu.beam.dot = 339 ∧ ppu.mask.rendering = true

instance (dots : List Ppu) : DecidablePred (DropsDot dots) := fun _ => instDecidableAnd

def droppedDots (dots : List Ppu) (frames : Nat) : Nat := Nat.count (DropsDot dots) frames

theorem droppedDots_le_half (dots : List Ppu) (frames : Nat) :
    droppedDots dots frames ≤ frames / 2 := by
  unfold droppedDots
  induction frames with
  | zero => exact Nat.le_refl 0
  | succ frames shorter =>
      rw [Nat.count_succ]
      split
      · rename_i drops
        have odd := drops.1
        omega
      · omega

theorem dropsDot_concat (dots : List Ppu) (ppu : Ppu) (frame : Nat) :
    DropsDot (dots ++ [ppu]) frame ↔
      DropsDot dots frame ∨ (frame % 2 = 1 ∧ ppu.beam.frame = frame ∧ ppu.beam.line = 261 ∧
        ppu.beam.dot = 339 ∧ ppu.mask.rendering = true) := by
  simp only [DropsDot, List.mem_append, List.mem_singleton, or_and_right, exists_or,
    exists_eq_left, and_or_left]

theorem droppedDots_concat (dots : List Ppu) (ppu : Ppu) {frames : Nat}
    (later : frames ≤ ppu.beam.frame) :
    droppedDots (dots ++ [ppu]) frames = droppedDots dots frames := by
  have same (frame : Nat) (earlier : frame < frames) :
      DropsDot (dots ++ [ppu]) frame ↔ DropsDot dots frame := by
    rw [dropsDot_concat, or_iff_left]
    rintro ⟨_, now, _⟩
    omega
  apply Nat.le_antisymm
  · exact Nat.count_mono_left fun frame earlier => (same frame earlier).mp
  · exact Nat.count_mono_left fun frame earlier => (same frame earlier).mpr

structure Placed (dots : List Ppu) (beam : Beam) : Prop where
  line_le : beam.line ≤ 261
  dot_le : beam.dot ≤ 340
  parity : beam.oddFrame = true ↔ beam.frame % 2 = 1
  position : 89342 * beam.frame + 341 * beam.line + beam.dot =
    dots.length + droppedDots dots beam.frame
  completed : ∀ frame, DropsDot dots frame → frame < beam.frame

namespace Placed

theorem powerOn : Placed [] {} where
  line_le := by decide
  dot_le := by decide
  parity := by decide
  position := rfl
  completed := by
    rintro frame ⟨_, ppu, listed, _⟩
    cases listed

variable {dots : List Ppu} {ppu : Ppu}

theorem skipsDot_iff (placed : Placed dots ppu.beam) :
    ppu.beam.skipsDot ppu.mask.rendering = true ↔ DropsDot (dots ++ [ppu]) ppu.beam.frame := by
  have unfinished : ¬ DropsDot dots ppu.beam.frame := fun drops =>
    Nat.lt_irrefl _ (placed.completed _ drops)
  rw [dropsDot_concat, or_iff_right unfinished]
  simp only [Beam.skipsDot, Beam.preRender, Beam.preRenderLine, Beam.dotsPerLine,
    Bool.and_eq_true, beq_iff_eq, placed.parity]
  tauto

theorem dropsDot_concat_le (placed : Placed dots ppu.beam) {frame : Nat}
    (drops : DropsDot (dots ++ [ppu]) frame) : frame ≤ ppu.beam.frame := by
  rcases (dropsDot_concat _ _ _).mp drops with before | ⟨_, now, _⟩
  · exact Nat.le_of_lt (placed.completed _ before)
  · exact Nat.le_of_eq now.symm

theorem nextDot (placed : Placed dots ppu.beam) {beam : Beam}
    (stays : ppu.beam.skipsDot ppu.mask.rendering = false) (frame : beam.frame = ppu.beam.frame)
    (oddFrame : beam.oddFrame = ppu.beam.oddFrame) (line_le : beam.line ≤ 261)
    (dot_le : beam.dot ≤ 340)
    (next : 341 * beam.line + beam.dot = 341 * ppu.beam.line + ppu.beam.dot + 1) :
    Placed (dots ++ [ppu]) beam where
  line_le := line_le
  dot_le := dot_le
  parity := by
    rw [frame, oddFrame]
    exact placed.parity
  position := by
    have position := placed.position
    rw [frame, droppedDots_concat dots ppu (Nat.le_refl _), List.length_append,
      List.length_singleton]
    omega
  completed := by
    intro dropping drops
    apply Nat.lt_of_le_of_ne
    · rw [frame]
      exact placed.dropsDot_concat_le drops
    · rintro rfl
      rw [frame] at drops
      exact absurd (placed.skipsDot_iff.mpr drops) (Bool.eq_false_iff.mp stays)

theorem nextFrame (placed : Placed dots ppu.beam) (last : ppu.beam.line = 261)
    (ends : ppu.beam.dot + (if ppu.beam.skipsDot ppu.mask.rendering then 2 else 1) = 341) :
    Placed (dots ++ [ppu])
      { line := 0, dot := 0, frame := ppu.beam.frame + 1, oddFrame := !ppu.beam.oddFrame } where
  line_le := Nat.zero_le 261
  dot_le := Nat.zero_le 340
  parity := by
    have parity := placed.parity
    cases odd : ppu.beam.oddFrame with
    | false =>
        have even := mt parity.mpr (Bool.eq_false_iff.mp odd)
        simp only [Bool.not_false, true_iff]
        omega
    | true =>
        have odd := parity.mp odd
        simp only [Bool.not_true, Bool.false_eq_true, false_iff]
        omega
  position := by
    have position := placed.position
    have earlier := droppedDots_concat dots ppu (Nat.le_refl ppu.beam.frame)
    have skips := placed.skipsDot_iff
    unfold droppedDots at earlier position ⊢
    dsimp only
    rw [Nat.count_succ, earlier, List.length_append, List.length_singleton]
    by_cases skipped : ppu.beam.skipsDot ppu.mask.rendering = true
    · rw [if_pos skipped] at ends
      rw [if_pos (skips.mp skipped)]
      omega
    · rw [if_neg skipped] at ends
      rw [if_neg (mt skips.mpr skipped)]
      omega
  completed := fun _ drops => Nat.lt_succ_of_le (placed.dropsDot_concat_le drops)

theorem tick (placed : Placed dots ppu.beam) :
    Placed (dots ++ [ppu]) (ppu.beam.advance ppu.mask.rendering) := by
  have line_le := placed.line_le
  have dot_le := placed.dot_le
  -- A dot is dropped on the last line only, so on every other line the next dot is one further.
  by_cases ends : ppu.beam.dot + (if ppu.beam.skipsDot ppu.mask.rendering then 2 else 1) = 341
  · by_cases last : ppu.beam.line = 261
    · have wraps : ppu.beam.advance ppu.mask.rendering =
          { line := 0, dot := 0, frame := ppu.beam.frame + 1,
            oddFrame := !ppu.beam.oddFrame } := by
        simp only [Beam.advance, Beam.dotsPerLine, Beam.nextLine, Beam.preRenderLine, ends, last,
          if_true]
      rw [wraps]
      exact placed.nextFrame last ends
    · have stays : ppu.beam.skipsDot ppu.mask.rendering = false := by
        simp [Beam.skipsDot, Beam.preRender, Beam.preRenderLine, last]
      have below : ppu.beam.advance ppu.mask.rendering =
          { ppu.beam with line := ppu.beam.line + 1, dot := 0 } := by
        simp only [Beam.advance, Beam.dotsPerLine, Beam.nextLine, Beam.preRenderLine, ends, last,
          if_true, if_false]
      rw [stays, if_neg Bool.false_ne_true] at ends
      rw [below]
      refine placed.nextDot stays ?_ ?_ ?_ ?_ ?_ <;> dsimp only <;> omega
  · have stays : ppu.beam.skipsDot ppu.mask.rendering = false := by
      apply Bool.eq_false_iff.mpr
      intro skips
      have place : ppu.beam.dot = 339 := by
        simp only [Beam.skipsDot, Beam.dotsPerLine, Bool.and_eq_true, beq_iff_eq] at skips
        exact skips.1.1.2
      rw [if_pos skips, place] at ends
      exact ends rfl
    have right : ppu.beam.advance ppu.mask.rendering =
        { ppu.beam with dot := ppu.beam.dot + 1 } := by
      rw [stays, if_neg Bool.false_ne_true] at ends
      simp only [Beam.advance, stays, Bool.false_eq_true, if_false, Beam.dotsPerLine, ends]
    rw [stays, if_neg Bool.false_ne_true] at ends
    rw [right]
    refine placed.nextDot stays ?_ ?_ ?_ ?_ ?_ <;> dsimp only <;> omega

theorem run {dots : List Ppu} {state : Ppu × Cartridge} (placed : Placed dots state.1.beam)
    (history : List PpuOperation) :
    Placed (dots ++ PpuOperation.dots state history) (PpuOperation.run state history).1.beam := by
  induction history generalizing dots state with
  | nil => simpa [PpuOperation.dots, PpuOperation.run] using placed
  | cons operation rest continues =>
      rw [PpuOperation.dots, ← List.append_assoc]
      apply continues
      by_cases ticks : operation = .tick
      · rw [if_pos ticks, ticks]
        have beam := state.1.tick_beam state.2
        simpa only [PpuOperation.apply, beam] using placed.tick
      · rw [if_neg ticks, List.append_nil, PpuOperation.apply_beam state ticks]
        exact placed

end Placed

end Famicom
