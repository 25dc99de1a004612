import Famicom.Proofs.Bus.Operation

/-!
How far the beam moves while dots run, whatever else happens to the picture unit: one place a dot,
and at most one more for each frame that ends on the way.
-/

namespace Famicom

attribute [local irreducible] Bus.tick

namespace Beam

/-- Frames are counted with all of their dots, dropped or not. -/
def place (beam : Beam) : Nat := 89342 * beam.frame + 341 * beam.line + beam.dot

structure Inside (beam : Beam) : Prop where
  line_le : beam.line ≤ 261
  dot_le : beam.dot ≤ 340

structure Passed (before : Beam) (dots : Nat) (after : Beam) : Prop where
  inside : after.Inside
  frames : before.frame ≤ after.frame
  least : before.place + dots ≤ after.place
  most : after.place ≤ before.place + dots + (after.frame - before.frame)

variable {before middle after beam : Beam} {first second : Nat}

theorem Passed.refl (inside : beam.Inside) : Passed beam 0 beam where
  inside := inside
  frames := Nat.le_refl _
  least := Nat.le_refl _
  most := Nat.le_add_right _ _

theorem Passed.trans (one : Passed before first middle) (two : Passed middle second after) :
    Passed before (first + second) after where
  inside := two.inside
  frames := Nat.le_trans one.frames two.frames
  least := by
    have := one.least
    have := two.least
    omega
  most := by
    have := one.most
    have := two.most
    have := one.frames
    have := two.frames
    omega

theorem advance_length (beam : Beam) (rendering : Bool) : ∃ length,
    (length = 1 ∨ length = 2 ∧ beam.line = 261 ∧ beam.dot = 339) ∧
      beam.advance rendering = if beam.dot + length = 341 then beam.nextLine
        else { beam with dot := beam.dot + length } := by
  refine ⟨if beam.skipsDot rendering then 2 else 1, ?_, rfl⟩
  split
  · rename_i skips
    simp only [skipsDot, preRender, preRenderLine, dotsPerLine, Bool.and_eq_true,
      beq_iff_eq] at skips
    exact .inr ⟨rfl, skips.1.1.1, skips.1.1.2⟩
  · exact .inl rfl

/-- Of the places that one dot moves the beam by, a second one is left out on the last line only. -/
theorem passed_nextLine (inside : beam.Inside) {length : Nat} (ends : beam.dot + length = 341)
    (plain : length = 1 ∨ length = 2 ∧ beam.line = 261) : Passed beam 1 beam.nextLine := by
  have line_le := inside.line_le
  unfold nextLine preRenderLine
  split
  · refine ⟨⟨Nat.zero_le 261, Nat.zero_le 340⟩, Nat.le_succ _, ?_, ?_⟩
    · simp only [place]
      omega
    · simp only [place]
      omega
  · refine ⟨⟨?_, Nat.zero_le 340⟩, Nat.le_refl _, ?_, ?_⟩
    · dsimp only
      omega
    · simp only [place]
      omega
    · simp only [place]
      omega

theorem passed_advance (inside : beam.Inside) (rendering : Bool) :
    Passed beam 1 (beam.advance rendering) := by
  have dot_le := inside.dot_le
  obtain ⟨length, plain, advanced⟩ := beam.advance_length rendering
  rw [advanced]
  split
  · rename_i ends
    have onLast : length = 1 ∨ length = 2 ∧ beam.line = 261 := by omega
    exact passed_nextLine inside ends onLast
  · refine ⟨⟨inside.line_le, ?_⟩, Nat.le_refl _, ?_, ?_⟩
    · dsimp only
      omega
    · simp only [place]
      omega
    · simp only [place]
      omega

theorem Passed.frame_le {dots : Nat} (passed : Passed before dots after) (inside : before.Inside)
    (few : dots < 89341) : after.frame ≤ before.frame + 1 := by
  have line_le := inside.line_le
  have dot_le := inside.dot_le
  have most := passed.most
  unfold place at most
  omega

theorem Passed.rest_le {dots : Nat} (passed : Passed before dots after)
    (same : after.frame = before.frame) :
    341 * before.line + before.dot + dots ≤ 341 * after.line + after.dot := by
  have least := passed.least
  unfold place at least
  rw [same] at least
  omega

end Beam

namespace PpuOperation

theorem passed_run (state : Ppu × Cartridge) (inside : state.1.beam.Inside)
    (history : List PpuOperation) :
    state.1.beam.Passed (history.count .tick) (run state history).1.beam := by
  induction history generalizing state with
  | nil => exact .refl inside
  | cons operation rest continues =>
      rw [List.count_cons, Nat.add_comm]
      by_cases ticks : operation = .tick
      · subst ticks
        have moved : state.1.beam.Passed 1 (apply state .tick).1.beam := by
          have beam := state.1.tick_beam state.2
          simp only [apply, beam]
          exact Beam.passed_advance inside _
        exact moved.trans (continues _ moved.inside)
      · have same := apply_beam state ticks
        have later := continues _ (same.symm ▸ inside : (apply state operation).1.beam.Inside)
        rw [same] at later
        rw [if_neg (by simpa using ticks), Nat.zero_add]
        exact later

end PpuOperation

theorem BusCycle.passed_replay {bus : Bus} (inside : bus.ppu.beam.Inside) (cycles : List BusCycle) :
    bus.ppu.beam.Passed (3 * cycles.length) (replay bus cycles).ppu.beam := by
  have passed := PpuOperation.passed_run bus.picture inside (cycles.flatMap pictureOperations)
  rw [← replay_picture, count_tick_flatMap] at passed
  exact passed

end Famicom
