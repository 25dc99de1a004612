import Famicom.Proofs.Ppu.Position
import Famicom.Proofs.Ppu.Request

namespace Famicom

namespace Beam

def Reached (beam : Beam) (line dot : Nat) : Prop :=
  line < beam.line ∨ (beam.line = line ∧ dot ≤ beam.dot)

instance (beam : Beam) (line dot : Nat) : Decidable (beam.Reached line dot) := instDecidableOr

def startsBlank (beam : Beam) : Bool := beam.line == 241 && beam.dot == 1

def endsBlank (beam : Beam) : Bool := beam.line == 261 && beam.dot == 1

def onPicture (beam : Beam) : Bool := decide (beam.line < 240) && decide (1 ≤ beam.dot)

theorem advance_cases {beam : Beam} (line_le : beam.line ≤ 261) (dot_le : beam.dot ≤ 340)
    (rendering : Bool) :
    ((beam.advance rendering).line = beam.line ∧ (beam.advance rendering).dot = beam.dot + 1 ∧
      beam.dot < 340) ∨
    ((beam.advance rendering).line = beam.line + 1 ∧ (beam.advance rendering).dot = 0 ∧
      beam.line < 261 ∧ beam.dot = 340) ∨
    ((beam.advance rendering).line = 0 ∧ (beam.advance rendering).dot = 0 ∧
      beam.line = 261 ∧ 339 ≤ beam.dot) := by
  cases skips : beam.skipsDot rendering with
  | true =>
      have place : beam.line = 261 ∧ beam.dot = 339 := by
        simp [skipsDot, preRender, preRenderLine, dotsPerLine] at skips
        exact skips.1.1
      right; right
      simp [advance, skips, nextLine, preRenderLine, dotsPerLine, place]
  | false =>
      by_cases last : beam.dot = 340
      · by_cases bottom : beam.line = 261
        · right; right
          simp [advance, skips, nextLine, preRenderLine, dotsPerLine, last, bottom]
        · right; left
          simp [advance, skips, nextLine, preRenderLine, dotsPerLine, last, bottom]
          omega
      · left
        have stays : beam.dot + 1 ≠ 341 := by omega
        simp [advance, skips, dotsPerLine, stays]
        omega

end Beam

namespace Ppu

variable (ppu : Ppu) (cartridge : Cartridge)

/-! ## The flags after each stage of a dot -/

theorem endVblank_status :
    ppu.endVblank.status = if ppu.beam.endsBlank then {} else ppu.status := by
  have same : ppu.beam.endsBlank = true ↔
      ppu.beam.dot = 1 ∧ ppu.beam.line = Beam.preRenderLine := by
    simp [Beam.endsBlank, Beam.preRenderLine, and_comm]
  unfold endVblank
  simp only [same]
  split_ifs <;> rfl

theorem startVblank_status : ppu.startVblank.status =
    { ppu.status with vblank := ppu.status.vblank || ppu.beam.startsBlank } := by
  have same : ppu.beam.startsBlank = true ↔
      ppu.beam.dot = 1 ∧ ppu.beam.line = Beam.vblankLine := by
    simp [Beam.startsBlank, Beam.vblankLine, and_comm]
  unfold startVblank
  simp only [← same]
  cases ppu.beam.startsBlank with
  | true => simp [setVblank, updateNmi]
  | false => simp

theorem runSprites_status : ∃ overflow, (ppu.beam.onPicture = false → overflow = false) ∧
    (ppu.runSprites cartridge).status =
      { ppu.status with spriteOverflow := ppu.status.spriteOverflow || overflow } := by
  by_cases evaluates : ppu.beam.visible = true ∧ 64 < ppu.beam.dot ∧ ppu.beam.dot ≤ 256
  · obtain ⟨visible, late, early⟩ := evaluates
    have begun : ppu.beam.dot ≠ 0 := by omega
    have ran : ppu.runSprites cartridge = ppu.evaluateSprites := by
      simp [runSprites, visible, early, late, begun]
    have onPicture : ppu.beam.onPicture = true := by
      have above : ppu.beam.line < 240 := of_decide_eq_true visible
      simp [Beam.onPicture, above]
      omega
    rw [ran]
    exact ⟨_, fun elsewhere => absurd (onPicture.symm.trans elsewhere) nofun, rfl⟩
  · refine ⟨false, fun _ => rfl, ?_⟩
    unfold runSprites fetchSprites
    dsimp only
    split_ifs <;> simp_all

theorem render_status : ∃ overflow, (ppu.beam.onPicture = false → overflow = false) ∧
    (ppu.render cartridge).status =
      { ppu.status with spriteOverflow := ppu.status.spriteOverflow || overflow } := by
  unfold render
  split
  · have evaluated := (ppu.runBackground cartridge).runScroll.runSprites_status cartridge
    obtain ⟨_, _, drawn⟩ := ppu.runBackground_updates cartridge
    obtain ⟨_, scrolled⟩ := (ppu.runBackground cartridge).runScroll_updates
    rw [scrolled, drawn] at evaluated ⊢
    exact evaluated
  · exact ⟨false, fun _ => rfl, by simp⟩

theorem output_status : ∃ hit, (ppu.beam.onPicture = false → hit = false) ∧
    ppu.output.status =
      { ppu.status with spriteZeroHit := ppu.status.spriteZeroHit || hit } := by
  unfold output
  split
  · rename_i onScreen
    have onPicture : ppu.beam.onPicture = true := by
      simp [Beam.onPicture, onScreen.1, onScreen.2.1]
    unfold drawPixel
    split
    · exact ⟨_, fun elsewhere => absurd (onPicture.symm.trans elsewhere) nofun, rfl⟩
    · exact ⟨false, fun _ => rfl, by simp⟩
  · exact ⟨false, fun _ => rfl, by simp⟩

/-- A dot clears the flags where the blank ends, may raise those of the sprites on the picture, and
raises the first where the blank starts. -/
theorem tick_status : ∃ hit overflow,
    (ppu.beam.onPicture = false → hit = false ∧ overflow = false) ∧
    (ppu.tick cartridge).status =
      { vblank := ppu.status.vblank && !ppu.beam.endsBlank || ppu.beam.startsBlank
        spriteZeroHit := ppu.status.spriteZeroHit && !ppu.beam.endsBlank || hit
        spriteOverflow := ppu.status.spriteOverflow && !ppu.beam.endsBlank || overflow } := by
  obtain ⟨_, _, _, ended⟩ := ppu.endVblank_updates
  obtain ⟨_, _, _, _, _, _, rendered⟩ := ppu.endVblank.render_updates cartridge
  obtain ⟨_, _, _, drawn⟩ := (ppu.endVblank.render cartridge).output_updates
  obtain ⟨overflow, noOverflow, overflows⟩ := ppu.endVblank.render_status cartridge
  obtain ⟨hit, noHit, hits⟩ := (ppu.endVblank.render cartridge).output_status
  have before : ppu.endVblank.beam = ppu.beam := by rw [ended]
  have middle : (ppu.endVblank.render cartridge).beam = ppu.beam := by rw [rendered, before]
  have after : (ppu.endVblank.render cartridge).output.beam = ppu.beam := by rw [drawn, middle]
  rw [before] at noOverflow
  rw [middle] at noHit
  refine ⟨hit, overflow, fun elsewhere => ⟨noHit elsewhere, noOverflow elsewhere⟩, ?_⟩
  simp only [tick]
  rw [startVblank_status, after, hits, overflows, endVblank_status]
  cases ppu.beam.endsBlank <;> simp

end Ppu

/-! ## Flags and the beam -/

structure FlagsTimed (ppu : Ppu) : Prop where
  vblank : ppu.status.vblank = true → ppu.beam.Reached 241 2 ∧ ¬ ppu.beam.Reached 261 2
  sprites : ppu.beam.Reached 261 2 ∨ ¬ ppu.beam.Reached 0 2 →
    ppu.status.spriteZeroHit = false ∧ ppu.status.spriteOverflow = false

namespace FlagsTimed

theorem powerOn : FlagsTimed {} where
  vblank := nofun
  sprites _ := ⟨rfl, rfl⟩

theorem tick {ppu : Ppu} (timed : FlagsTimed ppu) (line_le : ppu.beam.line ≤ 261)
    (dot_le : ppu.beam.dot ≤ 340) (cartridge : Cartridge) : FlagsTimed (ppu.tick cartridge) := by
  obtain ⟨hit, overflow, unraised, status⟩ := ppu.tick_status cartridge
  have moved := Beam.advance_cases line_le dot_le ppu.mask.rendering
  rw [← ppu.tick_beam cartridge] at moved
  have vblank := timed.vblank
  have sprites := timed.sprites
  unfold Beam.Reached at vblank sprites
  constructor
  · intro set
    unfold Beam.Reached
    simp [status, Beam.endsBlank, Beam.startsBlank] at set
    rcases set with ⟨kept, below⟩ | started
    · have inside := vblank kept
      omega
    · omega
  · intro outside
    unfold Beam.Reached at outside
    have dark : ppu.beam.onPicture = false := by
      simp [Beam.onPicture]
      omega
    obtain ⟨noHit, noOverflow⟩ := unraised dark
    cases ends : ppu.beam.endsBlank with
    | true => simp [status, ends, noHit, noOverflow]
    | false =>
        have clear := sprites (by simp [Beam.endsBlank] at ends; omega)
        simp [status, noHit, noOverflow, clear]

end FlagsTimed

namespace PpuOperation

theorem apply_status (state : Ppu × Cartridge) {operation : PpuOperation}
    (notTick : operation ≠ .tick) : ∃ vblank,
      (vblank = true → state.1.status.vblank = true) ∧
      (apply state operation).1.status = { state.1.status with vblank } := by
  cases operation with
  | tick => exact absurd rfl notTick
  | read address =>
      rcases read_cases state.1 state.2 address with ⟨_, shown⟩ | ⟨_, _, _, shown⟩
      · have acknowledged := congrArg Ppu.status shown
        exact ⟨false, nofun, acknowledged⟩
      · have same := congrArg Ppu.status shown
        exact ⟨_, id, same⟩
  | write address data =>
      rcases write_cases state.1 state.2 address data with
        written | ⟨_, _, _, _, _, _, _, _, _, _, _, written⟩
      · have same := congrArg Ppu.status written
        exact ⟨_, id, same⟩
      · have same := congrArg Ppu.status written
        exact ⟨_, id, same⟩
  | takeNmi => exact ⟨_, id, rfl⟩
  | reset => exact ⟨_, id, rfl⟩
  | board address data => exact ⟨_, id, rfl⟩

theorem flagsTimed_apply {state : Ppu × Cartridge} (timed : FlagsTimed state.1)
    (line_le : state.1.beam.line ≤ 261) (dot_le : state.1.beam.dot ≤ 340)
    (operation : PpuOperation) : FlagsTimed (apply state operation).1 := by
  by_cases ticks : operation = .tick
  · rw [ticks]
    exact timed.tick line_le dot_le state.2
  · obtain ⟨_, kept, status⟩ := apply_status state ticks
    have beam := apply_beam state ticks
    constructor
    · intro set
      rw [status] at set
      rw [beam]
      exact timed.vblank (kept set)
    · intro outside
      rw [beam] at outside
      rw [status]
      exact timed.sprites outside

theorem placed_ppuAfter (cartridge : Cartridge) (history : List PpuOperation) :
    Placed (dots ({}, cartridge) history) (ppuAfter cartridge history).beam := by
  have fresh : Placed [] (({}, cartridge) : Ppu × Cartridge).1.beam := Placed.powerOn
  exact fresh.run history

theorem flagsTimed_ppuAfter (cartridge : Cartridge) (history : List PpuOperation) :
    FlagsTimed (ppuAfter cartridge history) := by
  induction history using List.reverseRecOn with
  | nil => exact FlagsTimed.powerOn
  | append_singleton history operation earlier =>
      have placed := placed_ppuAfter cartridge history
      rw [ppuAfter_concat]
      exact flagsTimed_apply earlier placed.line_le placed.dot_le operation

theorem endsBlank_of_lowered {state : Ppu × Cartridge} {operation : PpuOperation}
    (lowered :
      (state.1.status.spriteZeroHit = true ∧
        (apply state operation).1.status.spriteZeroHit = false) ∨
      (state.1.status.spriteOverflow = true ∧
        (apply state operation).1.status.spriteOverflow = false)) :
    operation = .tick ∧ state.1.beam.endsBlank = true := by
  by_cases ticks : operation = .tick
  · refine ⟨ticks, ?_⟩
    obtain ⟨_, _, _, status⟩ := state.1.tick_status state.2
    rw [ticks, apply, status] at lowered
    cases ends : state.1.beam.endsBlank with
    | true => rfl
    | false =>
        simp only [ends, Bool.not_false, Bool.and_true, Bool.or_eq_false_iff] at lowered
        rcases lowered with ⟨set, clear, _⟩ | ⟨set, clear, _⟩
        · exact absurd (clear.symm.trans set) Bool.false_ne_true
        · exact absurd (clear.symm.trans set) Bool.false_ne_true
  · obtain ⟨_, _, status⟩ := apply_status state ticks
    rw [status] at lowered
    simp_all

/-! ## Edges of the request -/

/-- The stored level went from low to high, and since then the edge was neither taken nor reset. -/
def RoseSinceTaken (cartridge : Cartridge) (history : List PpuOperation) : Prop :=
  ∃ before operation after, history = before ++ operation :: after ∧
    after.all isQuiet = true ∧ (ppuAfter cartridge before).nmiLevel = false ∧
    (ppuAfter cartridge (before ++ [operation])).nmiLevel = true

theorem not_roseSinceTaken_nil (cartridge : Cartridge) : ¬ RoseSinceTaken cartridge [] := by
  rintro ⟨before, operation, after, split, _⟩
  cases before <;> cases split

theorem roseSinceTaken_concat (cartridge : Cartridge) (history : List PpuOperation)
    (operation : PpuOperation) :
    RoseSinceTaken cartridge (history ++ [operation]) ↔
      ((ppuAfter cartridge history).nmiLevel = false ∧
        (ppuAfter cartridge (history ++ [operation])).nmiLevel = true) ∨
      (operation.isQuiet = true ∧ RoseSinceTaken cartridge history) := by
  constructor
  · rintro ⟨before, rising, after, split, quiet, low, high⟩
    obtain ⟨rfl, rfl, rfl⟩ | ⟨later, rfl, rfl⟩ := List.concat_eq_append_cons split
    · exact .inl ⟨low, high⟩
    · rw [List.all_append, Bool.and_eq_true] at quiet
      exact .inr ⟨by simpa using quiet.2, before, rising, later, rfl, quiet.1, low, high⟩
  · rintro (⟨low, high⟩ | ⟨calm, before, rising, after, rfl, quiet, low, high⟩)
    · exact ⟨history, operation, [], rfl, rfl, low, high⟩
    · exact ⟨before, rising, after ++ [operation], by simp, by simp [quiet, calm], low, high⟩

theorem request_ppuAfter (cartridge : Cartridge) (history : List PpuOperation) :
    (ppuAfter cartridge history).nmiLevel = (ppuAfter cartridge history).nmiOutput ∧
      ((ppuAfter cartridge history).nmiEdge = true ↔ RoseSinceTaken cartridge history) := by
  induction history using List.reverseRecOn with
  | nil => exact ⟨rfl, iff_of_false Bool.false_ne_true (not_roseSinceTaken_nil cartridge)⟩
  | append_singleton history operation earlier =>
      obtain ⟨level, edge⟩ := earlier
      rw [roseSinceTaken_concat, ← edge, ppuAfter_concat]
      cases quiet : operation.isQuiet with
      | true =>
          have tracks : Ppu.Tracks (run ({}, cartridge) history).1
              (apply (run ({}, cartridge) history) operation).1 := tracks_apply level quiet
          refine ⟨tracks.level, ?_⟩
          rw [tracks.edge, tracks.level, level]
          simp only [Bool.or_eq_true, Bool.and_eq_true, Bool.not_eq_true', true_and]
          exact or_comm
      | false =>
          cases operation with
          | takeNmi =>
              refine ⟨level, ?_⟩
              simp only [apply, Ppu.takeNmi, Bool.false_eq_true, false_and, or_false, false_iff]
              rintro ⟨low, high⟩
              exact absurd (low.symm.trans high) Bool.false_ne_true
          | reset =>
              have output : (run ({}, cartridge) history).1.reset.nmiOutput = false := by
                simp [Ppu.nmiOutput, Ppu.reset, PpuControl.nmiEnabled, UInt8.bit]
              exact ⟨output.symm, by simp [apply, Ppu.reset]⟩
          | tick => cases quiet
          | read address => cases quiet
          | write address data => cases quiet
          | board address data => cases quiet

/-- What the flags and the request say after any operations from power-on. The first flag is up only
from the dot after the blank starts to the dot where it ends, where all three fall; those of the
sprites fall nowhere else. The stored level is that of the request, and taking the edge reports
whether it has risen since it was last taken or reset. -/
theorem flags_follow_beam (cartridge : Cartridge) (history : List PpuOperation) :
    let ppu := ppuAfter cartridge history
    (ppu.beam.line ≤ 261 ∧ ppu.beam.dot ≤ 340) ∧
    (ppu.status.vblank = true → ppu.beam.Reached 241 2 ∧ ¬ ppu.beam.Reached 261 2) ∧
    (ppu.beam.line = 241 → ppu.beam.dot = 1 →
      (ppuAfter cartridge (history ++ [.tick])).status.vblank = true) ∧
    (ppu.beam.Reached 261 2 ∨ ¬ ppu.beam.Reached 0 2 →
      ppu.status.spriteZeroHit = false ∧ ppu.status.spriteOverflow = false) ∧
    (∀ operation,
      (ppu.status.spriteZeroHit = true ∧
        (ppuAfter cartridge (history ++ [operation])).status.spriteZeroHit = false) ∨
      (ppu.status.spriteOverflow = true ∧
        (ppuAfter cartridge (history ++ [operation])).status.spriteOverflow = false) →
      operation = .tick ∧ ppu.beam.line = 261 ∧ ppu.beam.dot = 1) ∧
    ppu.nmiLevel = (ppu.status.vblank && ppu.control.byte.bit 7) ∧
    (ppu.takeNmi.1 = true ↔ RoseSinceTaken cartridge history) := by
  intro ppu
  have placed := placed_ppuAfter cartridge history
  have timed := flagsTimed_ppuAfter cartridge history
  obtain ⟨level, edge⟩ := request_ppuAfter cartridge history
  refine ⟨⟨placed.line_le, placed.dot_le⟩, timed.vblank, ?_, timed.sprites, ?_, level, edge⟩
  · intro line dot
    have starts : (ppuAfter cartridge history).beam.startsBlank = true := by
      simpa [Beam.startsBlank] using ⟨line, dot⟩
    obtain ⟨_, _, _, status⟩ :=
      (ppuAfter cartridge history).tick_status (run ({}, cartridge) history).2
    rw [ppuAfter_tick, status]
    simp [starts]
  · intro operation lowered
    rw [ppuAfter_concat] at lowered
    obtain ⟨ticks, ends⟩ := endsBlank_of_lowered lowered
    simp only [Beam.endsBlank, Bool.and_eq_true, beq_iff_eq] at ends
    exact ⟨ticks, ends⟩

end PpuOperation

end Famicom
