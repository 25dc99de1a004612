import Famicom.Cartridge.Image
import Famicom.Proofs.Ppu.Evaluation
import Famicom.Proofs.Ppu.Operation
import Mathlib.Data.List.Induction

/-!
Where sprite evaluation stores into secondary memory. The pointer and the phase agree from the
restart on dot 64 onwards; only a clear that moves the pointer and is then cut off before that dot
brings them apart, and only then can a store fall past the end.
-/

namespace Famicom.Evaluation

variable (evaluation : Evaluation)

def stores : Bool :=
  match evaluation.phase with
  | .scan | .copy _ => true
  | .overflow | .finished => false

def AlignedAt : EvaluationPhase → Nat → Prop
  | .scan, pointer => pointer % 4 = 0 ∧ pointer < 32
  | .copy remaining, pointer =>
      1 ≤ remaining ∧ (pointer + remaining) % 4 = 0 ∧ pointer + remaining ≤ 32
  | .overflow, pointer | .finished, pointer => pointer ≤ 32

def Aligned : Prop := AlignedAt evaluation.phase evaluation.pointer

theorem aligned_restart : evaluation.restart.Aligned :=
  ⟨rfl, Nat.zero_lt_succ _⟩

theorem Aligned.pointer_lt {evaluation : Evaluation} (aligned : evaluation.Aligned)
    (stores : evaluation.stores = true) : evaluation.pointer < 32 := by
  unfold Aligned at aligned
  unfold Evaluation.stores at stores
  cases phase : evaluation.phase with
  | scan =>
      rw [phase] at aligned
      exact aligned.2
  | copy remaining =>
      rw [phase] at aligned
      obtain ⟨some, _, inside⟩ := aligned
      omega
  | overflow => simp [phase] at stores
  | finished => simp [phase] at stores

variable (objects : Memory 0x100) (address : UInt8) (dot line height : Nat)

theorem scan_overrun (found : Bool) : (evaluation.scan address found).evaluation.overrun =
    (evaluation.overrun || decide (32 ≤ evaluation.pointer)) := by
  unfold scan
  split
  all_goals exact evaluation.store_overrun

theorem copyByte_overrun (remaining : Nat) :
    (evaluation.copyByte address remaining).evaluation.overrun =
      (evaluation.overrun || decide (32 ≤ evaluation.pointer)) :=
  evaluation.store_overrun

theorem seekOverflow_overrun (found : Bool) :
    (evaluation.seekOverflow address found).evaluation.overrun = evaluation.overrun := by
  unfold seekOverflow
  split_ifs
  · rfl
  · dsimp only
    split <;> rfl

theorem run_overrun : (evaluation.run objects address dot line height).evaluation.overrun =
    (evaluation.overrun ||
      (dot % 2 == 0 && evaluation.stores && decide (32 ≤ evaluation.pointer))) := by
  unfold run
  by_cases odd : dot % 2 = 1
  · rw [if_pos odd, odd]
    exact (Bool.or_false _).symm
  · rw [if_neg odd, Nat.mod_two_ne_one.mp odd]
    unfold stores
    cases phase : evaluation.phase with
    | scan => exact evaluation.scan_overrun address _
    | copy remaining => exact evaluation.copyByte_overrun address remaining
    | overflow =>
        rw [seekOverflow_overrun]
        exact (Bool.or_false _).symm
    | finished => exact (Bool.or_false _).symm

theorem scan_pointer_le (found : Bool) (room : evaluation.pointer < 32) :
    (evaluation.scan address found).evaluation.pointer ≤ 32 := by
  unfold scan
  split
  · show evaluation.store.pointer + 1 ≤ 32
    rwa [store_pointer]
  · show evaluation.store.pointer ≤ 32
    rw [store_pointer]
    exact Nat.le_of_lt room

theorem copyByte_pointer_le (remaining : Nat) (room : evaluation.pointer < 32) :
    (evaluation.copyByte address remaining).evaluation.pointer ≤ 32 := by
  show evaluation.store.pointer + 1 ≤ 32
  rwa [store_pointer]

theorem seekOverflow_pointer (found : Bool) :
    (evaluation.seekOverflow address found).evaluation.pointer = evaluation.pointer := by
  unfold seekOverflow
  split_ifs
  · rfl
  · dsimp only
    split <;> rfl

theorem run_pointer_le (inside : evaluation.pointer ≤ 32)
    (sound : (evaluation.run objects address dot line height).evaluation.overrun = false) :
    (evaluation.run objects address dot line height).evaluation.pointer ≤ 32 := by
  have room (even : dot % 2 = 0) (stores : evaluation.stores = true) : evaluation.pointer < 32 := by
    rw [run_overrun, even, stores] at sound
    exact Nat.not_le.mp (of_decide_eq_false (Bool.or_eq_false_iff.mp sound).2)
  unfold run
  by_cases odd : dot % 2 = 1
  · rw [if_pos odd]
    exact inside
  · rw [if_neg odd]
    have even := Nat.mod_two_ne_one.mp odd
    unfold stores at room
    cases phase : evaluation.phase with
    | scan =>
        rw [phase] at room
        exact evaluation.scan_pointer_le address _ (room even rfl)
    | copy remaining =>
        rw [phase] at room
        exact evaluation.copyByte_pointer_le address remaining (room even rfl)
    | overflow =>
        rw [seekOverflow_pointer]
        exact inside
    | finished => exact inside

theorem scan_aligned (found : Bool) (aligned : AlignedAt .scan evaluation.pointer) :
    (evaluation.scan address found).evaluation.Aligned := by
  obtain ⟨whole, inside⟩ := aligned
  unfold scan
  split
  · refine ⟨by decide, ?_, ?_⟩
    · simp only [store_pointer]
      omega
    · simp only [store_pointer]
      omega
  · unfold Aligned
    simp only [store_pointer]
    split
    · exact Nat.le_of_lt inside
    · exact ⟨whole, inside⟩

theorem copyByte_aligned (remaining : Nat)
    (aligned : AlignedAt (.copy remaining) evaluation.pointer) :
    (evaluation.copyByte address remaining).evaluation.Aligned := by
  obtain ⟨some, whole, inside⟩ := aligned
  unfold Aligned copyByte
  simp only [store_pointer]
  split_ifs with more carried full
  · refine ⟨by omega, ?_, ?_⟩
    · rw [← whole]
      congr 1
      omega
    · omega
  · show evaluation.pointer + 1 ≤ 32
    omega
  · show evaluation.pointer + 1 ≤ 32
    omega
  · show (evaluation.pointer + 1) % 4 = 0 ∧ evaluation.pointer + 1 < 32
    have last : remaining = 1 := by omega
    subst last
    omega

theorem seekOverflow_aligned (found : Bool) (inside : evaluation.pointer ≤ 32)
    (seeking : evaluation.phase = .overflow) :
    (evaluation.seekOverflow address found).evaluation.Aligned := by
  unfold Aligned seekOverflow
  split_ifs
  · exact inside
  · dsimp only
    split
    · exact inside
    · rw [seeking]
      exact inside

theorem run_aligned (aligned : evaluation.Aligned) :
    (evaluation.run objects address dot line height).evaluation.Aligned := by
  unfold run
  split
  · exact aligned
  · dsimp only
    cases phase : evaluation.phase with
    | scan =>
        rw [Aligned, phase] at aligned
        exact evaluation.scan_aligned address _ aligned
    | copy remaining =>
        rw [Aligned, phase] at aligned
        exact evaluation.copyByte_aligned address remaining aligned
    | overflow =>
        rw [Aligned, phase] at aligned
        exact evaluation.seekOverflow_aligned address _ aligned phase
    | finished => exact aligned

theorem clear_aligned (aligned : evaluation.Aligned) (whole : dot % 2 = 1 ∨ dot = 64) :
    (evaluation.clear dot).Aligned := by
  unfold clear
  rcases whole with odd | last
  · rw [if_pos odd]
    exact aligned
  · rw [if_neg (by omega), if_pos last]
    exact aligned_restart _

theorem clear_pointer_le (inside : evaluation.pointer ≤ 32) :
    (evaluation.clear dot).pointer ≤ 32 := by
  have := Nat.mod_lt (dot / 2 - 1) (show 0 < 32 by decide)
  unfold clear
  dsimp only
  split_ifs
  · exact inside
  · exact Nat.zero_le _
  · simp only [val_residue]
    omega

end Famicom.Evaluation

namespace Famicom.Ppu

variable (ppu : Ppu) (cartridge : Cartridge)

def storesObject : Bool :=
  ppu.fetching && ppu.beam.visible && decide (65 ≤ ppu.beam.dot) && decide (ppu.beam.dot ≤ 256) &&
    ppu.beam.dot % 2 == 0 && ppu.evaluation.stores

def clearsCell : Bool :=
  ppu.fetching && ppu.beam.visible && decide (2 ≤ ppu.beam.dot) && decide (ppu.beam.dot < 64) &&
    ppu.beam.dot % 2 == 0

def restartsEvaluation : Bool := ppu.fetching && ppu.beam.visible && ppu.beam.dot == 64

theorem tick_overrun : (ppu.tick cartridge).evaluation.overrun =
    (ppu.evaluation.overrun || (ppu.storesObject && decide (32 ≤ ppu.evaluation.pointer))) := by
  have idle (still : ppu.storesObject = false) : ppu.evaluation.overrun =
      (ppu.evaluation.overrun || (ppu.storesObject && decide (32 ≤ ppu.evaluation.pointer))) := by
    rw [still, Bool.false_and, Bool.or_false]
  rw [tick_evaluation]
  unfold nextEvaluation
  split_ifs with fetching clearing running
  · rw [Evaluation.clear_overrun]
    apply idle
    unfold storesObject
    have early : ppu.beam.dot ≤ 64 := of_decide_eq_true (Bool.and_eq_true_iff.mp clearing).2
    rw [decide_eq_false (by omega : ¬ 65 ≤ ppu.beam.dot), Bool.and_false]
    simp only [Bool.false_and]
  · rw [Evaluation.run_overrun]
    unfold storesObject
    rw [fetching, Bool.true_and, running, Bool.true_and]
  · apply idle
    unfold storesObject
    rw [fetching, Bool.true_and, Bool.eq_false_iff.mpr running, Bool.false_and, Bool.false_and]
  · apply idle
    unfold storesObject
    rw [Bool.eq_false_iff.mpr fetching]
    simp only [Bool.false_and]

theorem tick_pointer_le (inside : ppu.evaluation.pointer ≤ 32)
    (sound : (ppu.tick cartridge).evaluation.overrun = false) :
    (ppu.tick cartridge).evaluation.pointer ≤ 32 := by
  rw [tick_evaluation] at sound ⊢
  unfold nextEvaluation at sound ⊢
  split_ifs at sound ⊢
  · exact Evaluation.clear_pointer_le _ _ inside
  · exact Evaluation.run_pointer_le _ _ _ _ _ _ inside sound
  · exact inside
  · exact inside

theorem tick_aligned (aligned : ppu.evaluation.Aligned) (uncut : ppu.clearsCell = false) :
    (ppu.tick cartridge).evaluation.Aligned := by
  rw [tick_evaluation]
  unfold nextEvaluation
  split_ifs with fetching clearing running
  · refine Evaluation.clear_aligned _ _ aligned ?_
    simp [clearsCell, fetching] at uncut clearing
    grind
  · exact Evaluation.run_aligned _ _ _ _ _ _ aligned
  · exact aligned
  · exact aligned

theorem tick_aligned_of_restarts (restarts : ppu.restartsEvaluation = true) :
    (ppu.tick cartridge).evaluation.Aligned := by
  simp [restartsEvaluation] at restarts
  obtain ⟨⟨fetching, visible⟩, last⟩ := restarts
  rw [tick_evaluation, if_pos fetching]
  simp [nextEvaluation, visible, last, Evaluation.clear]
  exact Evaluation.aligned_restart _

end Famicom.Ppu

namespace Famicom.PpuOperation

variable (cartridge : Cartridge)

/-- Some dot of a clear moved the pointer, and since then no dot has restarted evaluation. -/
def ClearCut (history : List PpuOperation) : Prop :=
  ∃ early late, history = early ++ .tick :: late ∧
    (ppuAfter cartridge early).clearsCell = true ∧
    ∀ middle rest, late = middle ++ .tick :: rest →
      (ppuAfter cartridge (early ++ .tick :: middle)).restartsEvaluation = false

theorem clearCut_of_clearsCell {history : List PpuOperation}
    (clears : (ppuAfter cartridge history).clearsCell = true) :
    ClearCut cartridge (history ++ [.tick]) := by
  refine ⟨history, [], rfl, clears, ?_⟩
  intro middle rest empty
  simp at empty

theorem ClearCut.concat {cartridge : Cartridge} {history : List PpuOperation}
    {operation : PpuOperation} (cut : ClearCut cartridge history)
    (noRestart : operation = .tick →
      (ppuAfter cartridge history).restartsEvaluation = false) :
    ClearCut cartridge (history ++ [operation]) := by
  obtain ⟨early, late, rfl, clears, unrestarted⟩ := cut
  refine ⟨early, late ++ [operation], by simp, clears, ?_⟩
  intro middle rest splits
  obtain ⟨rfl, same, _⟩ | ⟨later, _, before⟩ := List.concat_eq_append_cons splits
  · exact noRestart same
  · exact unrestarted middle later before

theorem aligned_of_not_clearCut (history : List PpuOperation)
    (uncut : ¬ ClearCut cartridge history) : (ppuAfter cartridge history).evaluation.Aligned := by
  induction history using List.reverseRecOn with
  | nil => exact ⟨rfl, Nat.zero_lt_succ _⟩
  | append_singleton history operation ih =>
      by_cases isTick : operation = .tick
      · subst isTick
        rw [ppuAfter_tick]
        by_cases restarts : (ppuAfter cartridge history).restartsEvaluation = true
        · exact Ppu.tick_aligned_of_restarts _ _ restarts
        · refine Ppu.tick_aligned _ _ (ih ?_) (Bool.not_eq_true _ ▸ ?_)
          · intro cut
            exact uncut (cut.concat fun _ => Bool.not_eq_true _ ▸ restarts)
          · intro clears
            exact uncut (clearCut_of_clearsCell cartridge clears)
      · rw [ppuAfter_evaluation _ _ isTick]
        apply ih
        intro cut
        exact uncut (cut.concat fun same => absurd same isTick)

theorem pointer_le_of_not_overrun (history : List PpuOperation)
    (sound : (ppuAfter cartridge history).evaluation.overrun = false) :
    (ppuAfter cartridge history).evaluation.pointer ≤ 32 := by
  induction history using List.reverseRecOn with
  | nil => exact Nat.zero_le _
  | append_singleton history operation ih =>
      by_cases isTick : operation = .tick
      · subst isTick
        rw [ppuAfter_tick] at sound ⊢
        refine Ppu.tick_pointer_le _ _ (ih ?_) sound
        rw [Ppu.tick_overrun] at sound
        exact (Bool.or_eq_false_iff.mp sound).1
      · rw [ppuAfter_evaluation _ _ isTick] at sound ⊢
        exact ih sound

theorem overrun_append (history : List PpuOperation) (after : List PpuOperation)
    (overrun : (ppuAfter cartridge history).evaluation.overrun = true) :
    (ppuAfter cartridge (history ++ after)).evaluation.overrun = true := by
  induction after using List.reverseRecOn with
  | nil => rwa [List.append_nil]
  | append_singleton after operation ih =>
      rw [← List.append_assoc]
      by_cases isTick : operation = .tick
      · subst isTick
        rw [ppuAfter_tick, Ppu.tick_overrun, ih, Bool.true_or]
      · rw [ppuAfter_evaluation _ _ isTick]
        exact ih

theorem exists_tick_of_overrun (history : List PpuOperation)
    (overrun : (ppuAfter cartridge history).evaluation.overrun = true) :
    ∃ before after, history = before ++ .tick :: after ∧
      (ppuAfter cartridge before).storesObject = true ∧
      (ppuAfter cartridge before).evaluation.pointer = 32 := by
  induction history using List.reverseRecOn with
  | nil => cases overrun
  | append_singleton history operation ih =>
      by_cases earlier : (ppuAfter cartridge history).evaluation.overrun = true
      · obtain ⟨before, after, rfl, stores, full⟩ := ih earlier
        exact ⟨before, after ++ [operation], by simp, stores, full⟩
      · rw [Bool.not_eq_true] at earlier
        by_cases isTick : operation = .tick
        · subst isTick
          rw [ppuAfter_tick, Ppu.tick_overrun, earlier, Bool.false_or, Bool.and_eq_true,
            decide_eq_true_eq] at overrun
          have bound := pointer_le_of_not_overrun cartridge history earlier
          exact ⟨history, [], rfl, overrun.1, Nat.le_antisymm bound overrun.2⟩
        · rw [ppuAfter_evaluation _ _ isTick, earlier] at overrun
          cases overrun

/-- A history stores past the end of secondary memory just when evaluation copies a byte with the
pointer at the end, which takes a clear that was cut off and no restart since. -/
theorem overrun_iff_clearCut (history : List PpuOperation) :
    (ppuAfter cartridge history).evaluation.overrun = true ↔
      ∃ before after, history = before ++ .tick :: after ∧ ClearCut cartridge before ∧
        (ppuAfter cartridge before).storesObject = true ∧
        (ppuAfter cartridge before).evaluation.pointer = 32 := by
  constructor
  · intro overrun
    obtain ⟨before, after, splits, stores, full⟩ := exists_tick_of_overrun cartridge history overrun
    refine ⟨before, after, splits, ?_, stores, full⟩
    by_contra uncut
    have aligned := aligned_of_not_clearCut cartridge before uncut
    rw [Ppu.storesObject, Bool.and_eq_true] at stores
    have inside := aligned.pointer_lt stores.2
    omega
  · rintro ⟨before, after, rfl, _, stores, full⟩
    rw [← List.singleton_append, ← List.append_assoc]
    apply overrun_append
    rw [ppuAfter_tick, Ppu.tick_overrun, stores, full]
    simp

-- Rendering is switched off for the last two dots of the clear of the first line.
set_option maxRecDepth 10000 in
example : (ppuAfter Cartridge.empty
    ([.write 0x2001 0x18] ++ List.replicate 63 .tick ++ [.write 0x2001 0] ++
      List.replicate 2 .tick ++ [.write 0x2001 0x18] ++
      List.replicate 6 .tick)).evaluation.overrun = true := by decide +kernel

end Famicom.PpuOperation
