import Famicom.Proofs.Ppu.Evaluation

/-!
How often a line raises the overflow flag. Once eight objects are found the search goes on along a
diagonal through the rest of object memory, and it stops at its first hit. Cleared and evaluated, a
line leaves in secondary memory what was found and raises the flag at most once.
-/

namespace Famicom.Evaluation

/-! ## Counting -/

section Counting

variable (objects : Memory 0x100) (line height : Nat)

def reports (state : Evaluation × UInt8) : Nat → Nat
  | 0 => 0
  | dots + 1 =>
      let before := afterDots objects line height state dots
      reports state dots +
        (before.1.run objects before.2 (65 + dots) line height).overflow.toNat

def turnReport (state : Evaluation × UInt8) : Nat :=
  let read := dotStep objects line height 1 state
  (read.1.run objects read.2 2 line height).overflow.toNat

def turnReports (state : Evaluation × UInt8) : Nat → Nat
  | 0 => 0
  | turns + 1 => turnReport objects line height state +
      turnReports (turn objects line height state) turns

theorem turnReports_add (state : Evaluation × UInt8) (first second : Nat) :
    turnReports objects line height state (first + second) =
      turnReports objects line height state first +
        turnReports objects line height ((turn objects line height)^[first] state) second := by
  induction first generalizing state with
  | zero =>
      rw [Nat.zero_add]
      exact (Nat.zero_add _).symm
  | succ first continues =>
      rw [Nat.succ_add, turnReports, continues, turnReports, Function.iterate_succ_apply,
        Nat.add_assoc]

theorem run_odd_silent (evaluation : Evaluation) (address : UInt8) {dot : Nat} (odd : dot % 2 = 1) :
    (evaluation.run objects address dot line height).overflow = false := by
  unfold run
  rw [if_pos odd]

theorem reports_eq_turnReports (state : Evaluation × UInt8) (turns : Nat) :
    reports objects line height state (2 * turns) =
      turnReports objects line height state turns := by
  induction turns with
  | zero => rfl
  | succ turns continues =>
      have odd : (65 + 2 * turns) % 2 = 1 % 2 := by omega
      have even : (65 + (2 * turns + 1)) % 2 = 2 % 2 := by omega
      rw [turnReports_add, show 2 * (turns + 1) = 2 * turns + 1 + 1 from rfl, reports, reports,
        continues]
      simp only [run_odd_silent _ _ _ _ _ odd, Bool.toNat_false, Nat.add_zero, turnReports,
        afterDots, ← afterDots_eq_turns]
      unfold turnReport dotStep
      rw [run_parity _ _ _ _ _ even, run_parity _ _ _ _ _ odd]

/-! ## Dots that raise nothing -/

variable {evaluation : Evaluation} (address : UInt8)

theorem turnReport_scan (scanning : evaluation.phase = .scan) :
    turnReport objects line height (evaluation, address) = 0 := by
  simp [turnReport, dotStep, run, scanning, scan]
  split <;> rfl

theorem turnReport_copy {remaining : Nat} (copying : evaluation.phase = .copy remaining) :
    turnReport objects line height (evaluation, address) = 0 := by
  simp [turnReport, dotStep, run, copying, copyByte]

theorem turnReport_finished (finished : evaluation.phase = .finished) :
    turnReport objects line height (evaluation, address) = 0 := by
  simp [turnReport, dotStep, run, finished]

theorem turnReport_overflow (seeking : evaluation.phase = .overflow) :
    turnReport objects line height (evaluation, address) =
      (onLine (look objects address) line height).toNat := by
  have seen : turnReport objects line height (evaluation, address) =
      ((seeing objects evaluation address).seekOverflow address
        (onLine (look objects address) line height)).overflow.toNat := by
    simp [turnReport, dotStep, run, seeking, look, seeing]
  rw [seen]
  cases onLine (look objects address) line height <;> rfl

theorem turnReports_finished (finished : evaluation.phase = .finished) (turns : Nat) :
    turnReports objects line height (evaluation, address) turns = 0 := by
  induction turns generalizing evaluation address with
  | zero => rfl
  | succ turns continues =>
      rw [turnReports, turnReport_finished objects line height address finished,
        turn_finished objects line height address finished, continues _ (by exact finished)]

theorem turnReports_copy {remaining : Nat} (copying : evaluation.phase = .copy remaining) :
    turnReports objects line height (evaluation, address) remaining = 0 := by
  induction remaining generalizing evaluation address with
  | zero => rfl
  | succ remaining continues =>
      rw [turnReports, turnReport_copy objects line height address copying,
        turn_copy objects line height address copying, Nat.zero_add]
      cases remaining with
      | zero => rfl
      | succ remaining => exact continues _ rfl

theorem turnReports_examined (scanning : evaluation.phase = .scan) :
    turnReports objects line height (evaluation, address)
      (1 + 3 * (found objects line height [address]).length) = 0 := by
  have first : turnReports objects line height (evaluation, address) 1 = 0 := by
    rw [turnReports, turnReport_scan objects line height address scanning]
    rfl
  rw [turnReports_add, first, Nat.zero_add]
  cases shows : onLine (look objects address) line height with
  | false =>
      have none : found objects line height [address] = [] :=
        List.filter_cons_of_neg (by simp [shows])
      rw [none]
      rfl
  | true =>
      have one : found objects line height [address] = [address] := List.filter_cons_of_pos shows
      rw [one, Function.iterate_one, turn_scan objects line height address scanning, shows]
      exact turnReports_copy objects line height _ rfl

end Counting

/-! ## The diagonal -/

section Diagonal

variable (objects : Memory 0x100) (line height : Nat)

/-- The address that the search reads after so many misses: each steps to the next object and to
the next of its four bytes. -/
def diagonal (start steps : Nat) : UInt8 :=
  UInt8.ofNat (4 * (start / 4 + steps) + (start + steps) % 4)

def HitsDiagonal (start : Nat) : Prop :=
  ∃ steps, start / 4 + steps ≤ 63 ∧
    onLine (look objects (diagonal start steps)) line height = true

theorem diagonal_zero (address : UInt8) : diagonal address.toNat 0 = address := by
  unfold diagonal
  rw [Nat.add_zero, Nat.add_zero, Nat.div_add_mod]
  exact UInt8.ofNat_toNat

theorem diagonal_next {start next : Nat} (row : next / 4 = start / 4 + 1)
    (byte : next % 4 = (start + 1) % 4) (steps : Nat) :
    diagonal next steps = diagonal start (steps + 1) := by
  unfold diagonal
  congr 1
  omega

theorem hitsDiagonal_of_next {start next : Nat} (row : next / 4 = start / 4 + 1)
    (byte : next % 4 = (start + 1) % 4)
    (missed : onLine (look objects (diagonal start 0)) line height = false) :
    HitsDiagonal objects line height next ↔ HitsDiagonal objects line height start := by
  constructor
  · rintro ⟨steps, inside, hit⟩
    rw [diagonal_next row byte] at hit
    exact ⟨steps + 1, by omega, hit⟩
  · rintro ⟨steps, inside, hit⟩
    cases steps with
    | zero =>
        rw [missed] at hit
        cases hit
    | succ steps =>
        rw [← diagonal_next row byte] at hit
        exact ⟨steps, by omega, hit⟩

def RaisedOnce (count : Nat) (condition : Prop) : Prop := count ≤ 1 ∧ (count = 1 ↔ condition)

theorem raisedOnce_zero {condition : Prop} (fails : ¬ condition) : RaisedOnce 0 condition :=
  ⟨Nat.zero_le 1, ⟨fun never => (Nat.zero_ne_one never).elim, fun holds => (fails holds).elim⟩⟩

variable {evaluation : Evaluation}

theorem seek_turns (seeking : evaluation.phase = .overflow) (address : UInt8) {turns : Nat}
    (enough : 64 ≤ address.toNat / 4 + turns) :
    RaisedOnce (turnReports objects line height (evaluation, address) turns)
      (HitsDiagonal objects line height address.toNat) := by
  have top := address.toNat_lt
  -- Every miss leads to the next object, so the turns suffice for those that are left.
  induction turns generalizing evaluation address with
  | zero => omega
  | succ turns continues =>
      have turned := turn_overflow objects line height address seeking
      rw [turnReports, turnReport_overflow objects line height address seeking, turned]
      unfold seekOverflow
      cases hit : onLine (look objects address) line height with
      | true =>
          rw [if_pos rfl, turnReports_finished objects line height address rfl]
          have here : HitsDiagonal objects line height address.toNat :=
            ⟨0, by omega, by rw [diagonal_zero]; exact hit⟩
          exact ⟨Nat.le_refl 1, fun _ => here, fun _ => rfl⟩
      | false =>
          have missed : onLine (look objects (diagonal address.toNat 0)) line height = false := by
            rw [diagonal_zero]
            exact hit
          rw [if_neg Bool.false_ne_true, Bool.toNat_false, Nat.zero_add]
          dsimp only
          split_ifs with last
          · rw [turnReports_finished objects line height _ rfl]
            refine raisedOnce_zero ?_
            rintro ⟨steps, inside, again⟩
            have none : steps = 0 := by omega
            rw [none, missed] at again
            cases again
          · obtain ⟨next, stepped⟩ : ∃ next : UInt8, next =
                UInt8.ofNat ((address.toNat / 4 + 1) * 4 + (address.toNat + 1) % 4) := ⟨_, rfl⟩
            have place : next.toNat = (address.toNat / 4 + 1) * 4 + (address.toNat + 1) % 4 := by
              rw [stepped, UInt8.toNat_ofNat']
              omega
            have row : next.toNat / 4 = address.toNat / 4 + 1 := by omega
            have byte : next.toNat % 4 = (address.toNat + 1) % 4 := by omega
            have still : (seeing objects evaluation address).phase = .overflow := seeking
            rw [← hitsDiagonal_of_next objects line height row byte missed, ← stepped]
            exact continues still next (by omega) next.toNat_lt

end Diagonal

/-! ## All objects -/

section Line

variable (objects : Memory 0x100) (line height : Nat)

/-- The eighth object found is not the last of memory, and the search from the next one hits. -/
def Overflows (shown : List UInt8) : Prop :=
  ∃ eighth, shown[7]? = some eighth ∧ eighth.toNat + 4 ≤ 0xff ∧
    HitsDiagonal objects line height (eighth.toNat + 4)

theorem not_overflows_of_last {picked : List UInt8} {origin : UInt8} (few : picked.length < 8)
    (last : 0x100 ≤ origin.toNat + 4) :
    ¬ Overflows objects line height (picked ++ found objects line height [origin]) := by
  rintro ⟨eighth, place, inside, _⟩
  have gain : (found objects line height [origin]).length ≤ 1 := List.length_filter_le _ _
  have reached := (List.getElem?_eq_some_iff.mp place).1
  rw [List.length_append] at reached
  rw [List.getElem?_append_right (by omega)] at place
  have member := List.mem_of_getElem? place
  have here : eighth = origin := List.mem_singleton.mp (List.mem_filter.mp member).1
  rw [here] at inside
  omega

theorem overflows_of_full {picked rest : List UInt8} {origin : UInt8} (few : picked.length < 8)
    (full : (picked ++ found objects line height [origin]).length = 8)
    (inside : origin.toNat + 4 < 0x100) :
    Overflows objects line height (picked ++ found objects line height [origin] ++ rest) ↔
      HitsDiagonal objects line height (origin.toNat + 4) := by
  have gain : (found objects line height [origin]).length ≤ 1 := List.length_filter_le _ _
  have place : (picked ++ found objects line height [origin] ++ rest)[7]? = some origin := by
    rw [List.length_append] at full
    rw [List.getElem?_append_left (by rw [List.length_append]; omega),
      List.getElem?_append_right (by omega), show 7 - picked.length = 0 by omega]
    obtain ⟨only, one⟩ := List.length_eq_one_iff.mp
      (by omega : (found objects line height [origin]).length = 1)
    have member : only ∈ found objects line height [origin] := by
      rw [one]
      exact List.mem_singleton_self only
    rw [one, ← List.mem_singleton.mp (List.mem_filter.mp member).1]
    rfl
  constructor
  · rintro ⟨eighth, same, _, hits⟩
    rw [place, Option.some_inj] at same
    rw [same]
    exact hits
  · intro hits
    exact ⟨origin, place, by omega, hits⟩

theorem scan_turns_report {start : Evaluation} {picked : List UInt8} (origin : UInt8)
    (left turns : Nat) (some : 1 ≤ left) (last : 0x100 ≤ origin.toNat + 4 * left)
    (within : origin.toNat + 4 * (left - 1) < 0x100)
    (enough : left + 3 * (8 - picked.length) ≤ turns) (scanning : start.phase = .scan)
    (unwrapped : start.wrapped = false) (few : picked.length < 8)
    (collected : Collected objects start picked) :
    RaisedOnce (turnReports objects line height (start, origin) turns)
      (Overflows objects line height
        (picked ++ found objects line height (candidates origin left))) := by
  -- Objects are examined in silence until none is left or eight are picked.
  induction left generalizing turns start origin picked with
  | zero => omega
  | succ left continues =>
      obtain ⟨after, turned, examined⟩ :=
        exists_examined objects line height origin scanning unwrapped few collected
      have gain : (found objects line height [origin]).length ≤ 1 := List.length_filter_le _ _
      have length : (picked ++ found objects line height [origin]).length =
          picked.length + (found objects line height [origin]).length := List.length_append
      obtain ⟨rest, rfl⟩ := Nat.exists_eq_add_of_le
        (show 1 + 3 * (found objects line height [origin]).length ≤ turns by omega)
      rw [turnReports_add, turnReports_examined objects line height origin scanning, Nat.zero_add,
        turned, candidates_succ, found_cons, ← List.append_assoc]
      have phase := examined.phase
      split_ifs at phase with passed full
      · have none : left = 0 := by omega
        subst none
        rw [turnReports_finished objects line height _ phase,
          show found objects line height (candidates (origin + 4) 0) = [] from rfl,
          List.append_nil]
        exact raisedOnce_zero (not_overflows_of_last objects line height few passed)
      · have inside := Nat.not_le.mp passed
        have moved := toNat_next inside
        rw [overflows_of_full objects line height few full inside, ← moved]
        exact seek_turns objects line height phase (origin + 4) (by omega)
      · have inside := Nat.not_le.mp passed
        have moved := toNat_next inside
        exact continues (origin + 4) rest (by omega) (by omega) (by omega) (by omega) phase
          (examined.unwrapped inside) (by omega) examined.collected

def shownFrom (origin : UInt8) : List UInt8 :=
  found objects line height (candidates origin ((0xff - origin.toNat) / 4 + 1))

theorem restart_reports (evaluation : Evaluation) (origin : UInt8) :
    RaisedOnce (reports objects line height (evaluation.restart, origin) 192)
      (Overflows objects line height (shownFrom objects line height origin)) := by
  have top := origin.toNat_lt
  rw [show 192 = 2 * 96 from rfl, reports_eq_turnReports, ← List.nil_append (shownFrom _ _ _ _)]
  apply scan_turns_report
  · omega
  · omega
  · omega
  · rw [List.length_nil]
    omega
  · rfl
  · rfl
  · decide
  · exact ⟨rfl, fun slot inside => absurd inside (Nat.not_lt_zero slot)⟩

/-! ## The whole line -/

def clearDots (evaluation : Evaluation) : Nat → Evaluation
  | 0 => evaluation
  | dots + 1 => (clearDots evaluation dots).clear (dots + 1)

theorem clearDots_overrun (evaluation : Evaluation) (dots : Nat) :
    (clearDots evaluation dots).overrun = evaluation.overrun := by
  induction dots with
  | zero => rfl
  | succ dots continues => rw [clearDots, clear_overrun, continues]

theorem exists_clear_restart (evaluation : Evaluation) : ∃ cleared : Evaluation,
    evaluation.clear 64 = cleared.restart ∧ cleared.overrun = evaluation.overrun :=
  ⟨{ evaluation with
      pointer := 31, secondary := evaluation.secondary.write (residue 32 31) 0xff }, rfl, rfl⟩

theorem exists_clearDots (evaluation : Evaluation) : ∃ cleared : Evaluation,
    clearDots evaluation 64 = cleared.restart ∧ cleared.overrun = evaluation.overrun := by
  obtain ⟨cleared, restarted, kept⟩ := exists_clear_restart (clearDots evaluation 63)
  exact ⟨cleared, restarted, kept.trans (clearDots_overrun evaluation 63)⟩

/-- A line cleared and evaluated stores nothing past the end, keeps the first eight objects that
show and raises the flag at most once, when the search along the diagonal hits. -/
theorem clearedLine_evaluated (evaluation : Evaluation) (origin : UInt8) :
    let cleared := (clearDots evaluation 64, origin)
    let ended := (afterDots objects line height cleared 192).1
    let shown := shownFrom objects line height origin
    ended.overrun = evaluation.overrun ∧
      ended.pointer = 4 * min 8 shown.length ∧
      (∀ (slot : Fin 8) (inside : slot.val < shown.length) (offset : Fin 4),
        ended.secondary.read ⟨slot.val * 4 + offset.val, by omega⟩ =
          look objects (shown[slot.val] + UInt8.ofNat offset.val)) ∧
      (ended.zeroFound = true ↔ onLine (look objects origin) line height = true) ∧
      reports objects line height cleared 192 ≤ 1 ∧
      (reports objects line height cleared 192 = 1 ↔ Overflows objects line height shown) := by
  obtain ⟨cleared, restarted, kept⟩ := exists_clearDots evaluation
  obtain ⟨ended, next, ran, selected⟩ := restart_selected objects line height cleared origin
  have raised := restart_reports objects line height cleared origin
  rw [restarted]
  dsimp only
  rw [ran]
  have collected : Collected objects ended ((shownFrom objects line height origin).take 8) :=
    selected.collected
  refine ⟨selected.overrun.trans kept, ?_, ?_, ?_, raised⟩
  · rw [collected.pointer, List.length_take]
  · intro slot inside offset
    have room : slot.val < ((shownFrom objects line height origin).take 8).length := by
      rw [List.length_take]
      omega
    rw [collected.bytes slot.val room slot.isLt offset, List.getElem_take]
  · rw [selected.zeroFound]
    exact Iff.rfl

end Line

end Famicom.Evaluation
