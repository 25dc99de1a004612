import Famicom.Ppu.Evaluation
import Mathlib.Logic.Function.Iterate
import Mathlib.Tactic.SplitIfs

/-!
Sprite evaluation over a whole line. Its dots work in pairs, one that reads and one that stores, and
96 pairs are enough for every object and the bytes of eight of them.
-/

namespace Famicom.Evaluation

/-! ## Storing and clearing -/

section Store

variable (evaluation : Evaluation)

@[simp] theorem store_pointer : evaluation.store.pointer = evaluation.pointer := by
  unfold store
  split <;> rfl

@[simp] theorem store_wrapped : evaluation.store.wrapped = evaluation.wrapped := by
  unfold store
  split <;> rfl

@[simp] theorem store_first : evaluation.store.first = evaluation.first := by
  unfold store
  split <;> rfl

@[simp] theorem store_zeroFound : evaluation.store.zeroFound = evaluation.zeroFound := by
  unfold store
  split <;> rfl

@[simp] theorem store_overrun :
    evaluation.store.overrun = (evaluation.overrun || decide (32 ≤ evaluation.pointer)) := by
  unfold store
  split
  · have : ¬ 32 ≤ evaluation.pointer := by omega
    simp [this]
  · have : 32 ≤ evaluation.pointer := by omega
    simp [this]

theorem store_read (inside : evaluation.pointer < 32) (cell : Fin 32) :
    evaluation.store.secondary.read cell =
      if cell.val = evaluation.pointer then evaluation.latch
      else evaluation.secondary.read cell := by
  unfold store
  rw [dif_pos inside]
  simp only [Memory.read_write, Fin.ext_iff, eq_comm]

@[simp] theorem clear_overrun (dot : Nat) :
    (evaluation.clear dot).overrun = evaluation.overrun := by
  unfold clear
  dsimp only
  split_ifs <;> rfl

end Store

/-! ## Pairs of dots -/

variable (objects : Memory 0x100) (line height : Nat)

def look (address : UInt8) : UInt8 := objects.read ⟨address.toNat, address.toNat_lt⟩

def seeing (evaluation : Evaluation) (address : UInt8) : Evaluation :=
  { evaluation with latch := look objects address }

theorem store_seeing_read {evaluation : Evaluation} (address : UInt8)
    (inside : evaluation.pointer < 32) (cell : Fin 32) :
    (seeing objects evaluation address).store.secondary.read cell =
      if cell.val = evaluation.pointer then look objects address
      else evaluation.secondary.read cell :=
  store_read (seeing objects evaluation address) inside cell

def dotStep (dot : Nat) (state : Evaluation × UInt8) : Evaluation × UInt8 :=
  let progress := state.1.run objects state.2 dot line height
  (progress.evaluation, progress.address)

def afterDots (state : Evaluation × UInt8) : Nat → Evaluation × UInt8
  | 0 => state
  | dots + 1 => dotStep objects line height (65 + dots) (afterDots state dots)

def turn (state : Evaluation × UInt8) : Evaluation × UInt8 :=
  dotStep objects line height 2 (dotStep objects line height 1 state)

theorem run_parity (evaluation : Evaluation) (address : UInt8) {dot other : Nat}
    (same : dot % 2 = other % 2) :
    evaluation.run objects address dot line height =
      evaluation.run objects address other line height := by
  unfold run
  rw [same]

theorem afterDots_eq_turns (state : Evaluation × UInt8) (turns : Nat) :
    afterDots objects line height state (2 * turns) = (turn objects line height)^[turns] state := by
  induction turns with
  | zero => rfl
  | succ turns ih =>
      rw [Function.iterate_succ_apply', ← ih]
      have odd : (65 + 2 * turns) % 2 = 1 % 2 := by omega
      have even : (65 + (2 * turns + 1)) % 2 = 2 % 2 := by omega
      rw [show 2 * (turns + 1) = 2 * turns + 1 + 1 from rfl, afterDots, afterDots, turn]
      unfold dotStep
      rw [run_parity _ _ _ _ _ odd, run_parity _ _ _ _ _ even]

section Phases

variable {evaluation : Evaluation} (address : UInt8)

theorem turn_scan (scanning : evaluation.phase = .scan) :
    turn objects line height (evaluation, address) =
      let progress := (seeing objects evaluation address).scan address
        (onLine (look objects address) line height)
      (progress.evaluation, progress.address) := by
  simp [turn, dotStep, run, scanning, look, seeing]

theorem turn_copy {remaining : Nat} (copying : evaluation.phase = .copy remaining) :
    turn objects line height (evaluation, address) =
      let progress := (seeing objects evaluation address).copyByte address remaining
      (progress.evaluation, progress.address) := by
  simp [turn, dotStep, run, copying, look, seeing]

theorem turn_overflow (seeking : evaluation.phase = .overflow) :
    turn objects line height (evaluation, address) =
      let progress := (seeing objects evaluation address).seekOverflow address
        (onLine (look objects address) line height)
      (progress.evaluation, progress.address) := by
  simp [turn, dotStep, run, seeking, look, seeing]

theorem turn_finished (finished : evaluation.phase = .finished) :
    turn objects line height (evaluation, address) =
      (seeing objects evaluation address, UInt8.ofNat (address.toNat / 4 * 4 + 4)) := by
  simp [turn, dotStep, run, finished, look, seeing]

end Phases

/-! ## After the last store -/

def Ended (evaluation : Evaluation) : Prop :=
  evaluation.phase = .overflow ∨ evaluation.phase = .finished

theorem turn_of_ended {evaluation : Evaluation} (ended : evaluation.Ended) (address : UInt8) :
    ∃ latch phase next, turn objects line height (evaluation, address) =
      ({ evaluation with latch, phase }, next) ∧
      ({ evaluation with latch, phase } : Evaluation).Ended := by
  rcases ended with seeking | finished
  · rw [turn_overflow objects line height address seeking]
    unfold seekOverflow
    dsimp only
    split_ifs
    · exact ⟨_, .finished, _, rfl, .inr rfl⟩
    · exact ⟨_, .finished, _, rfl, .inr rfl⟩
    · exact ⟨_, evaluation.phase, _, rfl, .inl seeking⟩
  · rw [turn_finished objects line height address finished]
    exact ⟨_, evaluation.phase, _, rfl, .inr finished⟩

theorem turns_of_ended {evaluation : Evaluation} (ended : evaluation.Ended) (address : UInt8)
    (turns : Nat) : ∃ latch phase next,
      (turn objects line height)^[turns] (evaluation, address) =
        ({ evaluation with latch, phase }, next) ∧
      ({ evaluation with latch, phase } : Evaluation).Ended := by
  induction turns generalizing evaluation address with
  | zero => exact ⟨evaluation.latch, evaluation.phase, address, rfl, ended⟩
  | succ turns ih =>
      obtain ⟨latch, phase, next, turned, still⟩ :=
        turn_of_ended objects line height ended address
      rw [Function.iterate_succ_apply, turned]
      exact ih still next

/-! ## One object -/

structure Copying (start : Evaluation) (origin : UInt8) (copied : Nat)
    (evaluation : Evaluation) (address : UInt8) : Prop where
  address : address = origin + UInt8.ofNat copied
  pointer : evaluation.pointer = start.pointer + copied
  bytes : ∀ cell : Fin 32, evaluation.secondary.read cell =
    if start.pointer ≤ cell.val ∧ cell.val < start.pointer + copied then
      look objects (origin + UInt8.ofNat (cell.val - start.pointer))
    else start.secondary.read cell
  wrapped : evaluation.wrapped = (start.wrapped || decide (0x100 ≤ origin.toNat + copied))
  overrun : evaluation.overrun = start.overrun
  zeroFound : evaluation.zeroFound = (start.zeroFound || start.first)
  first : evaluation.first = false

variable {start : Evaluation} {origin : UInt8}

theorem copying_begin (scanning : start.phase = .scan) (room : start.pointer < 32)
    (found : onLine (look objects origin) line height = true) :
    ∃ evaluation address, turn objects line height (start, origin) = (evaluation, address) ∧
      Copying objects start origin 1 evaluation address ∧ evaluation.phase = .copy 3 := by
  refine ⟨_, _, turn_scan objects line height origin scanning, ?_, ?_⟩
  · rw [found]
    refine ⟨rfl, ?_, ?_, ?_, ?_, ?_, rfl⟩
    · simp [scan, step, seeing]
    · intro cell
      refine (store_seeing_read objects origin room cell).trans ?_
      by_cases here : cell.val = start.pointer
      · rw [if_pos here, if_pos (by omega), here, Nat.sub_self]
        exact congrArg _ (UInt8.add_zero origin).symm
      · rw [if_neg here, if_neg (by omega)]
    · simp [scan, step, seeing]
    · simp [scan, step, seeing]
      omega
    · simp [scan, step, seeing]
  · rw [found]
    rfl

def nextPhase (evaluation : Evaluation) : EvaluationPhase :=
  if evaluation.wrapped then .finished
  else if evaluation.pointer = 0x20 then .overflow
  else .scan

theorem copying_next {copied remaining : Nat} {evaluation : Evaluation} {address : UInt8}
    (copying : Copying objects start origin copied evaluation address)
    (room : start.pointer + copied < 32) (few : copied < 4)
    (phase : evaluation.phase = .copy remaining) :
    ∃ after next, turn objects line height (evaluation, address) = (after, next) ∧
      Copying objects start origin (copied + 1) after next ∧
      after.phase = if 1 < remaining then .copy (remaining - 1) else nextPhase after := by
  have inside : evaluation.pointer < 32 := by
    rw [copying.pointer]
    exact room
  have counted : address.toNat = (origin.toNat + copied) % 256 := by
    rw [copying.address, UInt8.toNat_add, UInt8.toNat_ofNat']
    omega
  refine ⟨_, _, turn_copy objects line height address phase, ⟨?_, ?_, ?_, ?_, ?_, ?_, ?_⟩, ?_⟩
  · show address + UInt8.ofNat 1 = _
    rw [copying.address, UInt8.ofNat_add, UInt8.add_assoc]
  · simp only [copyByte, store_pointer]
    show evaluation.pointer + 1 = _
    rw [copying.pointer, Nat.add_assoc]
  · intro cell
    refine (store_seeing_read objects address inside cell).trans ?_
    rw [copying.bytes, copying.pointer, copying.address]
    by_cases here : cell.val = start.pointer + copied
    · rw [if_pos here, if_pos (by omega), here, Nat.add_sub_cancel_left]
    · rw [if_neg here]
      congr 1
      apply propext
      omega
  · simp only [copyByte, store_wrapped, step]
    show (evaluation.wrapped || _) = _
    rw [copying.wrapped, counted, Bool.or_assoc]
    congr 1
    have := origin.toNat_lt
    grind
  · simp only [copyByte, store_overrun]
    show (evaluation.overrun || decide (32 ≤ evaluation.pointer)) = _
    rw [copying.overrun, decide_eq_false (by omega), Bool.or_false]
  · simp only [copyByte, store_zeroFound]
    exact copying.zeroFound
  · simp only [copyByte, store_first]
    exact copying.first
  · rfl

theorem copy_object (scanning : start.phase = .scan) (room : start.pointer + 4 ≤ 32)
    (found : onLine (look objects origin) line height = true) :
    ∃ after next, (turn objects line height)^[4] (start, origin) = (after, next) ∧
      Copying objects start origin 4 after next ∧ after.phase = nextPhase after := by
  obtain ⟨first, address₁, turn₁, copying₁, phase₁⟩ :=
    copying_begin objects line height scanning (by omega) found
  obtain ⟨second, address₂, turn₂, copying₂, phase₂⟩ :=
    copying_next objects line height copying₁ (by omega) (by omega) phase₁
  obtain ⟨third, address₃, turn₃, copying₃, phase₃⟩ :=
    copying_next objects line height copying₂ (by omega) (by omega) phase₂
  obtain ⟨after, next, turn₄, copying₄, phase₄⟩ :=
    copying_next objects line height copying₃ (by omega) (by omega) phase₃
  refine ⟨after, next, ?_, copying₄, phase₄⟩
  show turn _ _ _ (turn _ _ _ (turn _ _ _ (turn _ _ _ (start, origin)))) = _
  rw [turn₁, turn₂, turn₃, turn₄]

/-! ## All objects -/

structure Collected (evaluation : Evaluation) (picked : List UInt8) : Prop where
  pointer : evaluation.pointer = 4 * picked.length
  bytes : ∀ slot (inside : slot < picked.length) (room : slot < 8) (offset : Fin 4),
    evaluation.secondary.read ⟨slot * 4 + offset.val, by omega⟩ =
      look objects (picked[slot] + UInt8.ofNat offset.val)

variable {objects} {picked : List UInt8}

theorem Collected.concat (collected : Collected objects start picked) {after : Evaluation}
    {next : UInt8} (copying : Copying objects start origin 4 after next) :
    Collected objects after (picked ++ [origin]) := by
  constructor
  · rw [copying.pointer, collected.pointer, List.length_append, List.length_singleton]
    omega
  · intro slot inside room offset
    have := offset.isLt
    rw [copying.bytes, collected.pointer]
    simp only
    by_cases last : slot = picked.length
    · subst last
      rw [if_pos (by omega), List.getElem_concat_length rfl]
      congr 3
      omega
    · rw [List.length_append, List.length_singleton] at inside
      have earlier : slot < picked.length := by omega
      rw [if_neg (by omega), collected.bytes slot earlier room offset,
        List.getElem_append_left earlier]

variable (objects) in
/-- An object off the line costs one store, which the next one overwrites. -/
structure Passing (start after : Evaluation) : Prop where
  collected : ∀ picked, Collected objects start picked → Collected objects after picked
  wrapped : after.wrapped = start.wrapped
  overrun : after.overrun = start.overrun
  zeroFound : after.zeroFound = start.zeroFound
  first : after.first = false

variable (objects) in
theorem scan_past (scanning : start.phase = .scan) (room : start.pointer < 32)
    (missed : onLine (look objects origin) line height = false) :
    ∃ after, turn objects line height (start, origin) = (after, origin + 4) ∧
      Passing objects start after ∧
      after.phase = if 0x100 ≤ origin.toNat + 4 then .finished else .scan := by
  have turned := turn_scan objects line height origin scanning
  rw [missed] at turned
  refine ⟨_, turned, ⟨?_, ?_, ?_, ?_, rfl⟩, ?_⟩
  · intro picked collected
    constructor
    · simp only [scan, Bool.false_eq_true, if_false, store_pointer]
      exact collected.pointer
    · intro slot inside within offset
      have := offset.isLt
      have := collected.pointer
      refine (store_seeing_read objects origin room _).trans ?_
      rw [if_neg (by simp only; omega)]
      exact collected.bytes slot inside within offset
  · simp only [scan, Bool.false_eq_true, if_false, store_wrapped]
    rfl
  · simp only [scan, Bool.false_eq_true, if_false, store_overrun]
    show (start.overrun || decide (32 ≤ start.pointer)) = _
    rw [decide_eq_false (by omega), Bool.or_false]
  · simp only [scan, Bool.false_eq_true, if_false, store_zeroFound]
    rfl
  · simp [scan, step]

def candidates (address : UInt8) (count : Nat) : List UInt8 :=
  (List.range count).map fun index => address + 4 * UInt8.ofNat index

theorem candidates_succ (address : UInt8) (count : Nat) :
    candidates address (count + 1) = address :: candidates (address + 4) count := by
  unfold candidates
  rw [List.range_succ_eq_map, List.map_cons, List.map_map]
  congr 1
  · exact UInt8.add_zero address
  · apply List.map_congr_left
    intro index _
    show address + 4 * UInt8.ofNat (index + 1) = address + 4 + 4 * UInt8.ofNat index
    rw [UInt8.ofNat_add, UInt8.mul_add, UInt8.add_assoc, UInt8.add_comm 4]
    rfl

theorem toNat_next {origin : UInt8} (inside : origin.toNat + 4 < 0x100) :
    (origin + 4).toNat = origin.toNat + 4 := by
  rw [UInt8.toNat_add]
  exact Nat.mod_eq_of_lt inside

variable (objects) in
def found (addresses : List UInt8) : List UInt8 :=
  addresses.filter fun address => onLine (look objects address) line height

variable (objects) in
theorem found_cons (address : UInt8) (rest : List UInt8) :
    found objects line height (address :: rest) =
      found objects line height [address] ++ found objects line height rest :=
  List.filter_append [address] rest

variable (objects) in
structure Examined (start : Evaluation) (origin : UInt8) (picked : List UInt8)
    (after : Evaluation) : Prop where
  collected : Collected objects after (picked ++ found objects line height [origin])
  overrun : after.overrun = start.overrun
  zeroFound : after.zeroFound =
    (start.zeroFound || (start.first && onLine (look objects origin) line height))
  first : after.first = false
  unwrapped : origin.toNat + 4 < 0x100 → after.wrapped = false
  phase : after.phase =
    if 0x100 ≤ origin.toNat + 4 then .finished
    else if (picked ++ found objects line height [origin]).length = 8 then .overflow
    else .scan

variable (objects origin) in
theorem exists_examined (scanning : start.phase = .scan) (unwrapped : start.wrapped = false)
    (few : picked.length < 8) (collected : Collected objects start picked) :
    ∃ after, (turn objects line height)^[1 + 3 * (found objects line height [origin]).length]
        (start, origin) = (after, origin + 4) ∧
      Examined objects line height start origin picked after := by
  have pointer := collected.pointer
  cases shows : onLine (look objects origin) line height with
  | false =>
      have none : found objects line height [origin] = [] :=
        List.filter_cons_of_neg (by simp [shows])
      obtain ⟨after, turned, passing, phase⟩ :=
        scan_past objects line height scanning (by omega) shows
      refine ⟨after, by rw [none]; exact turned, ⟨?_, passing.overrun, ?_, passing.first, ?_, ?_⟩⟩
      · rw [none, List.append_nil]
        exact passing.collected picked collected
      · rw [passing.zeroFound, shows, Bool.and_false, Bool.or_false]
      · intro _
        exact passing.wrapped.trans unwrapped
      · rw [phase, none, List.append_nil, if_neg (show ¬ picked.length = 8 by omega)]
  | true =>
      have one : found objects line height [origin] = [origin] := List.filter_cons_of_pos shows
      obtain ⟨after, next, turned, copying, phase⟩ :=
        copy_object objects line height scanning (by omega) shows
      have gathered := collected.concat copying
      have wrapped : after.wrapped = decide (0x100 ≤ origin.toNat + 4) := by
        rw [copying.wrapped, unwrapped, Bool.false_or]
      refine ⟨after, ?_, ⟨by rw [one]; exact gathered, copying.overrun, ?_, copying.first, ?_, ?_⟩⟩
      · rw [one]
        exact turned.trans (by rw [copying.address]; rfl)
      · rw [copying.zeroFound, shows, Bool.and_true]
      · intro below
        rw [wrapped, decide_eq_false (by omega)]
      · have length : (picked ++ [origin]).length = picked.length + 1 := List.length_append
        rw [phase, one, nextPhase, wrapped, gathered.pointer, length]
        simp only [decide_eq_true_eq]
        split_ifs <;> first | rfl | omega

variable (objects) in
structure Selected (start : Evaluation) (origin : UInt8) (picked : List UInt8)
    (after : Evaluation) : Prop where
  collected : Collected objects after picked
  ended : after.Ended
  overrun : after.overrun = start.overrun
  zeroFound : after.zeroFound =
    (start.zeroFound || (start.first && onLine (look objects origin) line height))

variable (objects) in
theorem selected_of_ended {after : Evaluation} (next : UInt8) (turns : Nat)
    (selected : Selected objects line height start origin picked after) :
    ∃ final address, (turn objects line height)^[turns] (after, next) = (final, address) ∧
      Selected objects line height start origin picked final := by
  obtain ⟨latch, phase, address, turned, ended⟩ :=
    turns_of_ended objects line height selected.ended next turns
  exact ⟨_, address, turned,
    ⟨selected.collected.pointer, selected.collected.bytes⟩, ended, selected.overrun,
    selected.zeroFound⟩

variable (objects) in
/-- Enough pairs of dots find the first objects on the line, up to eight. -/
theorem scan_turns (origin : UInt8) (left turns : Nat) (some : 1 ≤ left)
    (last : 0x100 ≤ origin.toNat + 4 * left) (within : origin.toNat + 4 * (left - 1) < 0x100)
    (enough : left + 3 * (8 - picked.length) ≤ turns) (scanning : start.phase = .scan)
    (unwrapped : start.wrapped = false) (few : picked.length < 8)
    (collected : Collected objects start picked) :
    ∃ after next, (turn objects line height)^[turns] (start, origin) = (after, next) ∧
      Selected objects line height start origin
        ((picked ++ found objects line height (candidates origin left)).take 8) after := by
  -- Each object left costs a turn, and three more while fewer than eight are picked.
  induction left generalizing turns start origin picked with
  | zero => omega
  | succ left ih =>
      obtain ⟨after, turned, examined⟩ :=
        exists_examined objects line height origin scanning unwrapped few collected
      have gain : (found objects line height [origin]).length ≤ 1 := List.length_filter_le _ _
      have length : (picked ++ found objects line height [origin]).length =
          picked.length + (found objects line height [origin]).length := List.length_append
      obtain ⟨rest, rfl⟩ := Nat.exists_eq_add_of_le
        (show 1 + 3 * (found objects line height [origin]).length ≤ turns by omega)
      rw [Nat.add_comm, Function.iterate_add_apply, turned, candidates_succ, found_cons,
        ← List.append_assoc]
      have phase := examined.phase
      split_ifs at phase with passed full
      · have none : left = 0 := by omega
        subst none
        apply selected_of_ended
        refine ⟨?_, .inr phase, examined.overrun, examined.zeroFound⟩
        rw [show found objects line height (candidates (origin + 4) 0) = [] from rfl,
          List.append_nil, List.take_of_length_le (by omega)]
        exact examined.collected
      · apply selected_of_ended
        refine ⟨?_, .inl phase, examined.overrun, examined.zeroFound⟩
        rw [List.take_left' full]
        exact examined.collected
      · have inside := Nat.not_le.mp passed
        have moved := toNat_next inside
        obtain ⟨final, next, ran, selected⟩ :=
          ih (origin + 4) rest (by omega) (by omega) (by omega) (by omega) phase
            (examined.unwrapped inside) (by omega) examined.collected
        refine ⟨final, next, ran, selected.collected, selected.ended,
          selected.overrun.trans examined.overrun, ?_⟩
        rw [selected.zeroFound, examined.first, Bool.false_and, Bool.or_false, examined.zeroFound]

variable (objects) in
theorem restart_selected (evaluation : Evaluation) (origin : UInt8) :
    ∃ after next, afterDots objects line height (evaluation.restart, origin) 192 = (after, next) ∧
      Selected objects line height evaluation.restart origin
        ((found objects line height
          (candidates origin ((0xff - origin.toNat) / 4 + 1))).take 8) after := by
  have top := origin.toNat_lt
  rw [show 192 = 2 * 96 from rfl, afterDots_eq_turns, ← List.nil_append (found _ _ _ _)]
  apply scan_turns
  · omega
  · omega
  · omega
  · rw [List.length_nil]
    omega
  · rfl
  · rfl
  · decide
  · exact ⟨rfl, fun slot inside => absurd inside (Nat.not_lt_zero slot)⟩

end Famicom.Evaluation
