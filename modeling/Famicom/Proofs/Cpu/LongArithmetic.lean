import Famicom.Bus.Basic
import Famicom.Cpu.Execution
import Mathlib.Data.Nat.Digits.Lemmas
import Mathlib.Tactic.Ring

/-!
Addition and subtraction of numbers of several bytes. The carry chains of `adc` and `sbc`, least
significant byte first, are compared with the sum and the difference of the numbers that the bytes
stand for, in binary and in decimal mode. Main statement: `carryChain_exact`.
-/

namespace UInt8

variable (first second byte : UInt8)

theorem highBit_iff : byte.bit 7 = true ↔ 128 ≤ byte.toNat := by
  have bound := byte.toNat_lt
  rw [bit, Nat.testBit_eq_decide_div_mod_eq, decide_eq_true_iff]
  omega

theorem bit_and (position : Nat) :
    (first &&& second).bit position = (first.bit position && second.bit position) := by
  rw [bit, UInt8.toNat_and, Nat.testBit_and, bit, bit]

theorem bit_xor (position : Nat) :
    (first ^^^ second).bit position = (first.bit position ^^ second.bit position) := by
  rw [bit, UInt8.toNat_xor, Nat.testBit_xor, bit, bit]

theorem highBit_not : (~~~byte).bit 7 = !byte.bit 7 := by
  have bound := byte.toNat_lt
  have complement : (~~~byte).toNat = 255 - byte.toNat := byte.toNat_not
  rw [Bool.eq_not, Ne, Bool.eq_iff_iff, highBit_iff, highBit_iff, complement]
  omega

end UInt8

namespace Famicom

structure Radix where
  base : Nat
  digit : UInt8 → Nat
  Valid : UInt8 → Prop
  decidableValid : DecidablePred Valid
  one_lt_base : 1 < base
  digit_lt : ∀ {byte}, Valid byte → digit byte < base

namespace Radix

instance (radix : Radix) : DecidablePred radix.Valid := radix.decidableValid

def binary : Radix where
  base := 256
  digit := UInt8.toNat
  Valid _ := True
  decidableValid _ := inferInstanceAs (Decidable True)
  one_lt_base := by decide
  digit_lt := fun {byte} _ => byte.toNat_lt

def decimal : Radix where
  base := 100
  digit byte := 10 * (byte.toNat / 16) + byte.toNat % 16
  Valid byte := byte.toNat / 16 ≤ 9 ∧ byte.toNat % 16 ≤ 9
  decidableValid _ := inferInstanceAs (Decidable (_ ∧ _))
  one_lt_base := by decide
  digit_lt valid := by omega

variable (radix : Radix)

def value (bytes : List UInt8) : Nat := Nat.ofDigits radix.base (bytes.map radix.digit)

theorem value_cons (byte : UInt8) (rest : List UInt8) :
    radix.value (byte :: rest) = radix.digit byte + radix.base * radix.value rest := by
  rw [value, List.map_cons, Nat.ofDigits_cons, value]

theorem value_lt {bytes : List UInt8} (valid : ∀ byte ∈ bytes, radix.Valid byte) :
    radix.value bytes < radix.base ^ bytes.length := by
  rw [← List.length_map radix.digit]
  apply Nat.ofDigits_lt_base_pow_length radix.one_lt_base
  intro digit listed
  obtain ⟨byte, member, rfl⟩ := List.mem_map.mp listed
  exact radix.digit_lt (valid byte member)

def complement (byte : UInt8) : Nat := radix.base - 1 - radix.digit byte

theorem complements_value {bytes : List UInt8} (valid : ∀ byte ∈ bytes, radix.Valid byte) :
    Nat.ofDigits radix.base (bytes.map radix.complement) + radix.value bytes + 1 =
      radix.base ^ bytes.length := by
  induction bytes with
  | nil => rfl
  | cons byte rest continues =>
      have room := radix.digit_lt (valid byte List.mem_cons_self)
      have digits : radix.complement byte + radix.digit byte + 1 = radix.base := by
        unfold complement
        omega
      calc Nat.ofDigits radix.base ((byte :: rest).map radix.complement) +
            radix.value (byte :: rest) + 1
        _ = radix.complement byte + radix.digit byte + 1 + radix.base *
            (Nat.ofDigits radix.base (rest.map radix.complement) + radix.value rest) := by
          rw [List.map_cons, Nat.ofDigits_cons, value_cons]
          ring
        _ = radix.base * (Nat.ofDigits radix.base (rest.map radix.complement) +
            radix.value rest + 1) := by
          rw [digits]
          ring
        _ = radix.base ^ (byte :: rest).length := by
          rw [continues fun byte listed => valid byte (List.mem_cons_of_mem _ listed),
            List.length_cons, Nat.pow_succ, Nat.mul_comm]

def ofMode (decimalMode : Bool) : Radix := if decimalMode then decimal else binary

end Radix

/-! ## Chains -/

namespace Operation

def effect (operation : Operation) : Registers → UInt8 → Registers :=
  match operation.action with
  | .read effect => effect
  | _ => fun registers _ => registers

theorem execute_effect {instruction : Instruction}
    (readsOnly : instruction.operation.readsOnly = true) (registers : Registers) (bus : Bus) :
    let found := (instruction.mode.resolve true registers).run bus
    let value := (Instruction.readOperand instruction.mode found.1.1 found.1.2).run found.2
    ((instruction.execute registers).run bus).1.registers =
      instruction.operation.effect found.1.2 value.1 := by
  intro found value
  simp only [Instruction.execute, readsOnly, Microprogram.run_bind]
  unfold Operation.readsOnly at readsOnly
  unfold effect
  cases acts : instruction.operation.action with
  | read effect => simp only [Microprogram.run_bind, Microprogram.run_pure, found, value]
  | _ => simp [acts] at readsOnly

def chain (operation : Operation) (registers : Registers) :
    List (UInt8 × UInt8) → List UInt8 × Registers
  | [] => ([], registers)
  | (first, second) :: rest =>
      let after := operation.effect (lda.effect registers first) second
      let (bytes, final) := chain operation after rest
      (after.a :: bytes, final)

end Operation

/-! ## Single bytes -/

namespace Flags

/-- What one step of long arithmetic keeps to: its result and its carry stand for the sum of the
first digit, of the share that the second byte contributes, and of the carry before. -/
def Carries (step : Flags → UInt8 → UInt8 → UInt8 × Flags) (decimal : Bool) (radix : Radix)
    (share : UInt8 → Nat) : Prop :=
  ∀ flags first second, flags.decimal = decimal → radix.Valid first → radix.Valid second →
    (step flags first second).2.decimal = decimal ∧
    radix.Valid (step flags first second).1 ∧
    radix.digit (step flags first second).1 +
        radix.base * (step flags first second).2.carry.toNat =
      radix.digit first + share second + flags.carry.toNat

theorem addBinary_sum (flags : Flags) (first second : UInt8) :
    (flags.addBinary first second).1.toNat +
        256 * (flags.addBinary first second).2.carry.toNat =
      first.toNat + second.toNat + flags.carry.toNat := by
  have firstBound := first.toNat_lt
  have secondBound := second.toNat_lt
  have carryBound := flags.carry.toNat_le
  simp only [addBinary, setZeroNegative, UInt8.toNat_ofNat']
  by_cases carries : 0xff < first.toNat + second.toNat + flags.carry.toNat
  · simp only [carries, decide_true, Bool.toNat_true]
    omega
  · simp only [carries, decide_false, Bool.toNat_false]
    omega

theorem add_of_binary (flags : Flags) (mode : flags.decimal = false) (first second : UInt8) :
    flags.add first second = flags.addBinary first second := by
  simp [add, mode]

theorem subtract_of_binary (flags : Flags) (mode : flags.decimal = false) (first second : UInt8) :
    flags.subtract first second = flags.addBinary first (~~~second) := by
  simp [subtract, mode]

theorem carries_add_binary : Carries add false .binary Radix.binary.digit := by
  intro flags first second mode _ _
  rw [flags.add_of_binary mode]
  exact ⟨mode, trivial, flags.addBinary_sum first second⟩

theorem carries_subtract_binary :
    Carries subtract false .binary Radix.binary.complement := by
  intro flags first second mode _ _
  have sum := flags.addBinary_sum first (~~~second)
  rw [UInt8.toNat_not] at sum
  rw [flags.subtract_of_binary mode]
  exact ⟨mode, trivial, sum⟩

theorem toNat_decide (p : Prop) [Decidable p] : (decide p).toNat = if p then 1 else 0 := by
  split <;> simp [*]

theorem decimal_ofDigits {high low : Nat} (highDigit : high ≤ 9) (lowDigit : low ≤ 9) :
    Radix.decimal.Valid (UInt8.ofNat (high * 16 + low)) ∧
      Radix.decimal.digit (UInt8.ofNat (high * 16 + low)) = 10 * high + low := by
  have exact : (UInt8.ofNat (high * 16 + low)).toNat = high * 16 + low := by
    rw [UInt8.toNat_ofNat']
    omega
  simp only [Radix.decimal, exact]
  omega

theorem digit_sum {first second carry : Nat} (firstDigit : first ≤ 9) (secondDigit : second ≤ 9)
    (carryBound : carry ≤ 1) :
    let sum := first + second + carry
    let digit := if 9 < sum then sum + 6 else sum
    digit % 16 ≤ 9 ∧ digit % 16 + 10 * (if 15 < digit then 1 else 0) = sum := by
  intro sum digit
  simp only [digit, sum]
  split_ifs <;> omega

theorem addDecimal_digits (flags : Flags) {first second : UInt8}
    (validFirst : Radix.decimal.Valid first) (validSecond : Radix.decimal.Valid second) :
    ∃ low high lowCarry highCarry : Nat,
      (flags.addDecimal first second).1 = UInt8.ofNat (high * 16 + low) ∧
      (flags.addDecimal first second).2.carry.toNat = highCarry ∧ low ≤ 9 ∧ high ≤ 9 ∧
      low + 10 * lowCarry = first.toNat % 16 + second.toNat % 16 + flags.carry.toNat ∧
      high + 10 * highCarry = first.toNat / 16 + second.toNat / 16 + lowCarry := by
  let lowSum := first.toNat % 16 + second.toNat % 16 + flags.carry.toNat
  let low := if 9 < lowSum then lowSum + 6 else lowSum
  have lowCarry : (if 15 < low then 1 else 0) ≤ 1 := by split <;> decide
  obtain ⟨lowDigit, lowExact⟩ := digit_sum validFirst.2 validSecond.2 flags.carry.toNat_le
  obtain ⟨highDigit, highExact⟩ := digit_sum validFirst.1 validSecond.1 lowCarry
  exact ⟨_, _, _, _, rfl, toNat_decide _, lowDigit, highDigit, lowExact, highExact⟩

theorem carries_add_decimal : Carries add true .decimal Radix.decimal.digit := by
  intro flags first second mode validFirst validSecond
  have decimal : flags.add first second = flags.addDecimal first second := by simp [add, mode]
  obtain ⟨low, high, lowCarry, highCarry, result, carry, lowDigit, highDigit, lowExact,
    highExact⟩ := flags.addDecimal_digits validFirst validSecond
  obtain ⟨valid, digits⟩ := decimal_ofDigits highDigit lowDigit
  rw [decimal, result, carry, digits]
  refine ⟨mode, valid, ?_⟩
  simp only [Radix.decimal]
  omega

theorem digit_difference {first second : Nat} {borrow : Int} (firstDigit : first ≤ 9)
    (secondDigit : second ≤ 9) (borrowBound : 0 ≤ borrow ∧ borrow ≤ 1) :
    let difference : Int := first - second - borrow
    let digit := if difference < 0 then difference - 6 else difference
    (digit % 16).toNat ≤ 9 ∧
      (digit % 16).toNat = difference + 10 * (if difference < 0 then 1 else 0) := by
  intro difference digit
  simp only [digit, difference]
  split_ifs <;> omega

theorem toNat_nothingBorrowed (first second : Nat) {borrow : Int}
    (borrowBound : 0 ≤ borrow ∧ borrow ≤ 1) :
    let lowDifference : Int := (first % 16 : Nat) - (second % 16 : Nat) - borrow
    let highDifference : Int :=
      (first / 16 : Nat) - (second / 16 : Nat) - (if lowDifference < 0 then 1 else 0)
    (decide (0 ≤ (first : Int) - second - borrow)).toNat =
      1 - (if highDifference < 0 then 1 else 0 : Int) := by
  intro lowDifference highDifference
  rw [toNat_decide]
  simp only [highDifference, lowDifference]
  split_ifs <;> omega

theorem subtractDecimal_digits (flags : Flags) {first second : UInt8}
    (validFirst : Radix.decimal.Valid first) (validSecond : Radix.decimal.Valid second) :
    ∃ (low high : Nat) (lowBorrow highBorrow : Int),
      (flags.subtractDecimal first second).1 = UInt8.ofNat (high * 16 + low) ∧
      (flags.subtractDecimal first second).2.carry.toNat = 1 - highBorrow ∧ low ≤ 9 ∧ high ≤ 9 ∧
      low = (first.toNat % 16 : Nat) - (second.toNat % 16 : Nat) - (1 - flags.carry.toNat : Int) +
        10 * lowBorrow ∧
      high = (first.toNat / 16 : Nat) - (second.toNat / 16 : Nat) - lowBorrow +
        10 * highBorrow := by
  obtain ⟨borrow, borrowed, exact, bound⟩ : ∃ borrow : Int,
      (if flags.carry then 0 else 1) = borrow ∧ (1 - flags.carry.toNat : Int) = borrow ∧
        0 ≤ borrow ∧ borrow ≤ 1 := by
    cases flags.carry <;> simp
  let lowBorrow : Int :=
    if ((first.toNat % 16 : Nat) - (second.toNat % 16 : Nat) - borrow : Int) < 0 then 1 else 0
  have lowBorrowBound : 0 ≤ lowBorrow ∧ lowBorrow ≤ 1 := by
    simp only [lowBorrow]
    split <;> decide
  obtain ⟨lowDigit, lowExact⟩ := digit_difference validFirst.2 validSecond.2 bound
  obtain ⟨highDigit, highExact⟩ := digit_difference validFirst.1 validSecond.1 lowBorrowBound
  simp only [subtractDecimal, setZeroNegative, borrowed, exact]
  exact ⟨_, _, lowBorrow, _, rfl, toNat_nothingBorrowed _ _ bound, lowDigit, highDigit, lowExact,
    highExact⟩

theorem carries_subtract_decimal :
    Carries subtract true .decimal Radix.decimal.complement := by
  intro flags first second mode validFirst validSecond
  have decimal : flags.subtract first second = flags.subtractDecimal first second := by
    simp [subtract, mode]
  obtain ⟨low, high, lowBorrow, highBorrow, result, carry, lowDigit, highDigit, lowExact,
    highExact⟩ := flags.subtractDecimal_digits validFirst validSecond
  obtain ⟨valid, digits⟩ := decimal_ofDigits highDigit lowDigit
  rw [decimal, result, digits]
  refine ⟨mode, valid, ?_⟩
  simp only [Radix.decimal, Radix.complement] at validSecond ⊢
  omega

end Flags

/-! ## Whole chains -/

namespace Operation

variable {decimal : Bool} {radix : Radix} {share : UInt8 → Nat}
  {step : Flags → UInt8 → UInt8 → UInt8 × Flags}

theorem chain_value (operation : Operation) (carries : Flags.Carries step decimal radix share)
    (steps : ∀ registers operand, operation.effect registers operand =
      registers.withAccumulator (step registers.p registers.a operand))
    {registers : Registers} (mode : registers.p.decimal = decimal) {pairs : List (UInt8 × UInt8)}
    (valid : ∀ pair ∈ pairs, radix.Valid pair.1 ∧ radix.Valid pair.2) :
    (operation.chain registers pairs).1.length = pairs.length ∧
      (∀ byte ∈ (operation.chain registers pairs).1, radix.Valid byte) ∧
      radix.value (operation.chain registers pairs).1 +
          radix.base ^ pairs.length * (operation.chain registers pairs).2.p.carry.toNat =
        radix.value (pairs.map Prod.fst) +
          Nat.ofDigits radix.base ((pairs.map Prod.snd).map share) + registers.p.carry.toNat := by
  induction pairs generalizing registers with
  | nil => simp [chain, Radix.value]
  | cons pair rest continues =>
      obtain ⟨first, second⟩ := pair
      obtain ⟨validFirst, validSecond⟩ := valid _ List.mem_cons_self
      let after := operation.effect (lda.effect registers first) second
      have afterStep : after = (registers.loadA first).withAccumulator
          (step (registers.p.setZeroNegative first) first second) := steps _ _
      obtain ⟨kept, validByte, carried⟩ :=
        carries (registers.p.setZeroNegative first) first second mode validFirst validSecond
      have keptAfter : after.p.decimal = decimal := by
        rw [afterStep]
        exact kept
      obtain ⟨length, validRest, sum⟩ :=
        continues keptAfter fun pair listed => valid pair (List.mem_cons_of_mem _ listed)
      refine ⟨congrArg (· + 1) length, ?_, ?_⟩
      · intro byte listed
        rcases List.mem_cons.mp listed with rfl | later
        · change radix.Valid after.a
          rw [afterStep]
          exact validByte
        · exact validRest byte later
      · -- The carry of the first byte is the one with which the rest of the chain begins.
        have carriedAfter : radix.digit after.a + radix.base * after.p.carry.toNat =
            radix.digit first + share second + registers.p.carry.toNat := by
          rw [afterStep]
          exact carried
        let later := operation.chain after rest
        calc radix.value (after.a :: later.1) +
              radix.base ^ (rest.length + 1) * later.2.p.carry.toNat
          _ = radix.digit after.a + radix.base *
              (radix.value later.1 + radix.base ^ rest.length * later.2.p.carry.toNat) := by
            rw [radix.value_cons, Nat.pow_succ]
            ring
          _ = radix.digit after.a + radix.base * after.p.carry.toNat +
              radix.base * radix.value (rest.map Prod.fst) +
              radix.base * Nat.ofDigits radix.base ((rest.map Prod.snd).map share) := by
            rw [sum]
            ring
          _ = radix.value (first :: rest.map Prod.fst) +
              Nat.ofDigits radix.base (share second :: (rest.map Prod.snd).map share) +
              registers.p.carry.toNat := by
            rw [carriedAfter, radix.value_cons, Nat.ofDigits_cons]
            ring

theorem length_zip_of_same {firsts seconds : List UInt8}
    (sameLength : firsts.length = seconds.length) :
    (firsts.zip seconds).length = firsts.length := by
  rw [List.length_zip, ← sameLength, Nat.min_self]

theorem chain_exact (operation : Operation) (carries : Flags.Carries step decimal radix share)
    (steps : ∀ registers operand, operation.effect registers operand =
      registers.withAccumulator (step registers.p registers.a operand))
    {registers : Registers} (mode : registers.p.decimal = decimal) {firsts seconds : List UInt8}
    (sameLength : firsts.length = seconds.length)
    (validFirsts : ∀ byte ∈ firsts, radix.Valid byte)
    (validSeconds : ∀ byte ∈ seconds, radix.Valid byte) :
    let result := operation.chain registers (firsts.zip seconds)
    result.1.length = firsts.length ∧ (∀ byte ∈ result.1, radix.Valid byte) ∧
      radix.value result.1 < radix.base ^ firsts.length ∧
      radix.value result.1 + radix.base ^ firsts.length * result.2.p.carry.toNat =
        radix.value firsts + Nat.ofDigits radix.base (seconds.map share) +
          registers.p.carry.toNat := by
  intro result
  have pairs := length_zip_of_same sameLength
  obtain ⟨length, valid, sum⟩ := chain_value operation carries steps mode
    fun pair (listed : pair ∈ firsts.zip seconds) => ⟨validFirsts _ (List.of_mem_zip listed).1,
      validSeconds _ (List.of_mem_zip listed).2⟩
  rw [pairs] at length sum
  rw [List.map_fst_zip sameLength.le, List.map_snd_zip sameLength.ge] at sum
  exact ⟨length, valid, length ▸ radix.value_lt valid, sum⟩

end Operation

/-! ## Signed numbers -/

def signedValue (bytes : List UInt8) : Int :=
  if 2 * Radix.binary.value bytes < 256 ^ bytes.length then Radix.binary.value bytes
  else Radix.binary.value bytes - 256 ^ bytes.length

def FitsSigned (length : Nat) (number : Int) : Prop :=
  -(256 ^ length) ≤ 2 * number ∧ 2 * number < 256 ^ length

instance (length : Nat) (number : Int) : Decidable (FitsSigned length number) :=
  inferInstanceAs (Decidable (_ ∧ _))

theorem exists_half {length : Nat} (positive : length ≠ 0) : ∃ half, 256 ^ length = 2 * half := by
  obtain ⟨length, rfl⟩ := Nat.exists_eq_succ_of_ne_zero positive
  exact ⟨128 * 256 ^ length, by rw [Nat.pow_succ]; ring⟩

theorem signedValue_cons (byte : UInt8) {rest : List UInt8} (nonempty : rest ≠ []) :
    signedValue (byte :: rest) = byte.toNat + 256 * signedValue rest := by
  have bound := byte.toNat_lt
  obtain ⟨half, whole⟩ := exists_half (List.length_eq_zero_iff.not.mpr nonempty)
  have cast : (256 : Int) ^ rest.length = 2 * half := by exact_mod_cast whole
  have digits : Radix.binary.value (byte :: rest) = byte.toNat + 256 * Radix.binary.value rest :=
    Radix.binary.value_cons byte rest
  rw [signedValue, signedValue, List.length_cons, Nat.pow_succ, pow_succ, whole, cast, digits]
  split_ifs <;> omega

theorem fitsSigned_succ {length digit : Nat} (positive : length ≠ 0) (digitBound : digit < 256)
    (number : Int) : FitsSigned (length + 1) (digit + 256 * number) ↔ FitsSigned length number := by
  obtain ⟨half, whole⟩ := exists_half positive
  have cast : (256 : Int) ^ length = 2 * half := by exact_mod_cast whole
  rw [FitsSigned, FitsSigned, pow_succ, cast]
  omega

theorem signedValue_byte (byte : UInt8) :
    signedValue [byte] = if byte.bit 7 then (byte.toNat : Int) - 256 else byte.toNat := by
  have digits : Radix.binary.value [byte] = byte.toNat := Nat.ofDigits_singleton
  simp only [signedValue, digits, byte.highBit_iff, List.length_singleton]
  split_ifs <;> omega

theorem Flags.addBinary_overflow (flags : Flags) (first second : UInt8) :
    (flags.addBinary first second).2.overflow = true ↔
      ¬ FitsSigned 1 (signedValue [first] + signedValue [second] + flags.carry.toNat) := by
  have sum := flags.addBinary_sum first second
  have result : (flags.addBinary first second).2.overflow =
      (!(first.bit 7 ^^ second.bit 7) &&
        (first.bit 7 ^^ (flags.addBinary first second).1.bit 7)) := by
    simp only [addBinary, setZeroNegative, UInt8.bit_and, UInt8.highBit_not, UInt8.bit_xor]
  have firstBound := first.toNat_lt
  have secondBound := second.toNat_lt
  have resultBound := (flags.addBinary first second).1.toNat_lt
  have carryBound := flags.carry.toNat_le
  have carryAfter := (flags.addBinary first second).2.carry.toNat_le
  have firstHigh := first.highBit_iff
  have secondHigh := second.highBit_iff
  have resultHigh := (flags.addBinary first second).1.highBit_iff
  rw [result, signedValue_byte, signedValue_byte, FitsSigned]
  cases firstSign : first.bit 7 <;> cases secondSign : second.bit 7 <;>
    cases resultSign : (flags.addBinary first second).1.bit 7 <;>
    simp [firstSign, secondSign, resultSign] at firstHigh secondHigh resultHigh ⊢ <;> omega

namespace Operation

/-- The overflow flag after a binary chain speaks of the whole numbers: the last byte settles
whether their sum fits, and the bytes below it cannot change that. -/
theorem chain_overflow {registers : Registers} (mode : registers.p.decimal = false)
    {pairs : List (UInt8 × UInt8)} (nonempty : pairs ≠ []) :
    (adc.chain registers pairs).2.p.overflow = true ↔
      ¬ FitsSigned pairs.length (signedValue (pairs.map Prod.fst) +
        signedValue (pairs.map Prod.snd) + registers.p.carry.toNat) := by
  induction pairs generalizing registers with
  | nil => exact absurd rfl nonempty
  | cons pair rest continues =>
      obtain ⟨first, second⟩ := pair
      let flags := registers.p.setZeroNegative first
      let after := adc.effect (lda.effect registers first) second
      have afterStep : after.p = (flags.addBinary first second).2 := by
        change (flags.add first second).2 = _
        rw [flags.add_of_binary mode]
      change (adc.chain after rest).2.p.overflow = true ↔ _
      by_cases last : rest = []
      · subst last
        change after.p.overflow = true ↔ _
        rw [afterStep, flags.addBinary_overflow first second]
        rfl
      · -- Only the last byte has a sign; the first one counts by its sum and its carry.
        have kept : after.p.decimal = false := by
          rw [afterStep]
          exact mode
        have sum := flags.addBinary_sum first second
        rw [← afterStep] at sum
        have fstRest : rest.map Prod.fst ≠ [] := by simpa using last
        have sndRest : rest.map Prod.snd ≠ [] := by simpa using last
        rw [continues kept last, List.map_cons, List.map_cons, List.length_cons,
          signedValue_cons first fstRest, signedValue_cons second sndRest, not_iff_not,
          ← fitsSigned_succ (by simpa using last) (flags.addBinary first second).1.toNat_lt]
        have carried : registers.p.carry.toNat = flags.carry.toNat := rfl
        have whole : ((flags.addBinary first second).1.toNat : Int) +
              256 * (signedValue (rest.map Prod.fst) + signedValue (rest.map Prod.snd) +
                after.p.carry.toNat) =
            first.toNat + 256 * signedValue (rest.map Prod.fst) +
              (second.toNat + 256 * signedValue (rest.map Prod.snd)) +
              registers.p.carry.toNat := by
          rw [carried]
          omega
        rw [whole]

theorem sbc_chain_binary {registers : Registers} (mode : registers.p.decimal = false)
    (pairs : List (UInt8 × UInt8)) :
    sbc.chain registers pairs =
      adc.chain registers (pairs.map (Prod.map id (~~~·))) := by
  induction pairs generalizing registers with
  | nil => rfl
  | cons pair rest continues =>
      let flags := registers.p.setZeroNegative pair.1
      have same : sbc.effect (lda.effect registers pair.1) pair.2 =
          adc.effect (lda.effect registers pair.1) (~~~pair.2) :=
        congrArg (registers.loadA pair.1).withAccumulator
          ((flags.subtract_of_binary mode _ _).trans (flags.add_of_binary mode _ _).symm)
      have kept : (adc.effect (lda.effect registers pair.1) (~~~pair.2)).p.decimal = false :=
        (Flags.carries_add_binary flags pair.1 (~~~pair.2) mode trivial trivial).1
      rw [List.map_cons, chain, chain, same, continues kept]
      rfl

end Operation

theorem signedValue_complement {bytes : List UInt8} (nonempty : bytes ≠ []) :
    signedValue (bytes.map (~~~·)) = -1 - signedValue bytes := by
  have digits : (bytes.map (~~~·)).map Radix.binary.digit =
      bytes.map Radix.binary.complement := by
    rw [List.map_map]
    exact List.map_congr_left fun byte _ => byte.toNat_not
  have sum : Radix.binary.value (bytes.map (~~~·)) + Radix.binary.value bytes + 1 =
      256 ^ bytes.length := by
    rw [Radix.value, digits]
    exact Radix.binary.complements_value fun _ _ => trivial
  obtain ⟨half, whole⟩ := exists_half (List.length_eq_zero_iff.not.mpr nonempty)
  have cast : (256 : Int) ^ bytes.length = 2 * half := by exact_mod_cast whole
  rw [signedValue, signedValue, List.length_map, whole, cast]
  rw [whole] at sum
  split_ifs <;> omega

/-! ## Sums and differences -/

namespace Operation

variable {decimal : Bool} {radix : Radix} {registers : Registers} {firsts seconds : List UInt8}

theorem adc_chain_value (carries : Flags.Carries Flags.add decimal radix radix.digit)
    (mode : registers.p.decimal = decimal) (sameLength : firsts.length = seconds.length)
    (validFirsts : ∀ byte ∈ firsts, radix.Valid byte)
    (validSeconds : ∀ byte ∈ seconds, radix.Valid byte) :
    let result := adc.chain registers (firsts.zip seconds)
    let total := radix.value firsts + radix.value seconds + registers.p.carry.toNat
    result.1.length = firsts.length ∧ (∀ byte ∈ result.1, radix.Valid byte) ∧
      radix.value result.1 = total % radix.base ^ firsts.length ∧
      (result.2.p.carry = true ↔ radix.base ^ firsts.length ≤ total) := by
  intro result total
  obtain ⟨length, valid, small, sum⟩ :=
    chain_exact adc carries (fun _ _ => rfl) mode sameLength validFirsts validSeconds
  change _ = total at sum
  refine ⟨length, valid, ?_, ?_⟩
  · rw [← sum, Nat.add_mul_mod_self_left, Nat.mod_eq_of_lt small]
  · rw [← sum]
    cases result.2.p.carry <;> simp [small]

theorem sbc_chain_value (carries : Flags.Carries Flags.subtract decimal radix radix.complement)
    (mode : registers.p.decimal = decimal) (sameLength : firsts.length = seconds.length)
    (validFirsts : ∀ byte ∈ firsts, radix.Valid byte)
    (validSeconds : ∀ byte ∈ seconds, radix.Valid byte) :
    let result := sbc.chain registers (firsts.zip seconds)
    let difference : Int :=
      radix.value firsts - radix.value seconds - (!registers.p.carry).toNat
    result.1.length = firsts.length ∧ (∀ byte ∈ result.1, radix.Valid byte) ∧
      radix.value result.1 = difference % (radix.base ^ firsts.length : Nat) ∧
      (result.2.p.carry = false ↔ difference < 0) := by
  intro result difference
  obtain ⟨length, valid, small, sum⟩ :=
    chain_exact sbc carries (fun _ _ => rfl) mode sameLength validFirsts validSeconds
  have complements := radix.complements_value validSeconds
  rw [← sameLength] at complements
  change radix.value result.1 < _ at small
  change radix.value result.1 + _ * result.2.p.carry.toNat = _ at sum
  generalize radix.base ^ firsts.length = limit at *
  have exact : difference =
      radix.value result.1 + limit * ((result.2.p.carry.toNat : Int) - 1) := by
    simp only [difference]
    cases after : result.2.p.carry <;> cases before : registers.p.carry <;>
      simp [after, before] at sum ⊢ <;> omega
  refine ⟨length, valid, ?_, ?_⟩
  · rw [exact, Int.add_mul_emod_self_left, Int.emod_eq_of_lt (by omega) (by omega)]
  · rw [exact]
    cases result.2.p.carry <;> simp [small]

theorem adc_chain_overflow (mode : registers.p.decimal = false)
    (sameLength : firsts.length = seconds.length) (nonempty : firsts ≠ []) :
    (adc.chain registers (firsts.zip seconds)).2.p.overflow = true ↔
      ¬ FitsSigned firsts.length
        (signedValue firsts + signedValue seconds + registers.p.carry.toNat) := by
  have pairs := length_zip_of_same sameLength
  have somePair : firsts.zip seconds ≠ [] := by
    intro empty
    exact nonempty (List.length_eq_zero_iff.mp (by rw [← pairs, empty, List.length_nil]))
  rw [chain_overflow mode somePair, pairs, List.map_fst_zip sameLength.le,
    List.map_snd_zip sameLength.ge]

theorem sbc_chain_overflow (mode : registers.p.decimal = false)
    (sameLength : firsts.length = seconds.length) (nonempty : firsts ≠ []) :
    (sbc.chain registers (firsts.zip seconds)).2.p.overflow = true ↔
      ¬ FitsSigned firsts.length
        (signedValue firsts - signedValue seconds - (!registers.p.carry).toNat) := by
  have secondsNonempty : seconds ≠ [] := by
    intro empty
    exact nonempty (List.length_eq_zero_iff.mp (by rw [sameLength, empty, List.length_nil]))
  have total : signedValue firsts - signedValue seconds - (!registers.p.carry).toNat =
      signedValue firsts + (-1 - signedValue seconds) + registers.p.carry.toNat := by
    cases registers.p.carry <;> simp <;> ring
  rw [sbc_chain_binary mode, ← List.zip_map_right, total, ← signedValue_complement secondsNonempty]
  exact adc_chain_overflow mode (by rw [List.length_map, sameLength]) nonempty

end Operation

namespace Flags

theorem carries_add (decimal : Bool) :
    Carries add decimal (.ofMode decimal) (Radix.ofMode decimal).digit := by
  cases decimal with
  | false => exact carries_add_binary
  | true => exact carries_add_decimal

theorem carries_subtract (decimal : Bool) :
    Carries subtract decimal (.ofMode decimal) (Radix.ofMode decimal).complement := by
  cases decimal with
  | false => exact carries_subtract_binary
  | true => exact carries_subtract_decimal

end Flags

namespace Operation

/-- The two lists are added and subtracted, least significant byte first, in the mode that the
decimal flag selects; in decimal mode every byte holds two decimal digits. -/
theorem carryChain_exact (registers : Registers) (firsts seconds : List UInt8)
    (sameLength : firsts.length = seconds.length)
    (valid : ∀ byte ∈ firsts ++ seconds, (Radix.ofMode registers.p.decimal).Valid byte) :
    let radix := Radix.ofMode registers.p.decimal
    let limit := radix.base ^ firsts.length
    let carry := registers.p.carry.toNat
    let borrow := (!registers.p.carry).toNat
    let sum := adc.chain registers (firsts.zip seconds)
    let difference := sbc.chain registers (firsts.zip seconds)
    let exactSum : Nat := radix.value firsts + radix.value seconds + carry
    let exactDifference : Int := radix.value firsts - radix.value seconds - borrow
    (sum.1.length = firsts.length ∧ (∀ byte ∈ sum.1, radix.Valid byte) ∧
      radix.value sum.1 = exactSum % limit ∧ (sum.2.p.carry = true ↔ limit ≤ exactSum)) ∧
    (difference.1.length = firsts.length ∧ (∀ byte ∈ difference.1, radix.Valid byte) ∧
      radix.value difference.1 = exactDifference % limit ∧
      (difference.2.p.carry = false ↔ exactDifference < 0)) ∧
    (registers.p.decimal = false → firsts ≠ [] →
      (sum.2.p.overflow = true ↔
        ¬ FitsSigned firsts.length (signedValue firsts + signedValue seconds + carry)) ∧
      (difference.2.p.overflow = true ↔
        ¬ FitsSigned firsts.length (signedValue firsts - signedValue seconds - borrow))) := by
  intro radix limit carry borrow sum difference exactSum exactDifference
  have validFirsts byte (listed : byte ∈ firsts) := valid byte (List.mem_append_left _ listed)
  have validSeconds byte (listed : byte ∈ seconds) := valid byte (List.mem_append_right _ listed)
  exact ⟨adc_chain_value (Flags.carries_add _) rfl sameLength validFirsts validSeconds,
    sbc_chain_value (Flags.carries_subtract _) rfl sameLength validFirsts validSeconds,
    fun mode nonempty => ⟨adc_chain_overflow mode sameLength nonempty,
      sbc_chain_overflow mode sameLength nonempty⟩⟩

/-- 4658 and 312 with a carry in decimal mode; 32767 and 1 in binary mode. -/
theorem carryChain_runs :
    let decimal : Registers := { p := { decimal := true, carry := true } }
    let sum := adc.chain decimal ([0x58, 0x46].zip [0x12, 0x03])
    let difference := sbc.chain decimal ([0x58, 0x46].zip [0x12, 0x03])
    (Radix.decimal.value sum.1 = 4971 ∧ sum.2.p.carry = false ∧
      Radix.decimal.value difference.1 = 4346 ∧ difference.2.p.carry = true) ∧
    (adc.chain {} ([0xff, 0x7f].zip [0x01, 0x00])).2.p.overflow = true := by
  intro decimal sum difference
  obtain ⟨⟨-, -, added, carried⟩, ⟨-, -, subtracted, borrowed⟩, -⟩ :=
    carryChain_exact decimal [0x58, 0x46] [0x12, 0x03] rfl
      (by decide +kernel)
  obtain ⟨-, -, overflows⟩ := carryChain_exact {} [0xff, 0x7f] [0x01, 0x00] rfl
    (by decide +kernel)
  exact ⟨⟨added.trans (by decide), Bool.eq_false_iff.mpr (mt carried.mp (by decide)),
    Int.ofNat_inj.mp (subtracted.trans (by decide)),
    Bool.not_eq_false _ ▸ mt borrowed.mp (by decide)⟩,
    (overflows rfl (by decide)).1.mpr (by decide)⟩

end Operation

end Famicom
