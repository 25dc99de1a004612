namespace UInt8

def bit (byte : UInt8) (position : Nat) : Bool :=
  byte.toNat.testBit position

theorem toNat_bit (byte : UInt8) (position : Nat) :
    (byte.bit position).toNat = byte.toNat >>> position % 2 := by
  unfold bit
  rw [Nat.testBit_eq_decide_div_mod_eq, Nat.shiftRight_eq_div_pow]
  rcases Nat.mod_two_eq_zero_or_one (byte.toNat / 2 ^ position) with even | odd
  · rw [even]
    rfl
  · rw [odd]
    rfl

def reverseBits (byte : UInt8) : UInt8 :=
  let nibbles := (byte >>> 4) ||| (byte <<< 4)
  let pairs := ((nibbles &&& 0xcc) >>> 2) ||| ((nibbles &&& 0x33) <<< 2)
  ((pairs &&& 0xaa) >>> 1) ||| ((pairs &&& 0x55) <<< 1)

end UInt8

namespace UInt16

def lowByte (address : UInt16) : UInt8 := address.toUInt8

def highByte (address : UInt16) : UInt8 := (address >>> 8).toUInt8

def ofBytes (low high : UInt8) : UInt16 := (high.toUInt16 <<< 8) ||| low.toUInt16

theorem toNat_ofBytes (low high : UInt8) :
    (ofBytes low high).toNat = high.toNat * 0x100 + low.toNat := by
  have bound := low.toNat_lt
  have above := high.toNat_lt
  have shifted : (high.toUInt16 <<< 8).toNat = high.toNat <<< 8 := by
    rw [UInt16.toNat_shiftLeft, UInt8.toNat_toUInt16]
    change high.toNat <<< 8 % 2 ^ 16 = _
    exact Nat.mod_eq_of_lt (by rw [Nat.shiftLeft_eq]; omega)
  rw [ofBytes, UInt16.toNat_or, shifted, UInt8.toNat_toUInt16,
    ← Nat.shiftLeft_add_eq_or_of_lt bound, Nat.shiftLeft_eq]

def samePage (first second : UInt16) : Bool := first.highByte == second.highByte

theorem past {address start : UInt16} (reached : start ≤ address) (register : UInt16)
    (earlier : register < start) : ¬ address < register ∧ address ≠ register := by
  have later : register < address := UInt16.lt_of_lt_of_le earlier reached
  exact ⟨UInt16.not_lt.mpr (UInt16.le_of_lt later), (UInt16.ne_of_lt later).symm⟩

end UInt16
