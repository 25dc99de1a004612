namespace Famicom.Numeral

def padded (base width value : Nat) : String :=
  let digits := (Nat.toDigits base value).map Char.toUpper
  String.ofList (List.replicate (width - digits.length) '0' ++ digits)

def hex (width value : Nat) : String := padded 16 width value

def aligned (width value : Nat) : String :=
  let digits := toString value
  String.ofList (List.replicate (width - digits.length) ' ') ++ digits

def decimal (width value : Nat) : String := padded 10 width value

def binary (width value : Nat) : String := padded 2 width value

/-- The whole number nearest to a quotient. A half goes to the even neighbour. -/
def nearest (amount unit : Nat) : Nat :=
  let double := 2 * (amount % unit)
  if unit < double ∨ unit = double ∧ amount / unit % 2 = 1 then amount / unit + 1 else amount / unit

theorem nearest_bounds (amount : Nat) {unit : Nat} (positive : 0 < unit) :
    2 * amount ≤ 2 * (nearest amount unit * unit) + unit ∧
      2 * (nearest amount unit * unit) ≤ 2 * amount + unit := by
  have whole := Nat.div_add_mod' amount unit
  have rest := Nat.mod_lt amount positive
  unfold nearest
  dsimp only
  split
  · rw [Nat.add_mul]
    omega
  · omega

end Famicom.Numeral
