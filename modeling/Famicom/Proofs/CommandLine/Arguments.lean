import Famicom.CommandLine.Options

namespace Famicom.CommandLine

structure IsValue (text : String) : Prop where
  some : text ≠ ""
  plain : (text.startsWith "-" && text != "-") = false

namespace Draft

theorem number?_repr {value : Nat} (fits : value < 0x10000000000000000) :
    number? value.repr = some value := by
  have digits : (Nat.toDigits 10 value).all Char.isDigit = true :=
    List.all_eq_true.mpr fun _ => Nat.isDigit_of_mem_toDigits (by decide) (by decide)
  have read : Nat.ofDigitChars 10 (Nat.toDigits 10 value) 0 = value :=
    Nat.ofDigitChars_toDigits (by decide) (by decide)
  rw [Nat.ofDigitChars_eq_foldl] at read
  simp only [Nat.mul_comm 10] at read
  unfold number?
  rw [Nat.toList_repr]
  cases shape : Nat.toDigits 10 value with
  | nil => exact absurd shape Nat.toDigits_ne_nil
  | cons first rest =>
      rw [shape] at digits read
      split
      · rename_i signed
        rw [(List.cons_eq_cons.mp signed).1] at digits
        simp at digits
      · simp only [digits, read, fits, List.isEmpty_cons, Bool.false_or, Bool.not_true,
          Bool.false_eq_true, if_true, if_false]

end Draft

theorem isValue_repr (value : Nat) : IsValue value.repr := by
  have shape := @Nat.toList_repr value
  constructor
  · intro none
    rw [none] at shape
    exact Nat.toDigits_ne_nil shape.symm
  · rw [Bool.eq_false_iff, Ne, Bool.and_eq_true, String.startsWith_string_iff, shape]
    rintro ⟨⟨rest, hyphen⟩, _⟩
    have digit : '-'.isDigit = true :=
      Nat.isDigit_of_mem_toDigits (by decide) (by decide)
        (hyphen ▸ List.mem_append_left rest List.mem_cons_self)
    cases digit

theorem IsValue.not_isEmpty {text : String} (value : IsValue text) : text.isEmpty = false :=
  Bool.eq_false_iff.mpr fun none => value.some (String.isEmpty_iff.mp none)

theorem IsValue.not_long {text : String} (value : IsValue text) : text.startsWith "--" = false := by
  have plain := value.plain
  rw [Bool.eq_false_iff, Ne, Bool.and_eq_true, String.startsWith_string_iff, bne_iff_ne] at plain
  rw [Bool.eq_false_iff, Ne, String.startsWith_string_iff]
  intro hyphens
  refine plain ⟨List.IsPrefix.trans ⟨['-'], rfl⟩ hyphens, ?_⟩
  rintro rfl
  exact absurd hyphens (by decide)

section

variable {draft next : Draft} {rest : List String} {steps : Nat}

theorem readAll_image {path : String} (value : IsValue path) (first : draft.image = none) :
    readAll draft (path :: rest) (steps + 1) =
      readAll { draft with image := some path } rest steps := by
  have long := value.not_long
  have separator : path ≠ "--" := by
    rintro rfl
    rw [Bool.eq_false_iff, Ne, String.startsWith_string_iff] at long
    exact long (List.prefix_refl _)
  rw [readAll, if_neg separator, if_neg (by rw [long]; decide),
    if_neg (by rw [value.plain]; decide), Draft.setImage, first, value.not_isEmpty]
  rfl

theorem readAll_option {name value : String} {letter : Char}
    {set : Draft → String → String → Except UsageError Draft}
    (spelled : name.toList = ['-', letter]) (short : letter ≠ '-')
    (option : valueOption? name = some set) (plain : IsValue value)
    (taken : set draft name value = .ok next) :
    readAll draft (name :: value :: rest) (steps + 1) = readAll next rest steps := by
  have hyphen : name.startsWith "-" = true := by
    rw [String.startsWith_string_iff, spelled]
    exact ⟨[letter], rfl⟩
  have long : name.startsWith "--" = false := by
    rw [Bool.eq_false_iff, Ne, String.startsWith_string_iff, spelled]
    rintro ⟨tail, same⟩
    exact short (List.cons_eq_cons.mp (List.cons_eq_cons.mp same).2).1.symm
  have separator : name ≠ "--" := by
    rintro rfl
    exact short (List.cons_eq_cons.mp (List.cons_eq_cons.mp spelled).2).1.symm
  have lettered : (name != "-") = true := by
    rw [bne_iff_ne]
    rintro rfl
    cases spelled
  have whole : String.ofList ['-', letter] = name := by rw [← spelled, String.ofList_toList]
  have read : readShort draft (value :: rest) (name.toList.drop 1) = .ok (next, rest) := by
    rw [spelled]
    show readShort draft (value :: rest) [letter] = _
    unfold readShort
    simp only [whole, option, takeValue, plain.plain, Bool.false_eq_true, if_false]
    show (do
      let draft ← set draft name value
      return (draft, rest)) = _
    rw [taken]
    rfl
  rw [readAll, if_neg separator, if_neg (by rw [long]; decide),
    if_pos (by rw [hyphen, lettered]; rfl), read]
  rfl

end

def dumpOptions (rom out : String) (count : Nat) : Options where
  image := rom
  frames := some count
  dump := some out
  monitor := 0

theorem parse_dumpOptions {rom out : String} {count : Nat} (image : IsValue rom)
    (dump : IsValue out) (fits : count < 0x10000000000000000) :
    Options.parse [rom, "-f", count.repr, "-d", out, "-m", "0"] =
      .ok (dumpOptions rom out count) := by
  have frames : Draft.setFrames { image := some rom } "-f" count.repr =
      .ok { image := some rom, frames := some count } := by
    unfold Draft.setFrames
    rw [Draft.number?_repr fits]
  have dumped : Draft.setDump { image := some rom, frames := some count } "-d" out =
      .ok { image := some rom, frames := some count, dump := some out } := by
    unfold Draft.setDump
    rw [dump.not_isEmpty]
    rfl
  have monitor : Draft.setMonitor
      { image := some rom, frames := some count, dump := some out } "-m" (0 : Nat).repr =
      .ok { image := some rom, frames := some count, dump := some out, monitor := some 0 } := by
    unfold Draft.setMonitor
    rw [Draft.number?_repr (by decide)]
  have zero : "0" = (0 : Nat).repr := by decide
  have all : readAll {} [rom, "-f", count.repr, "-d", out, "-m", "0"] 7 =
      .ok { image := some rom, frames := some count, dump := some out, monitor := some 0 } := by
    rw [zero, readAll_image image rfl,
      readAll_option rfl (by decide) rfl (isValue_repr count) frames,
      readAll_option rfl (by decide) rfl dump dumped,
      readAll_option rfl (by decide) rfl (isValue_repr 0) monitor]
    rfl
  unfold Options.parse
  rw [show [rom, "-f", count.repr, "-d", out, "-m", "0"].length = 7 from rfl, all]
  rfl

end Famicom.CommandLine
