import Famicom.Pattern.Basic

/-!
Whether a pattern occurs in a text. A place in a text of length `n` is a number from `0` to `n`: the
number of characters before it. Bit `i` of a number says whether place `i` is in a set of places.
`Course.reach` says to which places a pattern leads from those of a set, and no pattern leads back.
-/

namespace Famicom

namespace Anchor

def isWord (character : Char) : Bool := CharacterSet.word.contains character

def wordBoundary (boundary : Pattern.WordBoundary) (before behind : Bool) : Bool :=
  match boundary with
  | .change => before != behind
  | .noChange => before == behind
  | .start => !before && behind
  | .stop => before && !behind
  | .startHalf => !before
  | .stopHalf => !behind

/-- Between a carriage return and its line feed no line begins or ends. What is a word in Unicode is
not told here: no pattern that asks for it is searched for. -/
def holds (anchor : Anchor) (before behind : Option Char) : Bool :=
  match anchor with
  | textStart => before.isNone
  | textEnd => behind.isNone
  | lineStart carriageReturns =>
      before.isNone || before == some '\n' ||
        (carriageReturns && before == some '\r' && behind != some '\n')
  | lineEnd carriageReturns =>
      behind.isNone || (carriageReturns && behind == some '\r') ||
        (behind == some '\n' && !(carriageReturns && before == some '\r'))
  | word boundary _ => wordBoundary boundary (before.any isWord) (behind.any isWord)

end Anchor

namespace Pattern

abbrev Places := Nat

namespace Places

def upTo (last : Nat) (holds : Nat → Bool) : Places :=
  (List.range (last + 1)).foldr (fun place places => 2 * places + (holds place).toNat) 0

def first (places : Places) : Nat := (places ^^^ (places - 1)).log2

def without (places others : Places) : Places := places ^^^ (places &&& others)

theorem upTo_testBit (last : Nat) (holds : Nat → Bool) (place : Nat) :
    (upTo last holds).testBit place = (decide (place ≤ last) && holds place) := by
  have general (places : List Nat) (start count : Nat) (listed : places = List.range' start count) :
      (places.foldr (fun place places => 2 * places + (holds place).toNat) 0).testBit place =
        (decide (place < count) && holds (start + place)) := by
    induction places generalizing start count place with
    | nil =>
        have : count = 0 := by simpa using listed.symm
        simp [this]
    | cons first rest ih =>
        cases count with
        | zero => simp at listed
        | succ count =>
            rw [List.range'_succ] at listed
            obtain ⟨rfl, listed⟩ := List.cons.inj listed
            cases place with
            | zero =>
                cases value : holds first <;> simp [List.foldr_cons, value, Nat.testBit_zero]
            | succ place =>
                have half : ∀ (value : Nat) (bit : Bool), (2 * value + bit.toNat) / 2 = value := by
                  intro value bit
                  have := Bool.toNat_lt bit
                  omega
                rw [List.foldr_cons, Nat.testBit_succ, half, ih place (first + 1) count listed]
                simp [Nat.add_assoc, Nat.add_comm 1 place]
  have := general (List.range (last + 1)) 0 (last + 1) List.range_eq_range'
  simpa [upTo, Nat.lt_succ_iff] using this

end Places

/-- A pattern within a certain text. What depends on the text is worked out when it is needed. -/
inductive Course
  | pass (places : Thunk Places) (length : Nat)
  | sequence (first second : Course)
  | either (first second : Course)
  | times (body : Course) (count : Nat)
  | upTo (body : Course) (count : Nat)
  /-- Leads from the last place, the one before it and so on to the places listed, each of which
  leads nowhere else. -/
  | table (rows : Thunk (Array Places))

namespace Course

def repeatStep (step : Places → Places) : Nat → Places → Places
  | 0, places => places
  | count + 1, places =>
      let further := step places
      if further = places then places else repeatStep step count further

/-- Adds what some places lead to by the rows of a table. Where a place has been reached, so has all
that it leads to. There are no more steps than places. -/
def follow (rows : Array Places) (last : Nat) : Nat → Places → Places → Places
  | 0, _, reached => reached
  | bound + 1, places, reached =>
      if places = 0 then reached
      else
        let reached := reached ||| (rows[last - places.first]?).getD 0
        follow rows last bound (places.without reached) reached

def reach : Course → Places → Places
  | pass places length, starts => (starts &&& places.get) <<< length
  | sequence first second, starts =>
      let middle := first.reach starts
      if middle = 0 then 0 else second.reach middle
  | either first second, starts => first.reach starts ||| second.reach starts
  | times body count, starts => repeatStep body.reach count starts
  | upTo body count, starts => repeatStep (fun places => places ||| body.reach places) count starts
  | table rows, starts =>
      if starts = 0 then 0 else follow rows.get (rows.get.size - 1) rows.get.size starts 0

/-- What any number of steps leads to, from the last place backwards. A step leads to later places,
whose rows are known by then, or to the place itself. -/
def closure (last : Nat) (step : Places → Places) : Array Places :=
  (List.range (last + 1)).foldr (fun place rows =>
    let here := 1 <<< place
    rows.push (follow rows last (last - place) ((step here).without here) here)) #[]

/-- A text of length `last` has `last + 1` places and no step leads back, so neither the least nor
the greatest number of repetitions matters beyond that. -/
def repetition (last : Nat) (body : Course) (least : Nat) (most : Option Nat) : Course :=
  let required := times body (min least (last + 1))
  match most with
  | some most => sequence required (upTo body (min (most - least) last))
  | none => sequence required (table ⟨fun _ => closure last body.reach⟩)

def standsAt (text : Array Char) : List Char → Nat → Bool
  | [], _ => true
  | character :: rest, place => text[place]? == some character && standsAt text rest (place + 1)

def passWhere (text : Array Char) (holds : Nat → Bool) (length : Nat) : Course :=
  pass ⟨fun _ => .upTo text.size holds⟩ length

def ofPattern (text : Array Char) : Pattern → Course
  | .empty => passWhere text (fun _ => true) 0
  | .literal word => passWhere text (standsAt text word) word.length
  | .oneOf _ set => passWhere text (fun place => text[place]?.any set.contains) 1
  | .anchor condition =>
      passWhere text (fun place =>
        condition.holds (if place = 0 then none else text[place - 1]?) text[place]?) 0
  | .repeated body least most _ => repetition text.size (ofPattern text body) least most
  | .capture _ body => ofPattern text body
  | .sequence first rest => sequence (ofPattern text first) (ofPattern text rest)
  | .either first rest => either (ofPattern text first) (ofPattern text rest)

theorem repeatStep_zero (step : Places → Places) (nowhere : step 0 = 0) (count : Nat) :
    repeatStep step count 0 = 0 := by
  cases count <;> simp [repeatStep, nowhere]

theorem reach_zero (course : Course) : course.reach 0 = 0 := by
  induction course with
  | pass places length => simp [reach]
  | sequence first second ihFirst ihSecond => simp [reach, ihFirst]
  | either first second ihFirst ihSecond => simp [reach, ihFirst, ihSecond]
  | times body count ih => exact repeatStep_zero _ ih count
  | upTo body count ih => exact repeatStep_zero _ (by simp [ih]) count
  | table rows => simp [reach]

theorem reach_sequence (first second : Course) (starts : Places) :
    (sequence first second).reach starts = second.reach (first.reach starts) := by
  simp only [reach]
  split
  · next nowhere => rw [nowhere, reach_zero]
  · rfl

end Course

def occursIn (pattern : Pattern) (text : String) : Bool :=
  let characters := text.toList.toArray
  (Course.ofPattern characters pattern).reach (.upTo characters.size fun _ => true) != 0

end Pattern

end Famicom
