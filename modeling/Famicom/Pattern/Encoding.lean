import Famicom.Pattern.CharacterSet

/-!
The bytes that encode the characters of a set, as ranges of bytes that may follow one another, and
how many states a machine needs that reads them byte by byte.
-/

namespace Famicom.Pattern

/-- A range for each byte of an encoding. Every choice from the ranges encodes a character. -/
abbrev Encoding := List CodeRange

namespace Encoding

def encode (code : Nat) : List Nat :=
  (String.utf8EncodeChar (Char.ofNat code)).map UInt8.toNat

/-- Codes behind which a range may have to be cut: the last of each length of encodings, the one
before those that no character has, and the ends of the blocks that share all but their last one,
two or three bytes. -/
def cuts (first last : Nat) : List Nat :=
  [0xd7ff, 0x7f, 0x7ff, 0xffff] ++
    [0x40, 0x1000, 0x40000].flatMap fun size =>
      (if first % size = 0 then [] else [first / size * size + (size - 1)]) ++
        if last % size = size - 1 then [] else [last / size * size - 1]

def cut? (first last : Nat) : Option Nat :=
  if last < 0x80 then none
  else (cuts first last).find? fun code => decide (first ≤ code) && decide (code < last)

theorem cut?_bounds {first last code : Nat} (found : cut? first last = some code) :
    first ≤ code ∧ code < last := by
  unfold cut? at found
  split at found
  · cases found
  · simpa using List.find?_some found

theorem lt_next (code : Nat) : code < CodeRange.next code := by
  unfold CodeRange.next
  split <;> omega

def ofCodes (first last : Nat) : List Encoding :=
  match _found : cut? first last with
  | some code => ofCodes first code ++ ofCodes (CodeRange.next code) last
  | none => [List.zipWith CodeRange.mk (encode first) (encode last)]
termination_by last - first
decreasing_by
  · have := cut?_bounds _found
    omega
  · have := cut?_bounds _found
    have := lt_next code
    omega

def ofSet (set : CharacterSet) : List Encoding :=
  set.ranges.flatMap fun range => ofCodes range.first range.last

end Encoding

/-! ### What begins alike -/

section Fronts

variable {Item : Type} [DecidableEq Item]

def fronts (lists : List (List Item)) : List Item := (lists.filterMap List.head?).eraseDups

def behind (front : Item) (lists : List (List Item)) : List (List Item) :=
  lists.filterMap fun list =>
    match list with
    | [] => none
    | first :: rest => if first = front then some rest else none

end Fronts

namespace Encoding

def longest : Nat := 4

/-- The states in which such encodings may follow, with those that come later, each as the encodings
that lead on from it. -/
def states : Nat → List Encoding → List (List Encoding)
  | 0, _ => []
  | length + 1, encodings =>
      if encodings.all List.isEmpty then []
      else
        encodings ::
          (fronts encodings).flatMap fun front => states length (behind front encodings)

def beginnings : Nat → List Encoding → Nat
  | 0, _ => 0
  | length + 1, encodings =>
      (fronts encodings).foldl (fun count front =>
        count + 1 + beginnings length (behind front encodings)) 0

end Encoding

end Famicom.Pattern
