/-!
Sets of characters as ranges of code points. The ranges of a set ascend, and between two of them
there is always a code that is in neither.
-/

namespace Famicom

structure CodeRange where
  first : Nat
  last : Nat
  deriving DecidableEq

namespace CodeRange

def lastCode : Nat := 0x10ffff

/-- The code of the next character. No character has a code from `0xd800` up to `0xdfff`. -/
def next (code : Nat) : Nat := if code = 0xd7ff then 0xe000 else code + 1

def previous (code : Nat) : Nat := if code = 0xe000 then 0xd7ff else code - 1

def contains (range : CodeRange) (code : Nat) : Bool :=
  decide (range.first ≤ code) && decide (code ≤ range.last)

def spanning (one other : Nat) : CodeRange := ⟨min one other, max one other⟩

def overlap? (range other : CodeRange) : Option CodeRange :=
  let first := max range.first other.first
  let last := min range.last other.last
  if first ≤ last then some ⟨first, last⟩ else none

def without (range other : CodeRange) : List CodeRange :=
  if (range.overlap? other).isNone then [range]
  else
    (if range.first < other.first then [⟨range.first, previous other.first⟩] else []) ++
      if other.last < range.last then [⟨next other.last, range.last⟩] else []

def insert (range : CodeRange) : List CodeRange → List CodeRange
  | [] => [range]
  | other :: rest =>
      if range.last + 1 < other.first then range :: other :: rest
      else if other.last + 1 < range.first then other :: insert range rest
      else insert ⟨min range.first other.first, max range.last other.last⟩ rest

def gaps : List CodeRange → List CodeRange
  | range :: other :: rest =>
      spanning (next range.last) (previous other.first) :: gaps (other :: rest)
  | _ => []

end CodeRange

structure CharacterSet where
  ranges : List CodeRange
  deriving DecidableEq

namespace CharacterSet

def none : CharacterSet := ⟨[]⟩

def all : CharacterSet := ⟨[⟨0, CodeRange.lastCode⟩]⟩

def isEmpty (set : CharacterSet) : Bool := set.ranges.isEmpty

def contains (set : CharacterSet) (character : Char) : Bool :=
  set.ranges.any (·.contains character.toNat)

def insert (set : CharacterSet) (range : CodeRange) : CharacterSet := ⟨range.insert set.ranges⟩

def ofRanges (ranges : List CodeRange) : CharacterSet := ranges.foldl insert none

def range (first last : Char) : CharacterSet := ⟨[⟨first.toNat, last.toNat⟩]⟩

def ofCharacters (characters : List Char) : CharacterSet :=
  ofRanges (characters.map fun character => ⟨character.toNat, character.toNat⟩)

def union (set other : CharacterSet) : CharacterSet := other.ranges.foldl insert set

def intersection (set other : CharacterSet) : CharacterSet :=
  ⟨set.ranges.flatMap fun range => other.ranges.filterMap range.overlap?⟩

def difference (set other : CharacterSet) : CharacterSet :=
  ⟨set.ranges.flatMap fun range =>
    other.ranges.foldl (fun left other => left.flatMap (·.without other)) [range]⟩

def complement (set : CharacterSet) : CharacterSet :=
  match set.ranges.head?, set.ranges.getLast? with
  | some front, some back =>
      ⟨(if 0 < front.first then [⟨0, CodeRange.previous front.first⟩] else []) ++
        CodeRange.gaps set.ranges ++
        if back.last < CodeRange.lastCode then [⟨CodeRange.next back.last, CodeRange.lastCode⟩]
        else []⟩
  | _, _ => all

def isAscii (set : CharacterSet) : Bool := set.ranges.all fun range => range.last < 0x80

def single? (set : CharacterSet) : Option Char :=
  match set.ranges with
  | [range] => if range.first = range.last then some (Char.ofNat range.first) else Option.none
  | _ => Option.none

def uppercase : CharacterSet := range 'A' 'Z'

def lowercase : CharacterSet := range 'a' 'z'

def foldAscii (set : CharacterSet) : CharacterSet :=
  let lowered := (set.intersection uppercase).ranges.map fun range =>
    { first := range.first + 0x20, last := range.last + 0x20 : CodeRange }
  let raised := (set.intersection lowercase).ranges.map fun range =>
    { first := range.first - 0x20, last := range.last - 0x20 : CodeRange }
  (lowered ++ raised).foldl insert set

def digit : CharacterSet := range '0' '9'

def letter : CharacterSet := uppercase.union lowercase

def word : CharacterSet := (letter.union digit).union (range '_' '_')

def blank : CharacterSet := (range '\t' '\r').union (range ' ' ' ')

def graphic : CharacterSet := range '!' '~'

def named? (name : String) : Option CharacterSet :=
  ([("alnum", letter.union digit), ("alpha", letter), ("ascii", range '\x00' '\x7f'),
    ("blank", ofCharacters ['\t', ' ']),
    ("cntrl", (range '\x00' '\x1f').union (range '\x7f' '\x7f')), ("digit", digit),
    ("graph", graphic), ("lower", lowercase), ("print", range ' ' '~'),
    ("punct", graphic.difference (letter.union digit)), ("space", blank), ("upper", uppercase),
    ("word", word), ("xdigit", (digit.union (range 'A' 'F')).union (range 'a' 'f'))] :
    List (String × CharacterSet)).lookup name

inductive Operation
  | intersection
  | difference
  | symmetricDifference
  deriving DecidableEq

end CharacterSet

end Famicom
