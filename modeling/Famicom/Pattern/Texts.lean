import Famicom.Pattern.Basic

/-!
Patterns that come down to a few short texts. Texts are looked for as they are, without a machine.
-/

namespace Famicom

def CharacterSet.size (set : CharacterSet) : Nat :=
  set.ranges.foldl (fun size range => size + (range.last + 1 - range.first)) 0

def CharacterSet.toList (set : CharacterSet) : List Char :=
  set.ranges.flatMap fun range =>
    (List.range' range.first (range.last + 1 - range.first)).map Char.ofNat

namespace Pattern

def bytes (text : List Char) : List UInt8 := text.flatMap String.utf8EncodeChar

def few? (texts : List (List Char)) : Option (List (List Char)) :=
  if texts.length ≤ 250 && texts.all (fun text => (bytes text).length ≤ 100) then some texts
  else none

def joined (texts others : List (List Char)) : List (List Char) :=
  texts.flatMap fun text => others.map (text ++ ·)

/-- All that a pattern matches, if it is few texts. Sets of more than ten characters and more than
ten repetitions are not followed up. What is behind a part that matches nothing does not matter. -/
def texts? : Pattern → Option (List (List Char))
  | empty => some [[]]
  | literal text => few? [text]
  | oneOf _ set => if set.size ≤ 10 then some (set.toList.map ([·])) else none
  | anchor _ | capture .. => none
  | repeated body least most _ =>
      body.texts?.bind fun texts =>
        if texts.isEmpty then some (if least = 0 then [[]] else [])
        else if least = 0 ∧ most = some 1 then few? (texts ++ [[]])
        else if most = some least ∧ least ≤ 10 then
          (List.replicate least texts).foldlM (fun front texts => few? (joined front texts)) [[]]
        else none
  | sequence first rest =>
      first.texts?.bind fun texts =>
        if texts.isEmpty then some []
        else rest.texts?.bind fun others => few? (joined texts others)
  | either first rest =>
      first.texts?.bind fun texts => rest.texts?.bind fun others => few? (texts ++ others)

def isPlain : Pattern → Bool
  | empty | literal _ | oneOf .. => true
  | anchor _ | capture .. => false
  | repeated body .. => body.isPlain
  | sequence first rest | either first rest => first.isPlain && rest.isPlain

def isFewTexts (pattern : Pattern) : Bool :=
  pattern.isPlain &&
    match pattern.texts? with
    | some [text] => !text.isEmpty
    | some texts =>
        decide (texts.length ≤ 10) && !texts.any List.isEmpty &&
          decide (1 < (texts.map fun text => (bytes text).head?).eraseDups.length)
    | none => false

end Pattern

end Famicom
