import Famicom.Pattern.Escape

/-!
Sets of characters in brackets: members, ranges, named classes, sets within sets, and the operations
`&&`, `--` and `~~` between them, which group to the left.
-/

namespace Famicom.Pattern

structure Members where
  span : Span
  items : List SetExpression := []

namespace Members

def startAt (offset : Nat) : Members := { span := ⟨offset, offset⟩ }

def add (members : Members) (item : SetExpression) : Members where
  span :=
    ⟨if members.items.isEmpty then item.span.start else members.span.start, item.span.stop⟩
  items := item :: members.items

def expression (members : Members) : SetExpression :=
  match members.items with
  | [] => .nothing members.span
  | [item] => item
  | items => .union members.span items.reverse

end Members

structure OpenSet where
  span : Span
  negated : Bool
  members : Members
  pending : Option (SetExpression × CharacterSet.Operation) := none

namespace OpenSet

def add (set : OpenSet) (item : SetExpression) : OpenSet :=
  { set with members := set.members.add item }

def content (set : OpenSet) : SetExpression :=
  let right := set.members.expression
  match set.pending with
  | none => right
  | some (left, operation) => .operation ⟨left.span.start, right.span.stop⟩ operation left right

def operate (set : OpenSet) (operation : CharacterSet.Operation) (offset : Nat) : OpenSet :=
  { set with members := .startAt offset, pending := some (set.content, operation) }

end OpenSet

def operation? : List Char → Option CharacterSet.Operation
  | '&' :: '&' :: _ => some .intersection
  | '-' :: '-' :: _ => some .difference
  | '~' :: '~' :: _ => some .symmetricDifference
  | _ => none

def namedClass? (characters : List Char) : Option (CharacterSet × Nat × Bool) :=
  match characters with
  | '[' :: ':' :: rest =>
      let negated := rest.head? = some '^'
      let rest := if negated then rest.drop 1 else rest
      let name := rest.takeWhile (· != ':')
      if (rest.drop name.length).take 2 = [':', ']'] then
        (CharacterSet.named? (String.ofList name)).map fun set =>
          (set, name.length + if negated then 5 else 4, negated)
      else none
  | _ => none

namespace Reader

def endOf (piece : Piece) : Reader Literal := do
  match piece with
  | .literal written => return written
  | _ => failAt piece.span .classRangeLiteral

def memberOf (piece : Piece) : Reader SetExpression := do
  match piece with
  | .literal written => return .literal written
  | .listed span set => return .listed span set
  | .condition span _ => failAt span .classEscapeInvalid

def readMember (unclosed : Span) : Reader SetExpression := do
  let piece ← readPiece
  let hyphen := (← visible?) == some '-'
  let second ← peekSecond?
  if (← peek?).isNone then failAt unclosed .classUnclosed
  if !hyphen || second == some ']' || second == some '-' then memberOf piece
  else
    advanceVisible
    if (← peek?).isNone then failAt unclosed .classUnclosed
    let other ← readPiece
    let span : Span := ⟨piece.span.start, other.span.stop⟩
    let first ← endOf piece
    let last ← endOf other
    if last.character < first.character then failAt span .classRangeInvalid
    return .range span first last

def readHyphens (start : Nat) (members : Members) : Nat → Reader Members
  | 0 => return members
  | bound + 1 => do
      if (← peek?) = some '-' then
        let offset ← offset
        advanceVisible
        if (← peek?).isNone then failAt ⟨start, start⟩ .classUnclosed
        let hyphen : Literal :=
          { span := ⟨offset, offset + 1⟩, character := '-', byByte := false }
        readHyphens start (members.add (.literal hyphen)) bound
      else return members

def openSet : Reader OpenSet := do
  let start ← offset
  advanceVisible
  let negated := (← peek?) == some '^'
  if negated then advanceVisible
  if (← peek?).isNone then failSince start .classUnclosed
  let members ← readHyphens start (.startAt (← offset)) (← remaining)
  if members.items.isEmpty ∧ (← peek?) = some ']' then
    let offset ← offset
    advanceVisible
    if (← peek?).isNone then failSince start .classUnclosed
    let bracket : Literal := { span := ⟨offset, offset + 1⟩, character := ']', byByte := false }
    let members := members.add (.literal bracket)
    return { span := ⟨start, ← Reader.offset⟩, negated, members }
  else return { span := ⟨start, ← offset⟩, negated, members }

/-- Reads up to the bracket that closes the outermost of the open sets. Every step reads at least a
character, so the number of those left bounds the steps. -/
def readMembers (set : OpenSet) (outer : List OpenSet) :
    Nat → Reader (Span × Bool × SetExpression)
  | 0 => failAt set.span .classUnclosed
  | bound + 1 => do
      match ← visible? with
      | none => failAt set.span .classUnclosed
      | some ']' =>
          advance
          let span : Span := ⟨set.span.start, ← offset⟩
          match outer with
          | [] => return (span, set.negated, set.content)
          | next :: outer =>
              readMembers (next.add (.bracketed span set.negated set.content)) outer bound
      | some character =>
          let start ← offset
          let rest := (← get).rest
          match namedClass? rest, operation? rest with
          | some (members, length, negated), _ =>
              skip length
              let span : Span := ⟨start, start + length⟩
              readMembers (set.add (.named span members negated)) outer bound
          | none, some operation =>
              skip 2
              readMembers (set.operate operation (← offset)) outer bound
          | none, none =>
              if character = '[' then readMembers (← openSet) (set :: outer) bound
              else readMembers (set.add (← readMember set.span)) outer bound

def readBracketed : Reader Expression := do
  let bound ← remaining
  let (span, negated, content) ← readMembers (← openSet) [] bound
  return .bracketed span negated content

end Reader

end Famicom.Pattern
