import Famicom.Pattern.Fault

namespace Famicom.Pattern

structure Cursor where
  rest : List Char
  length : Nat
  offset : Nat := 0
  verbose : Bool := false
  names : List (List Char × Span) := []
  captures : Nat := 0

def Cursor.next (cursor : Cursor) : Cursor :=
  match cursor.rest with
  | [] => cursor
  | _ :: rest => { cursor with rest, offset := cursor.offset + 1 }

abbrev Reader := StateT Cursor (Except Fault)

namespace Reader

def failAt {Result : Type} (span : Span) (cause : Cause) : Reader Result :=
  throw { span, cause }

def offset : Reader Nat := return (← get).offset

def verbose : Reader Bool := return (← get).verbose

def setVerbose (verbose : Bool) : Reader Unit :=
  modify fun cursor => { cursor with verbose }

def failSince {Result : Type} (start : Nat) (cause : Cause) : Reader Result := do
  failAt ⟨start, ← offset⟩ cause

def failHere {Result : Type} (cause : Cause) : Reader Result := do
  failSince (← offset) cause

def failNext {Result : Type} (cause : Cause) : Reader Result := do
  let offset ← offset
  failAt ⟨offset, offset + 1⟩ cause

def peek? : Reader (Option Char) := return (← get).rest.head?

def advance : Reader Unit := modify Cursor.next

def skip (count : Nat) : Reader Unit := modify (Nat.repeat Cursor.next count)

def blankLength (inComment : Bool) : List Char → Nat
  | [] => 0
  | character :: rest =>
      if inComment then 1 + blankLength (character != '\n') rest
      else if Text.isBlank character then 1 + blankLength false rest
      else if character = '#' then 1 + blankLength true rest
      else 0

def skipBlank : Reader Unit := do
  let cursor ← get
  if cursor.verbose then skip (blankLength false cursor.rest)

def advanceVisible : Reader Unit := do
  advance
  skipBlank

def visible? : Reader (Option Char) := do
  skipBlank
  peek?

/-- What follows the blanks at the front and one number sign among them, if anything does. A line
feed does not end the comment that the number sign begins. -/
def visibleAhead? (commented : Bool) : List Char → Option Char
  | [] => none
  | character :: rest =>
      if Text.isBlank character then visibleAhead? commented rest
      else if character = '#' && !commented then visibleAhead? true rest
      else some character

def peekSecond? : Reader (Option Char) := do
  let cursor ← get
  let rest := cursor.rest.drop 1
  return if cursor.verbose then visibleAhead? false rest <|> rest.head? else rest.head?

def accept (text : String) : Reader Bool := do
  if text.toList.isPrefixOf (← get).rest then
    skip text.length
    return true
  else return false

def acceptAny : List String → Reader Bool
  | [] => return false
  | text :: rest => do
      if ← accept text then return true else acceptAny rest

def readWhile (member : Char → Bool) : Reader (List Char) := do
  let characters := (← get).rest.takeWhile member
  skip characters.length
  return characters

def readVisibleWhile (member : Char → Bool) : Nat → Reader (List Char)
  | 0 => return []
  | bound + 1 => do
      match ← peek? with
      | some character =>
          if member character then
            advanceVisible
            return character :: (← readVisibleWhile member bound)
          else return []
      | none => return []

def remaining : Reader Nat := do
  let cursor ← get
  return cursor.length - cursor.offset

end Reader

end Famicom.Pattern
