import Famicom.Pattern.Cursor
import Famicom.Pattern.Expression

namespace Famicom.Pattern

inductive Piece
  | literal (written : Literal)
  | listed (span : Span) (set : ListedSet)
  | condition (span : Span) (condition : Condition)

def Piece.span : Piece → Span
  | literal written => written.span
  | listed span _ | condition span _ => span

def LetteredSet.ofLetter? (letter : Char) : Option LetteredSet :=
  [('d', digit), ('s', blank), ('w', word)].lookup letter

def WordBoundary.ofName? (name : String) : Option WordBoundary :=
  [("start", start), ("end", stop), ("start-half", startHalf), ("end-half", stopHalf)].lookup name

def isHexDigit (character : Char) : Bool :=
  character.isDigit || ('a' ≤ character && character ≤ 'f') ||
    ('A' ≤ character && character ≤ 'F')

def hexValue (digits : List Char) : Nat :=
  digits.foldl (fun value digit =>
    value * 16 +
      if digit.isDigit then digit.toNat - '0'.toNat else digit.toLower.toNat - 'a'.toNat + 10) 0

def standsForItself (character : Char) : Bool :=
  character.toNat < 0x80 && !character.isAlphanum && character != '<' && character != '>'

def controlEscape? (letter : Char) : Option Char :=
  [('a', '\x07'), ('f', '\x0c'), ('t', '\t'), ('n', '\n'), ('r', '\r'), ('v', '\x0b')].lookup
    letter

namespace Reader

def scalar (span : Span) (digits : List Char) : Reader Char :=
  let value := hexValue digits
  if value.isValidChar then return Char.ofNat value else failAt span .escapeHexInvalid

def readHexDigits : Nat → Reader (List Char)
  | 0 => return []
  | count + 1 => do
      match ← peek? with
      | none => failHere .escapeUnfinished
      | some digit =>
          if isHexDigit digit then
            advanceVisible
            return digit :: (← readHexDigits count)
          else failNext .escapeHexInvalidDigit

def readHex (escapeStart : Nat) (letter : Char) : Reader Literal := do
  advanceVisible
  let start ← offset
  match ← peek? with
  | none => failHere .escapeUnfinished
  | some '{' =>
      advanceVisible
      let digits ← readVisibleWhile isHexDigit (← remaining)
      match ← peek? with
      | none => failSince start .escapeUnfinished
      | some '}' =>
          let stop ← offset
          advanceVisible
          if digits.isEmpty then failSince start .escapeHexEmpty
          let character ← scalar ⟨start + 1, stop⟩ digits
          return { span := ⟨escapeStart, ← offset⟩, character, byByte := false }
      | some _ => failNext .escapeHexInvalidDigit
  | some _ =>
      let digits ← readHexDigits (if letter = 'x' then 2 else if letter = 'u' then 4 else 8)
      let character ← scalar ⟨start, ← offset⟩ digits
      return { span := ⟨escapeStart, ← offset⟩, character, byByte := letter == 'x' }

def readPropertyName : Reader (List Char) := do
  advanceVisible
  match ← peek? with
  | none => failHere .escapeUnfinished
  | some '{' =>
      advanceVisible
      let name ← readVisibleWhile (· != '}') (← remaining)
      if (← peek?).isNone then failHere .escapeUnfinished
      advance
      return name
  | some '\\' => failNext .classNameInvalid
  | some letter =>
      advanceVisible
      return [letter]

def readNamedBoundary (start : Nat) : Reader (Option WordBoundary) := do
  let isNameLetter (character : Char) : Bool := character.isAlpha || character == '-'
  let cursor ← get
  advanceVisible
  match ← peek? with
  | none => failSince start .boundaryUnfinished
  | some character =>
      if isNameLetter character then
        let nameStart ← offset
        let name ← readVisibleWhile isNameLetter (← remaining)
        if (← peek?) != some '}' then failSince cursor.offset .boundaryUnclosed
        let stop ← offset
        advance
        match WordBoundary.ofName? (String.ofList name) with
        | some boundary => return some boundary
        | none => failAt ⟨nameStart, stop⟩ .boundaryUnrecognized
      else
        set cursor
        return none

def readBoundary (start : Nat) : Reader WordBoundary := do
  let named ← if (← peek?) = some '{' then readNamedBoundary start else pure none
  return named.getD .change

def readCondition (start : Nat) (letter : Char) : Reader Condition := do
  match letter with
  | 'A' => return .textStart
  | 'z' => return .textEnd
  | 'b' => return .word (← readBoundary start)
  | 'B' => return .word .noChange
  | '<' => return .word .start
  | '>' => return .word .stop
  | _ => failSince start .escapeUnrecognized

def readEscape : Reader Piece := do
  let start ← offset
  advance
  match ← peek? with
  | none => failSince start .escapeUnfinished
  | some letter =>
      if letter.isDigit then failAt ⟨start, (← offset) + 1⟩ .backreference
      else if ['x', 'u', 'U'].contains letter then return .literal (← readHex start letter)
      else if letter = 'p' ∨ letter = 'P' then
        let name ← readPropertyName
        return .listed ⟨start, ← offset⟩ (.property name)
      else
        advance
        let span : Span := ⟨start, ← offset⟩
        match LetteredSet.ofLetter? letter.toLower with
        | some set => return .listed span (.lettered set letter.isUpper)
        | none =>
            if standsForItself letter then
              return .literal { span, character := letter, byByte := false }
            else
              match controlEscape? letter with
              | some character => return .literal { span, character, byByte := false }
              | none =>
                  let condition ← readCondition start letter
                  return .condition ⟨start, ← offset⟩ condition

def readPiece : Reader Piece := do
  let start ← offset
  match ← peek? with
  | some '\\' => readEscape
  | character =>
      advance
      let span : Span := ⟨start, ← offset⟩
      return .literal { span, character := character.getD ' ', byByte := false }

end Reader

end Famicom.Pattern
