import Famicom.Pattern.Bracketed
import Famicom.Text.Class

namespace Famicom.Pattern

structure Draft where
  start : Nat
  branchStart : Nat
  branches : List Expression := []
  items : List Expression := []

namespace Draft

def startAt (offset : Nat) : Draft := { start := offset, branchStart := offset }

def add (draft : Draft) (item : Expression) : Draft :=
  { draft with items := item :: draft.items }

def branch (draft : Draft) (stop : Nat) : Expression :=
  match draft.items with
  | [] => .nothing ⟨draft.branchStart, stop⟩
  | [item] => item
  | items => .sequence ⟨draft.branchStart, stop⟩ items.reverse

def divide (draft : Draft) (bar : Nat) : Draft :=
  { start := draft.start, branchStart := bar + 1, branches := draft.branch bar :: draft.branches }

def expression (draft : Draft) (stop : Nat) : Expression :=
  match draft.branches with
  | [] => draft.branch stop
  | branches => .alternatives ⟨draft.start, stop⟩ (draft.branch stop :: branches).reverse

end Draft

inductive Opening
  | setting (settings : Settings)
  | group (kind : GroupKind)

structure OpenGroup where
  start : Nat
  kind : GroupKind
  verbose : Bool
  outer : Draft

def Flag.ofLetter? (letter : Char) : Option Flag :=
  [('i', ignoreCase), ('m', multiLine), ('s', dotMatchesNewline), ('U', swapGreed),
    ('u', unicode), ('R', carriageReturns), ('x', verbose)].lookup letter

abbrev FlagItems := List (Option Flag × Span)

def settingsOf (value : Bool) : FlagItems → Settings
  | [] => []
  | (none, _) :: rest => settingsOf false rest
  | (some flag, _) :: rest => (flag, value) :: settingsOf value rest

structure Repetition where
  least : Nat
  most : Option Nat
  deriving DecidableEq

namespace Reader

/-! ### Groups -/

def readFlags (read : FlagItems) : Nat → Reader FlagItems
  | 0 => failHere .flagUnfinished
  | bound + 1 => do
      let start ← offset
      match ← peek? with
      | none => failHere .flagUnfinished
      | some letter =>
          if letter = ':' ∨ letter = ')' then
            match read.getLast? with
            | some (none, hyphen) => failAt hyphen .flagDanglingNegation
            | _ => return read
          else
            let item ← if letter = '-' then pure none
              else match Flag.ofLetter? letter with
                | some flag => pure (some flag)
                | none => failNext .flagUnrecognized
            match read.lookup item with
            | some earlier =>
                failNext (if item.isNone then .flagRepeatedNegation earlier
                  else .flagDuplicate earlier)
            | none =>
                advance
                readFlags (read ++ [(item, ⟨start, start + 1⟩)]) bound

def isNameCharacter (isFirst : Bool) (character : Char) : Bool :=
  character == '_' || Text.isAlphabetic character ||
    (!isFirst && (Text.isNumeric character || ['.', '[', ']'].contains character))

def readNameCharacters (isFirst : Bool) : Nat → Reader (List Char)
  | 0 => return []
  | bound + 1 => do
      match ← peek? with
      | none => return []
      | some '>' => return []
      | some character =>
          if isNameCharacter isFirst character then
            advance
            return character :: (← readNameCharacters false bound)
          else failNext .groupNameInvalid

def readGroupName : Reader Unit := do
  let start ← offset
  let name ← readNameCharacters true (← remaining)
  if (← peek?).isNone then failHere .groupNameUnfinished
  let span : Span := ⟨start, ← offset⟩
  advance
  if name.isEmpty then failAt ⟨start, start⟩ .groupNameEmpty
  match (← get).names.lookup name with
  | some earlier => failAt span (.groupNameDuplicate earlier)
  | none => modify fun cursor => { cursor with names := (name, span) :: cursor.names }

def capturing : Reader GroupKind := do
  modify fun cursor => { cursor with captures := cursor.captures + 1 }
  return .capturing (← get).captures

def readOpening : Reader Opening := do
  let start ← offset
  advanceVisible
  let flagsStart ← offset
  if ← acceptAny ["?=", "?!", "?<=", "?<!"] then failSince start .lookAround
  if ← acceptAny ["?P<", "?<"] then
    let kind ← capturing
    readGroupName
    return .group kind
  else if ← accept "?" then
    if (← peek?).isNone then failAt ⟨start, start + 1⟩ .groupUnclosed
    let flags ← readFlags [] ((← remaining) + 1)
    let closes := (← peek?) == some ')'
    advance
    let settings := settingsOf true flags
    if !closes then return .group (.plain settings)
    else if flags.isEmpty then failAt ⟨flagsStart, flagsStart⟩ .repetitionMissing
    else return .setting settings
  else return .group (← capturing)

/-! ### Repetitions -/

def readCount : Reader (Except Fault Nat) := do
  let _ ← readWhile Text.isBlank
  let start ← offset
  let digits ← readVisibleWhile Char.isDigit (← remaining)
  let span : Span := ⟨start, ← offset⟩
  let _ ← readWhile Text.isBlank
  skipBlank
  let value := digits.foldl (fun value digit => value * 10 + (digit.toNat - '0'.toNat)) 0
  if digits.isEmpty then return .error { span, cause := .repetitionCountEmpty }
  else if value < 0x100000000 then return .ok value
  else return .error { span, cause := .decimalInvalid }

def readCounts (start : Nat) : Reader Repetition := do
  let unfinished : Reader Unit := do
    if (← peek?).isNone then failSince start .repetitionCountUnclosed
  advanceVisible
  unfinished
  let least ← readCount
  unfinished
  let repetition ← if (← peek?) = some ',' then do
      advanceVisible
      unfinished
      if (← peek?) = some '}' then pure ⟨← least, none⟩
      else do
        let least ← least
        let most ← readCount
        pure ⟨least, some (← most)⟩
    else do
      let count ← least
      pure ⟨count, some count⟩
  if (← peek?) != some '}' then failSince start .repetitionCountUnclosed
  advanceVisible
  return repetition

def repeatedItem (draft : Draft) : Reader (Expression × Draft) := do
  match draft.items with
  | [] | .setting .. :: _ => failHere .repetitionMissing
  | body :: items => return (body, { draft with items })

def addRepeated (draft : Draft) (body : Expression) (repetition : Repetition) (greedy : Bool) :
    Reader Draft := do
  let span : Span := ⟨body.span.start, ← offset⟩
  return draft.add (.repeated span body repetition.least repetition.most greedy)

def readRepetition (draft : Draft) (repetition : Repetition) : Reader Draft := do
  let (body, draft) ← repeatedItem draft
  advance
  let reluctant ← accept "?"
  addRepeated draft body repetition !reluctant

def readCountedRepetition (draft : Draft) : Reader Draft := do
  let start ← offset
  let (body, draft) ← repeatedItem draft
  let repetition ← readCounts start
  let reluctant ← accept "?"
  if repetition.most.any (· < repetition.least) then failSince start .repetitionCountInvalid
  addRepeated draft body repetition !reluctant

/-! ### Atoms -/

def readAtom : Reader Expression := do
  let start ← offset
  match ← peek? with
  | some '[' => readBracketed
  | some '.' =>
      advance
      return .dot ⟨start, start + 1⟩
  | some '^' =>
      advance
      return .condition ⟨start, start + 1⟩ .lineStart
  | some '$' =>
      advance
      return .condition ⟨start, start + 1⟩ .lineEnd
  | _ =>
      match ← readPiece with
      | .literal written => return .literal written
      | .listed span set => return .listed span set
      | .condition span condition => return .condition span condition

/-! ### Patterns -/

def finish (groups : List OpenGroup) (draft : Draft) : Reader Expression := do
  match groups with
  | [] => return draft.expression (← offset)
  | group :: _ => failAt ⟨group.start, group.start + 1⟩ .groupUnclosed

def applyVerbose (settings : Settings) : Reader Unit := do
  match settings.lookup .verbose with
  | some verbose => setVerbose verbose
  | none => return ()

/-- Reads up to the end, within the open groups. Every step reads at least a character, so the
number of those left bounds the steps. -/
def readItems (groups : List OpenGroup) (draft : Draft) : Nat → Reader Expression
  | 0 => finish groups draft
  | bound + 1 => do
      match ← visible? with
      | none => finish groups draft
      | some '(' =>
          let start ← offset
          let verbose ← verbose
          match ← readOpening with
          | .setting settings =>
              applyVerbose settings
              readItems groups (draft.add (.setting ⟨start, ← offset⟩ settings)) bound
          | .group kind =>
              if let .plain settings := kind then applyVerbose settings
              let group := { start, kind, verbose, outer := draft }
              readItems (group :: groups) (.startAt (← offset)) bound
      | some ')' =>
          match groups with
          | [] => failNext .groupUnopened
          | group :: groups =>
              let stop ← offset
              setVerbose group.verbose
              advance
              let span : Span := ⟨group.start, ← offset⟩
              let item := .group span group.kind (draft.expression stop)
              readItems groups (group.outer.add item) bound
      | some '|' =>
          let bar ← offset
          advance
          readItems groups (draft.divide bar) bound
      | some '?' => readItems groups (← readRepetition draft ⟨0, some 1⟩) bound
      | some '*' => readItems groups (← readRepetition draft ⟨0, none⟩) bound
      | some '+' => readItems groups (← readRepetition draft ⟨1, none⟩) bound
      | some '{' => readItems groups (← readCountedRepetition draft) bound
      | some _ => readItems groups (draft.add (← readAtom)) bound

end Reader

/-- What a text says as a pattern. Parts that lie too deep are told of only if the rest can be
read. -/
def Expression.parse (text : String) : Except Fault Expression := do
  let rest := text.toList
  let length := rest.length
  let (expression, _) ← (Reader.readItems [] (.startAt 0) length).run { rest, length }
  match expression.tooDeep? levelLimit with
  | some span => throw { span, cause := .nestedTooDeep levelLimit }
  | none => return expression

end Famicom.Pattern
