import Famicom.Text.Words

namespace Famicom.Pattern

structure Span where
  start : Nat
  stop : Nat
  deriving DecidableEq

inductive Cause
  | classEscapeInvalid
  | classRangeInvalid
  | classRangeLiteral
  | classUnclosed
  | decimalInvalid
  | escapeHexEmpty
  | escapeHexInvalid
  | escapeHexInvalidDigit
  | escapeUnfinished
  | escapeUnrecognized
  | flagDanglingNegation
  | flagDuplicate (earlier : Span)
  | flagRepeatedNegation (earlier : Span)
  | flagUnfinished
  | flagUnrecognized
  | groupNameDuplicate (earlier : Span)
  | groupNameEmpty
  | groupNameInvalid
  | groupNameUnfinished
  | groupUnclosed
  | groupUnopened
  | repetitionCountEmpty
  | repetitionCountInvalid
  | repetitionCountUnclosed
  | repetitionMissing
  | boundaryUnclosed
  | boundaryUnfinished
  | boundaryUnrecognized
  | classNameInvalid
  | backreference
  | lookAround
  | invalidUtf8
  | unicodeNotAllowed
  | propertyNotFound
  | propertyValueNotFound
  | letteredSetUnavailable
  | caseUnavailable
  | nestedTooDeep (limit : Nat)
  deriving DecidableEq

namespace Cause

def message : Cause → String
  | classEscapeInvalid => "invalid escape sequence found in character class"
  | classRangeInvalid => "invalid character class range, the start must be <= the end"
  | classRangeLiteral => "invalid range boundary, must be a literal"
  | classUnclosed => "unclosed character class"
  | decimalInvalid => "decimal literal invalid"
  | escapeHexEmpty => "hexadecimal literal empty"
  | escapeHexInvalid => "hexadecimal literal is not a Unicode scalar value"
  | escapeHexInvalidDigit => "invalid hexadecimal digit"
  | escapeUnfinished => "incomplete escape sequence, reached end of pattern prematurely"
  | escapeUnrecognized => "unrecognized escape sequence"
  | flagDanglingNegation => "dangling flag negation operator"
  | flagDuplicate _ => "duplicate flag"
  | flagRepeatedNegation _ => "flag negation operator repeated"
  | flagUnfinished => "expected flag but got end of regex"
  | flagUnrecognized => "unrecognized flag"
  | groupNameDuplicate _ => "duplicate capture group name"
  | groupNameEmpty => "empty capture group name"
  | groupNameInvalid => "invalid capture group character"
  | groupNameUnfinished => "unclosed capture group name"
  | groupUnclosed => "unclosed group"
  | groupUnopened => "unopened group"
  | repetitionCountEmpty => "repetition quantifier expects a valid decimal"
  | repetitionCountInvalid => "invalid repetition count range, the start must be <= the end"
  | repetitionCountUnclosed => "unclosed counted repetition"
  | repetitionMissing => "repetition operator missing expression"
  | boundaryUnclosed =>
      "special word boundary assertion is either unclosed or contains an invalid character"
  | boundaryUnfinished =>
      "found either the beginning of a special word boundary or a bounded repetition on a \\b " ++
        "with an opening brace, but no closing brace"
  | boundaryUnrecognized =>
      "unrecognized special word boundary assertion, valid choices are: start, end, start-half " ++
        "or end-half"
  | classNameInvalid => "invalid Unicode character class"
  | backreference => "backreferences are not supported"
  | lookAround => "look-around, including look-ahead and look-behind, is not supported"
  | invalidUtf8 => "pattern can match invalid UTF-8"
  | unicodeNotAllowed => "Unicode not allowed here"
  | propertyNotFound => "Unicode property not found"
  | propertyValueNotFound => "Unicode property value not found"
  | letteredSetUnavailable =>
      "Unicode-aware Perl class not found (make sure the unicode-perl feature is enabled)"
  | caseUnavailable =>
      "Unicode-aware case insensitivity matching is not available (make sure the unicode-case " ++
        "feature is enabled)"
  | nestedTooDeep limit =>
      s!"exceed the maximum number of nested parentheses/brackets ({limit})"

def earlier? : Cause → Option Span
  | flagDuplicate earlier | flagRepeatedNegation earlier | groupNameDuplicate earlier =>
      some earlier
  | _ => none

end Cause

structure Fault where
  span : Span
  cause : Cause
  deriving DecidableEq

structure Place where
  line : Nat
  column : Nat
  deriving DecidableEq

namespace Place

def next (place : Place) (character : Char) : Place :=
  if character = '\n' then ⟨place.line + 1, 1⟩ else ⟨place.line, place.column + 1⟩

def ofOffset (pattern : List Char) (offset : Nat) : Place :=
  (pattern.take offset).foldl next ⟨1, 1⟩

end Place

namespace Fault

def spans (fault : Fault) : List Span :=
  match fault.cause.earlier? with
  | some earlier =>
      if fault.span.start < earlier.start then [fault.span, earlier] else [earlier, fault.span]
  | none => [fault.span]

def marks (column : Nat) : List (Nat × Nat) → List Char
  | [] => []
  | (start, stop) :: rest =>
      let width := max 1 (stop - start)
      List.replicate (start - column) ' ' ++ List.replicate width '^' ++
        marks (max column start + width) rest

def columnsOn (pattern : List Char) (spans : List Span) (line : Nat) : List (Nat × Nat) :=
  spans.filterMap fun span =>
    let start := Place.ofOffset pattern span.start
    let stop := Place.ofOffset pattern span.stop
    if start.line = line ∧ stop.line = line then some (start.column, stop.column) else none

def markedLine (margin : String) (columns : List (Nat × Nat)) (label line : String) :
    List String :=
  (label ++ line) ::
    if columns.isEmpty then [] else [margin ++ String.ofList (marks 1 columns)]

def spreadNotes (pattern : List Char) (spans : List Span) : List String :=
  spans.filterMap fun span =>
    let start := Place.ofOffset pattern span.start
    let stop := Place.ofOffset pattern span.stop
    if start.line = stop.line then none
    else some (s!"on line {start.line} (column {start.column}) through line {stop.line} " ++
      s!"(column {stop.column - 1})")

def report (fault : Fault) (pattern : String) : String :=
  let characters := pattern.toList
  let columns := columnsOn characters fault.spans
  let lines := Text.lines pattern
  let body :=
    if characters.contains '\n' then
      let count := lines.length + if pattern.endsWith "\n" then 1 else 0
      let width := (toString count).length
      let number (line : Nat) : String :=
        let digits := toString line
        "".pushn ' ' (width - digits.length) ++ digits ++ ": "
      let margin := "".pushn ' ' (width + 2)
      let rule := "".pushn '~' 79
      [rule] ++
        (lines.zipIdx 1).flatMap (fun (line, index) =>
          markedLine margin (columns index) (number index) line) ++
        [rule] ++ spreadNotes characters fault.spans
    else lines.flatMap fun line => markedLine "    " (columns 1) "    " line
  "\n".intercalate (["regex parse error:"] ++ body ++ [s!"error: {fault.cause.message}"])

end Fault

end Famicom.Pattern
