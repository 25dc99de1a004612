import Famicom.Log.Basic
import Famicom.Pattern.Reading
import Famicom.Pattern.Search

/-!
The filter that decides which log entries are shown, and how it is specified: directives separated
by commas, then a slash and a pattern that must occur in the text of an entry.
-/

namespace Famicom

structure LogDirective where
  name : Option String
  rank : Nat
  deriving DecidableEq

namespace LogDirective

def weight (directive : LogDirective) : Nat := (directive.name.map String.utf8ByteSize).getD 0

def covers (directive : LogDirective) (target : String) : Bool :=
  match directive.name with
  | none => true
  | some name => name.toList.isPrefixOf target.toList

end LogDirective

inductive LogWarning
  | invalidPart (part : String)
  | tooManyParts (specification : String)
  | invalidPattern (pattern : String) (refusal : Pattern.Refusal)
  deriving DecidableEq

namespace LogWarning

def message : LogWarning → String
  | invalidPart part => s!"invalid logging spec '{part}'"
  | tooManyParts specification => s!"invalid logging spec '{specification}' (too many '/'s)"
  | invalidPattern pattern refusal => s!"invalid regex filter - {refusal.message pattern}"

def render (warning : LogWarning) : String := s!"warning: {warning.message}, ignoring it\n"

end LogWarning

structure LogFilter where
  directives : List LogDirective
  pattern : Option Pattern := none

namespace LogFilter

def rankOfName? (name : String) : Option Nat :=
  [("OFF", 0), ("ERROR", 1), ("WARN", 2), ("INFO", 3), ("DEBUG", 4), ("TRACE", 5)].lookup
    name.toUpper

/-- A level, a name with its level, or a name alone, which then shows everything. -/
def directive (part : String) : Except LogWarning LogDirective :=
  match part.splitOn "=" with
  | [name] =>
      match rankOfName? name with
      | some rank => .ok { name := none, rank }
      | none => .ok { name := some name, rank := 5 }
  | [name, level] =>
      let level := Text.trim level
      match rankOfName? level with
      | some rank => .ok { name := some name, rank }
      | none =>
          if level.isEmpty then .ok { name := some name, rank := 5 }
          else .error (.invalidPart level)
  | _ => .error (.invalidPart part)

def replace (directive : LogDirective) : List LogDirective → List LogDirective
  | [] => [directive]
  | first :: rest =>
      if first.name = directive.name then directive :: rest else first :: replace directive rest

def gather (directives : List LogDirective) :
    List String → List LogDirective × List LogWarning
  | [] => (directives, [])
  | part :: rest =>
      match directive part with
      | .ok directive => gather (replace directive directives) rest
      | .error warning =>
          let (directives, warnings) := gather directives rest
          (directives, warning :: warnings)

def ofDirectives (directives : List LogDirective) (pattern : Option Pattern) : LogFilter where
  directives :=
    if directives.isEmpty then [{ name := none, rank := 1 }]
    else directives.mergeSort fun first second => first.weight ≤ second.weight
  pattern

def parsePattern (text : String) : Option Pattern × List LogWarning :=
  match Pattern.read text with
  | .ok pattern => (some pattern, [])
  | .error refusal => (none, [.invalidPattern text refusal])

def parse (specification : String) : LogFilter × List LogWarning :=
  let read (parts : String) : List LogDirective × List LogWarning :=
    gather [] (((parts.splitOn ",").map Text.trim).filter fun part => !part.isEmpty)
  match specification.splitOn "/" with
  | [parts] =>
      let (directives, warnings) := read parts
      (ofDirectives directives none, warnings)
  | [parts, text] =>
      let (directives, warnings) := read parts
      let (pattern, more) := parsePattern text
      (ofDirectives directives pattern, warnings ++ more)
  | _ => (ofDirectives [] none, [.tooManyParts specification])

/-- The last directive that covers the target decides; a target without one shows nothing. -/
def rankFor (filter : LogFilter) (target : String) : Nat :=
  ((filter.directives.reverse.find? (·.covers target)).map LogDirective.rank).getD 0

def shows (filter : LogFilter) (entry : LogEntry) : Bool :=
  decide (entry.level.rank ≤ filter.rankFor entry.source.target) &&
    filter.pattern.all (·.occursIn entry.text)

def traces (filter : LogFilter) : Bool :=
  filter.directives.any fun directive => directive.rank == 5

end LogFilter

end Famicom
