import Famicom.Pattern.Basic
import Famicom.Pattern.Parser

/-!
What a pattern that was read means under the flags in force, and the faults that lie in its meaning.
There are no tables of Unicode's sets and cases, so a pattern that asks for them is faulty.
-/

namespace Famicom.Pattern

structure Switches where
  ignoreCase : Bool := false
  multiLine : Bool := false
  dotMatchesNewline : Bool := false
  swapGreed : Bool := false
  carriageReturns : Bool := false
  /-- Characters are those of Unicode, and else bytes. -/
  unicode : Bool := true
  deriving DecidableEq

namespace Switches

def set (switches : Switches) (flag : Flag) (value : Bool) : Switches :=
  match flag with
  | .ignoreCase => { switches with ignoreCase := value }
  | .multiLine => { switches with multiLine := value }
  | .dotMatchesNewline => { switches with dotMatchesNewline := value }
  | .swapGreed => { switches with swapGreed := value }
  | .unicode => { switches with unicode := value }
  | .carriageReturns => { switches with carriageReturns := value }
  | .verbose => switches

def apply (switches : Switches) (settings : Settings) : Switches :=
  settings.foldl (fun switches (flag, value) => switches.set flag value) switches

end Switches

/-! ### Sets -/

structure Gathering where
  set : CharacterSet := .none
  /-- The set is known to hold every character that differs from a member in case alone. -/
  closed : Bool := true
  deriving DecidableEq

namespace Gathering

def add (gathering : Gathering) (range : CodeRange) : Gathering :=
  { set := gathering.set.insert range, closed := false }

def ofSet (set : CharacterSet) : Gathering := { set, closed := set.isEmpty }

def union (gathering other : Gathering) : Gathering :=
  if other.set.isEmpty || gathering.set = other.set then gathering
  else { set := gathering.set.union other.set, closed := gathering.closed && other.closed }

def intersection (gathering other : Gathering) : Gathering :=
  if gathering.set.isEmpty then gathering
  else if other.set.isEmpty then {}
  else
    { set := gathering.set.intersection other.set, closed := gathering.closed && other.closed }

def difference (gathering other : Gathering) : Gathering :=
  if gathering.set.isEmpty || other.set.isEmpty then gathering
  else { set := gathering.set.difference other.set, closed := gathering.closed && other.closed }

def operate (left : Gathering) (operation : CharacterSet.Operation) (right : Gathering) :
    Gathering :=
  match operation with
  | .intersection => left.intersection right
  | .difference => left.difference right
  | .symmetricDifference => (left.union right).difference (left.intersection right)

def complement (gathering : Gathering) : Gathering :=
  { set := gathering.set.complement, closed := gathering.set.isEmpty || gathering.closed }

end Gathering

namespace Switches

/-- Adds what differs from the members in case alone, if case is to be ignored. For characters this
takes a table of cases, unless there is nothing to look up. -/
def fold (switches : Switches) (span : Span) (gathering : Gathering) : Except Fault Gathering :=
  if !switches.ignoreCase then .ok gathering
  else if !switches.unicode then .ok { set := gathering.set.foldAscii, closed := true }
  else if gathering.closed || gathering.set.isEmpty then .ok { gathering with closed := true }
  else .error { span, cause := .caseUnavailable }

/-- Case is ignored first and the complement taken then. A complement of bytes would hold bytes that
are no characters. -/
def complete (switches : Switches) (span : Span) (negated : Bool) (gathering : Gathering) :
    Except Fault Gathering := do
  let gathering ← switches.fold span gathering
  if !negated then return gathering
  else if switches.unicode then return gathering.complement
  else throw { span, cause := .invalidUtf8 }

end Switches

namespace LetteredSet

def bytes : LetteredSet → CharacterSet
  | digit => .digit
  | blank => .blank
  | word => .word

end LetteredSet

namespace ListedSet

/-- Case, spaces, hyphens and underscores in the name of a property do not matter, nor do characters
beyond ASCII or a leading "is". -/
def propertyName (name : List Char) : String :=
  let name := match name with
    | first :: second :: rest =>
        if first.toLower = 'i' ∧ second.toLower = 's' then rest else name
    | _ => name
  let kept := name.filter fun character =>
    decide (character.toNat < 0x80) && !(['_', '-', ' '].contains character)
  String.ofList (kept.map Char.toLower)

/-- Three names are those of general categories alone, and those are looked up as values. -/
def propertyCause (name : List Char) : Cause :=
  if ["cf", "sc", "lc"].contains (propertyName name) then .propertyValueNotFound
  else .propertyNotFound

def members (set : ListedSet) (span : Span) (unicode : Bool) : Except Fault CharacterSet :=
  match set, unicode with
  | lettered set false, false => .ok set.bytes
  | lettered _ true, false => .error { span, cause := .invalidUtf8 }
  | lettered .., true => .error { span, cause := .letteredSetUnavailable }
  | property _, false => .error { span, cause := .unicodeNotAllowed }
  | property name, true => .error { span, cause := propertyCause name }

end ListedSet

def Literal.member (literal : Literal) (unicode : Bool) : Except Fault Char :=
  if unicode || decide (literal.character.toNat < 0x80) then .ok literal.character
  else if literal.byByte then .error { span := literal.span, cause := .invalidUtf8 }
  else .error { span := literal.span, cause := .unicodeNotAllowed }

mutual

def SetExpression.gather (switches : Switches) :
    SetExpression → Gathering → Except Fault Gathering
  | .nothing _, gathering => return gathering
  | .literal written, gathering => do
      let code := (← written.member switches.unicode).toNat
      return gathering.add ⟨code, code⟩
  | .range _ first last, gathering => do
      let first ← first.member switches.unicode
      let last ← last.member switches.unicode
      return gathering.add ⟨first.toNat, last.toNat⟩
  | .listed span set, gathering => do
      return gathering.union (.ofSet (← set.members span switches.unicode))
  | .named span set negated, gathering => do
      return gathering.union (← switches.complete span negated (.ofSet set))
  | .bracketed span negated content, gathering => do
      return gathering.union (← switches.complete span negated (← content.gather switches {}))
  | .union _ members, gathering => SetExpression.gatherAll switches members gathering
  | .operation _ kind left right, gathering => do
      let leftSet ← left.gather switches {}
      let rightSet ← right.gather switches {}
      let rightSet ← switches.fold right.span rightSet
      let leftSet ← switches.fold left.span leftSet
      return gathering.union (leftSet.operate kind rightSet)

def SetExpression.gatherAll (switches : Switches) :
    List SetExpression → Gathering → Except Fault Gathering
  | [], gathering => return gathering
  | member :: rest, gathering => do
      SetExpression.gatherAll switches rest (← member.gather switches gathering)

end

/-! ### Patterns -/

def Literal.pattern (literal : Literal) (switches : Switches) : Except Fault Pattern :=
  let character := literal.character
  if switches.unicode then
    if switches.ignoreCase then .error { span := literal.span, cause := .caseUnavailable }
    else .ok (.literal [character])
  else if literal.byByte && !decide (character.toNat < 0x80) then
    .error { span := literal.span, cause := .invalidUtf8 }
  else if switches.ignoreCase && character.isAlpha then
    .ok (ofSet false (.ofCharacters [character.toUpper, character.toLower]))
  else .ok (.literal [character])

def dotSet (switches : Switches) : CharacterSet :=
  if switches.dotMatchesNewline then .all
  else if switches.carriageReturns then (CharacterSet.ofCharacters ['\n', '\r']).complement
  else (CharacterSet.ofCharacters ['\n']).complement

def Condition.anchor (condition : Condition) (switches : Switches) : Anchor :=
  match condition with
  | textStart => .textStart
  | textEnd => .textEnd
  | lineStart => if switches.multiLine then .lineStart switches.carriageReturns else .textStart
  | lineEnd => if switches.multiLine then .lineEnd switches.carriageReturns else .textEnd
  | word boundary => .word boundary switches.unicode

mutual

def Expression.meaning : Expression → Switches → Except Fault (Pattern × Switches)
  | .nothing _, switches => return (.empty, switches)
  | .setting _ settings, switches => return (.empty, switches.apply settings)
  | .literal written, switches => return (← written.pattern switches, switches)
  | .dot span, switches =>
      if switches.unicode then return (ofSet true (dotSet switches), switches)
      else throw { span, cause := .invalidUtf8 }
  | .condition _ stated, switches => return (.anchor (stated.anchor switches), switches)
  | .listed span set, switches => do
      return (ofSet switches.unicode (← set.members span switches.unicode), switches)
  | .bracketed span negated content, switches => do
      let gathering ← switches.complete span negated (← content.gather switches {})
      return (ofSet switches.unicode gathering.set, switches)
  | .repeated _ body least most greedy, switches => do
      let (body, switches) ← body.meaning switches
      return (ofRepetition body least most (greedy != switches.swapGreed), switches)
  | .group _ (.capturing index) body, switches => do
      return (.capture index (← body.meaning switches).1, switches)
  | .group _ (.plain settings) body, switches => do
      return ((← body.meaning (switches.apply settings)).1, switches)
  | .sequence _ items, switches => do
      let (patterns, switches) ← Expression.meanings items switches
      return (ofSequence patterns, switches)
  | .alternatives _ branches, switches => do
      let (patterns, switches) ← Expression.meanings branches switches
      return (ofAlternatives patterns, switches)

def Expression.meanings : List Expression → Switches → Except Fault (List Pattern × Switches)
  | [], switches => return ([], switches)
  | item :: rest, switches => do
      let (pattern, switches) ← item.meaning switches
      let (patterns, switches) ← Expression.meanings rest switches
      return (pattern :: patterns, switches)

end

end Famicom.Pattern
