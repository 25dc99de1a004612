import Famicom.Pattern.Expression

/-!
Search patterns in the form in which they are measured and searched for. `ofSequence` and
`ofAlternatives` keep them simple: texts that follow each other are one text, a choice between
characters is a set, and what alternatives begin with in common stands before them once.
-/

namespace Famicom

inductive Anchor
  | textStart
  | textEnd
  | lineStart (carriageReturns : Bool)
  | lineEnd (carriageReturns : Bool)
  | word (boundary : Pattern.WordBoundary) (unicode : Bool)
  deriving DecidableEq

inductive Pattern
  | empty
  | literal (text : List Char)
  | oneOf (unicode : Bool) (set : CharacterSet)
  | anchor (anchor : Anchor)
  | repeated (body : Pattern) (least : Nat) (most : Option Nat) (greedy : Bool)
  | capture (index : Nat) (body : Pattern)
  | sequence (first rest : Pattern)
  | either (first rest : Pattern)
  deriving DecidableEq

namespace Pattern

def never : Pattern := oneOf false .none

def ofSet (unicode : Bool) (set : CharacterSet) : Pattern :=
  if set.isEmpty then never
  else
    match set.single? with
    | some character => literal [character]
    | none => oneOf unicode set

def onlyEmpty : Pattern → Bool
  | empty | anchor _ => true
  | literal text => text.isEmpty
  | oneOf .. => false
  | repeated body _ most _ => most.isSome && body.onlyEmpty
  | capture _ body => body.onlyEmpty
  | sequence first rest | either first rest => first.onlyEmpty && rest.onlyEmpty

def leastLength? : Pattern → Option Nat
  | empty | anchor _ => some 0
  | literal text => some text.length
  | oneOf _ set => if set.isEmpty then none else some 1
  | repeated body least _ _ => body.leastLength?.map (· * least)
  | capture _ body => body.leastLength?
  | sequence first rest =>
      match first.leastLength?, rest.leastLength? with
      | some length, some more => some (length + more)
      | _, _ => none
  | either first rest =>
      match first.leastLength?, rest.leastLength? with
      | some length, some other => some (min length other)
      | _, _ => none

def ofRepetition (body : Pattern) (least : Nat) (most : Option Nat) (greedy : Bool) : Pattern :=
  let (least, most) :=
    if body.onlyEmpty then (min least 1, some ((most.map (min · 1)).getD 1))
    else (least, most)
  if least = 0 ∧ most = some 0 then empty
  else if least = 1 ∧ most = some 1 then body
  else repeated body least most greedy

/-! ### Sequences -/

def parts : Pattern → List Pattern
  | empty => []
  | sequence first rest => first :: rest.parts
  | pattern => [pattern]

def ofParts : List Pattern → Pattern
  | [] => empty
  | [pattern] => pattern
  | pattern :: rest => sequence pattern (ofParts rest)

def joinTexts : List Pattern → List Pattern
  | [] => []
  | literal text :: rest =>
      match joinTexts rest with
      | literal more :: rest => literal (text ++ more) :: rest
      | rest => literal text :: rest
  | pattern :: rest => pattern :: joinTexts rest

def ofSequence (patterns : List Pattern) : Pattern := ofParts (joinTexts (patterns.flatMap parts))

/-! ### Alternatives -/

def branches : Pattern → List Pattern
  | either first rest => first :: rest.branches
  | pattern => [pattern]

def ofBranches : List Pattern → Pattern
  | [] => never
  | [pattern] => pattern
  | pattern :: rest => either pattern (ofBranches rest)

def character? : Pattern → Option Char
  | literal [character] => some character
  | _ => none

def set? : Pattern → Option CharacterSet
  | oneOf _ set => some set
  | _ => none

def choice? (patterns : List Pattern) : Option CharacterSet :=
  (patterns.mapM character?).map CharacterSet.ofCharacters <|>
    (patterns.mapM set?).map fun sets => sets.foldl .union .none

def merged (patterns : List Pattern) : Pattern :=
  match patterns.flatMap branches with
  | [] => never
  | [pattern] => pattern
  | patterns =>
      match choice? patterns with
      | some set => ofSet true set
      | none => ofBranches patterns

def sequenceParts : Pattern → List Pattern
  | sequence first rest => first :: rest.parts
  | _ => []

def sharedFront : List Pattern → List Pattern → List Pattern
  | first :: rest, other :: others => if first = other then first :: sharedFront rest others else []
  | _, _ => []

def commonFront : List Pattern → List Pattern
  | [] => []
  | first :: rest =>
      rest.foldl (fun front pattern => sharedFront front pattern.sequenceParts) first.sequenceParts

def ofAlternatives (patterns : List Pattern) : Pattern :=
  match merged patterns with
  | either first rest =>
      let patterns := (either first rest).branches
      match commonFront patterns with
      | [] => either first rest
      | front =>
          let endings := patterns.map fun pattern =>
            ofSequence (pattern.sequenceParts.drop front.length)
          ofSequence (front ++ [merged endings])
  | pattern => pattern

theorem parts_ofParts (patterns : List Pattern)
    (simple : ∀ pattern ∈ patterns, pattern.parts = [pattern]) :
    (ofParts patterns).parts = patterns := by
  induction patterns with
  | nil => rfl
  | cons pattern rest ih =>
      have first := simple pattern (List.mem_cons_self ..)
      cases rest with
      | nil => exact first
      | cons second rest =>
          simp [ofParts, parts, ih fun other member => simple other (List.mem_cons_of_mem _ member)]

theorem ofSequence_nil : ofSequence [] = empty := rfl

end Pattern

end Famicom
