import Famicom.Pattern.CharacterSet
import Famicom.Pattern.Fault

namespace Famicom.Pattern

structure Literal where
  span : Span
  character : Char
  byByte : Bool
  deriving DecidableEq

inductive LetteredSet
  | digit
  | blank
  | word
  deriving DecidableEq

inductive ListedSet
  | lettered (set : LetteredSet) (negated : Bool)
  | property (name : List Char)
  deriving DecidableEq

inductive WordBoundary
  | change
  | noChange
  | start
  | stop
  | startHalf
  | stopHalf
  deriving DecidableEq

inductive Condition
  | textStart
  | textEnd
  | lineStart
  | lineEnd
  | word (boundary : WordBoundary)
  deriving DecidableEq

inductive Flag
  | ignoreCase
  | multiLine
  | dotMatchesNewline
  | swapGreed
  | unicode
  | carriageReturns
  | verbose
  deriving DecidableEq

abbrev Settings := List (Flag × Bool)

inductive SetExpression
  | nothing (span : Span)
  | literal (written : Literal)
  | range (span : Span) (first last : Literal)
  | listed (span : Span) (set : ListedSet)
  | named (span : Span) (set : CharacterSet) (negated : Bool)
  | bracketed (span : Span) (negated : Bool) (content : SetExpression)
  | union (span : Span) (members : List SetExpression)
  | operation (span : Span) (operation : CharacterSet.Operation) (left right : SetExpression)

def SetExpression.span : SetExpression → Span
  | nothing span | range span .. | listed span .. | named span .. | bracketed span ..
  | union span .. | operation span .. => span
  | literal written => written.span

inductive GroupKind
  | capturing (index : Nat)
  | plain (settings : Settings)
  deriving DecidableEq

inductive Expression
  | nothing (span : Span)
  | setting (span : Span) (settings : Settings)
  | literal (written : Literal)
  | dot (span : Span)
  | condition (span : Span) (condition : Condition)
  | listed (span : Span) (set : ListedSet)
  | bracketed (span : Span) (negated : Bool) (content : SetExpression)
  | repeated (span : Span) (body : Expression) (least : Nat) (most : Option Nat) (greedy : Bool)
  | group (span : Span) (kind : GroupKind) (body : Expression)
  | sequence (span : Span) (items : List Expression)
  | alternatives (span : Span) (branches : List Expression)

def Expression.span : Expression → Span
  | nothing span | setting span _ | dot span | condition span _ | listed span _
  | bracketed span .. | repeated span .. | group span .. | sequence span _
  | alternatives span _ => span
  | literal written => written.span

mutual

def SetExpression.tooDeep? : SetExpression → Nat → Option Span
  | .bracketed span _ _, 0 | .union span _, 0 | .operation span .., 0 => some span
  | .bracketed _ _ content, levels + 1 => content.tooDeep? levels
  | .union _ members, levels + 1 => SetExpression.anyTooDeep? members levels
  | .operation _ _ left right, levels + 1 => left.tooDeep? levels <|> right.tooDeep? levels
  | _, _ => none

def SetExpression.anyTooDeep? : List SetExpression → Nat → Option Span
  | [], _ => none
  | member :: rest, levels => member.tooDeep? levels <|> SetExpression.anyTooDeep? rest levels

end

mutual

/-- The first part that lies deeper than so many levels. Brackets, groups and repetitions are
levels, and so are sequences of several items and alternatives. -/
def Expression.tooDeep? : Expression → Nat → Option Span
  | .bracketed span .., 0 | .repeated span .., 0 | .group span .., 0 | .sequence span _, 0
  | .alternatives span _, 0 => some span
  | .bracketed _ _ content, levels + 1 => content.tooDeep? levels
  | .repeated _ body .., levels + 1 | .group _ _ body, levels + 1 => body.tooDeep? levels
  | .sequence _ items, levels + 1 => Expression.anyTooDeep? items levels
  | .alternatives _ branches, levels + 1 => Expression.anyTooDeep? branches levels
  | _, _ => none

def Expression.anyTooDeep? : List Expression → Nat → Option Span
  | [], _ => none
  | item :: rest, levels => item.tooDeep? levels <|> Expression.anyTooDeep? rest levels

end

def Expression.levelLimit : Nat := 250

end Famicom.Pattern
