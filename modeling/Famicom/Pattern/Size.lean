import Famicom.Pattern.Encoding
import Famicom.Pattern.Texts

/-!
How large a machine is that searches for a pattern by going from state to state with the bytes of a
text, and the limit on that size. A search has two machines, one of which reads backwards.
-/

namespace Famicom.Pattern

namespace Size

def state : Nat := 32

def choice (ways : Nat) : Nat := state + 8 * ways

def fork (ways : Nat) : Nat := state + 4 * ways

def limit : Nat := 10 * 1024 * 1024

def ofSet (backward : Bool) (set : CharacterSet) : Nat :=
  let stop := state
  if set.isAscii then stop + choice set.ranges.length
  else
    let encodings := Encoding.ofSet set
    if backward then
      fork encodings.length + stop + state * Encoding.beginnings Encoding.longest encodings
    else
      (Encoding.states Encoding.longest encodings).eraseDups.foldl (fun size encodings =>
        size + choice (fronts encodings).length) stop

def chunks {Item : Type} (lists : List (List Item)) : List (List (List Item)) :=
  (lists.splitBy fun list other => list.isEmpty == other.isEmpty).filter fun chunk =>
    !chunk.any List.isEmpty

/-- The size of the states that follow texts on, with ways on in the order of the texts. A text that
has ended is a way on too; that several end before any goes on counts once. -/
def ofEndings : Nat → List (List UInt8) → Nat
  | 0, _ => 0
  | length + 1, texts =>
      if texts.all List.isEmpty then 0
      else
        let ends := (texts.dropWhile List.isEmpty).countP List.isEmpty +
          if (texts.head?).any List.isEmpty then 1 else 0
        let chunks := chunks texts
        chunks.foldl (fun size chunk =>
          let bytes := fronts chunk
          bytes.foldl (fun size byte => size + ofEndings length (behind byte chunk))
            (size + if bytes.length = 1 then state else choice bytes.length))
          (fork (chunks.length + ends))

def ofTexts (backward : Bool) (texts : List (List Char)) : Nat :=
  let texts := texts.map fun text => if backward then (bytes text).reverse else bytes text
  state + ofEndings ((texts.map List.length).foldl max 0 + 1) texts

def ofRepetition (body : Nat) (bodyTakesText : Bool) (least : Nat) : Option Nat → Nat
  | none =>
      if least = 0 then
        if bodyTakesText then fork 2 + body else body + 2 * fork 2 + state
      else body * least + fork 2
  | some most =>
      if least = 0 ∧ most = 1 then fork 2 + body + state
      else
        let required := if least = 0 then state else body * least
        if least = most then required
        else required + state + (most - least) * (fork 2 + body)

end Size

def isEither : Pattern → Bool
  | either .. => true
  | _ => false

def text? : Pattern → Option (List Char)
  | literal text => some text
  | _ => none

/-- The size of the part of the machine that a pattern takes. What comes behind the first of some
alternatives is counted as a part of them. -/
def size (backward : Bool) (behindFirst : Bool) : Pattern → Nat
  | empty | anchor _ => Size.state
  | literal text => Size.state * (bytes text).length
  | oneOf _ set => Size.ofSet backward set
  | repeated body least most _ =>
      Size.ofRepetition (body.size backward false) (body.leastLength?.any (0 < ·)) least most
  | capture _ body => (if backward then 0 else 2 * Size.state) + body.size backward false
  | sequence first rest => first.size backward false + rest.size backward false
  | either first rest =>
      match if behindFirst then none else (either first rest).branches.mapM text? with
      | some texts => Size.ofTexts backward texts
      | none =>
          (if behindFirst then 0 else Size.fork 0 + Size.state) +
            (4 + first.size backward false) + (if rest.isEither then 0 else 4) +
            rest.size backward true

def needsStart : Pattern → Bool
  | anchor .textStart => true
  | repeated body least _ _ => decide (0 < least) && body.needsStart
  | capture _ body => body.needsStart
  | sequence first rest => first.needsStart || (first.onlyEmpty && rest.needsStart)
  | either first rest => first.needsStart && rest.needsStart
  | _ => false

def needsEnd : Pattern → Bool
  | anchor .textEnd => true
  | repeated body least _ _ => decide (0 < least) && body.needsEnd
  | capture _ body => body.needsEnd
  | sequence first rest => rest.needsEnd || (rest.onlyEmpty && first.needsEnd)
  | either first rest => first.needsEnd && rest.needsEnd
  | _ => false

/-- There is no table of the characters that make up words. -/
def isSearchable : Pattern → Bool
  | empty | literal _ | oneOf .. => true
  | anchor condition =>
      match condition with
      | .word _ unicode => !unicode
      | _ => true
  | repeated body .. | capture _ body => body.isSearchable
  | sequence first rest | either first rest => first.isSearchable && rest.isSearchable

/-- The size of a whole machine. Unless it starts at an end of the text it first passes over any
bytes; the one that reads forward keeps both ends of the match. -/
def machineSize (backward : Bool) (pattern : Pattern) : Nat :=
  let anchored := if backward then pattern.needsEnd else pattern.needsStart
  let lead := if anchored then Size.state else Size.fork 2 + Size.state + Size.choice 1
  let ends := if backward then 0 else 2 * Size.state
  let accept := Size.state
  lead + ends + pattern.size backward false + accept

end Famicom.Pattern
