/-!
What is left of a text when control characters and control sequences for a terminal are taken out of
it. Text without any comes through unchanged.
-/

namespace Famicom.Text

inductive ControlState
  | ground
  | escape
  | escapeIntermediate
  | sequence
  | deviceEntry
  | deviceParameter
  | deviceIntermediate
  | deviceString
  | command
  deriving DecidableEq

namespace ControlState

def between (first last : Nat) (character : Char) : Bool :=
  decide (first ≤ character.toNat) && decide (character.toNat ≤ last)

def isLayout (character : Char) : Bool :=
  character == '\t' || character == '\n' || character == '\x0c' || character == '\r'

/-- Layout characters work inside short sequences too; all other text is shown on the ground
alone. -/
def shows (state : ControlState) (character : Char) : Bool :=
  match state with
  | ground => isLayout character || between 0x20 0x7e character || between 0x80 0x10ffff character
  | escape | escapeIntermediate | sequence => isLayout character
  | _ => false

def terminates (character : Char) : Bool :=
  decide (0x80 ≤ character.toNat) && (String.utf8EncodeChar character).contains 0x9c

/-- Cancel and substitute break off every sequence, and escape begins a new one in every state. -/
def next (state : ControlState) (character : Char) : ControlState :=
  if character = '\x18' ∨ character = '\x1a' then ground
  else if character = '\x1b' then escape
  else
    match state with
    | ground => ground
    | escape =>
        if between 0x20 0x2f character then escapeIntermediate
        else if character = '[' then sequence
        else if character = ']' then command
        else if character = 'P' then deviceEntry
        else if character = 'X' ∨ character = '^' ∨ character = '_' then deviceString
        else if between 0x30 0x7e character then ground
        else escape
    | escapeIntermediate => if between 0x30 0x7e character then ground else escapeIntermediate
    | sequence => if between 0x40 0x7e character then ground else sequence
    | deviceEntry =>
        if between 0x20 0x2f character then deviceIntermediate
        else if between 0x30 0x3f character then deviceParameter
        else if between 0x40 0x7e character then deviceString
        else deviceEntry
    | deviceParameter =>
        if between 0x20 0x2f character then deviceIntermediate
        else if between 0x30 0x3b character then deviceParameter
        else if between 0x3c 0x7e character then deviceString
        else deviceParameter
    | deviceIntermediate =>
        if between 0x30 0x7e character then deviceString else deviceIntermediate
    | deviceString => if terminates character then ground else deviceString
    | command => if character = '\x07' then ground else command

end ControlState

/-- Once a character is shown, so are the ones behind it up to the next that the ground does not
show; only then does the state decide again. -/
def visibleFrom (showing : Bool) (state : ControlState) : List Char → List Char
  | [] => []
  | character :: rest =>
      if (showing && ControlState.ground.shows character) || state.shows character then
        character :: visibleFrom true (if character.toNat < 0x80 then state else .ground) rest
      else visibleFrom false (state.next character) rest

def visible (text : String) : String :=
  String.ofList (visibleFrom false .ground text.toList)

theorem visibleFrom_eq_self (showing : Bool) (characters : List Char)
    (shown : ∀ character ∈ characters, ControlState.ground.shows character = true) :
    visibleFrom showing .ground characters = characters := by
  induction characters generalizing showing with
  | nil => rfl
  | cons character rest ih =>
      have first := shown character (List.mem_cons_self ..)
      have later := ih true fun other member => shown other (List.mem_cons_of_mem _ member)
      simp [visibleFrom, first, later]

end Famicom.Text
