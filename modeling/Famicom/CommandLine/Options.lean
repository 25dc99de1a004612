namespace Famicom.CommandLine

structure Options where
  image : String
  /-- Frames to run; without a number a session that is not interactive runs sixty. -/
  frames : Option Nat := none
  interactive : Bool := false
  dump : Option String := none
  /-- Milliseconds between reports on the running machine, zero for none. -/
  monitor : Nat := 1000
  deriving DecidableEq

inductive UsageError
  | helpRequested
  | unknownOption (name : String)
  | missingValue (name : String)
  | unexpectedValue (name : String)
  | invalidValue (name value : String)
  | repeatedOption (name : String)
  | missingImage
  | unexpectedArgument (argument : String)
  deriving DecidableEq

namespace UsageError

def message : UsageError → String
  | helpRequested => "usage: dot [OPTIONS] <ROM>"
  | unknownOption name => s!"error: unexpected argument '{name}' found"
  | missingValue name => s!"error: a value is required for '{name}' but none was supplied"
  | unexpectedValue name => s!"error: unexpected value for '{name}' found"
  | invalidValue name value => s!"error: invalid value '{value}' for '{name}'"
  | repeatedOption name => s!"error: the argument '{name}' cannot be used multiple times"
  | missingImage => "error: the required argument <ROM> was not provided"
  | unexpectedArgument argument => s!"error: unexpected argument '{argument}' found"

def exitCode : UsageError → Nat
  | helpRequested => 0
  | _ => 2

end UsageError

structure Draft where
  image : Option String := none
  frames : Option Nat := none
  interactive : Bool := false
  dump : Option String := none
  monitor : Option Nat := none

namespace Draft

/-- Decimal digits, after an optional plus sign, that fit into 64 bits. -/
def number? (text : String) : Option Nat :=
  let digits := match text.toList with
    | '+' :: rest => rest
    | characters => characters
  if digits.isEmpty || !digits.all Char.isDigit then none
  else
    let value := digits.foldl (fun value digit => value * 10 + (digit.toNat - '0'.toNat)) 0
    if value < 0x10000000000000000 then some value else none

def setFrames (draft : Draft) (name value : String) : Except UsageError Draft :=
  match draft.frames, number? value with
  | some _, _ => .error (.repeatedOption name)
  | none, some frames => .ok { draft with frames := some frames }
  | none, none => .error (.invalidValue name value)

def setMonitor (draft : Draft) (name value : String) : Except UsageError Draft :=
  match draft.monitor, number? value with
  | some _, _ => .error (.repeatedOption name)
  | none, some interval => .ok { draft with monitor := some interval }
  | none, none => .error (.invalidValue name value)

def setDump (draft : Draft) (name value : String) : Except UsageError Draft :=
  if draft.dump.isSome then .error (.repeatedOption name)
  else if value.isEmpty then .error (.invalidValue name value)
  else .ok { draft with dump := some value }

def setInteractive (draft : Draft) (name : String) : Except UsageError Draft :=
  if draft.interactive then .error (.repeatedOption name)
  else .ok { draft with interactive := true }

def setImage (draft : Draft) (path : String) : Except UsageError Draft :=
  if draft.image.isSome then .error (.unexpectedArgument path)
  else if path.isEmpty then .error (.invalidValue "<ROM>" path)
  else .ok { draft with image := some path }

end Draft

def valueOption? (name : String) : Option (Draft → String → String → Except UsageError Draft) :=
  if name = "--frames" ∨ name = "-f" then some Draft.setFrames
  else if name = "--dump" ∨ name = "-d" then some Draft.setDump
  else if name = "--monitor" ∨ name = "-m" then some Draft.setMonitor
  else none

def takeValue (name : String) (arguments : List String) :
    Except UsageError (String × List String) :=
  match arguments with
  | [] => .error (.missingValue name)
  | value :: rest =>
      if value.startsWith "-" && value != "-" then .error (.missingValue name)
      else .ok (value, rest)

def readLong (draft : Draft) (argument : String) (rest : List String) :
    Except UsageError (Draft × List String) :=
  let name := String.ofList (argument.toList.takeWhile (· != '='))
  let attached := argument.toList.dropWhile (· != '=')
  match valueOption? name with
  | some set => do
      let (value, rest) ← match attached with
        | [] => takeValue name rest
        | _ :: value => .ok (String.ofList value, rest)
      let draft ← set draft name value
      return (draft, rest)
  | none =>
      if name = "--interactive" then
        if attached.isEmpty then do
          let draft ← draft.setInteractive name
          return (draft, rest)
        else .error (.unexpectedValue name)
      else if name = "--help" then .error .helpRequested
      else .error (.unknownOption argument)

/-- The letters of one argument that begins with a hyphen. An option that takes a value takes the
rest of the letters, or the next argument if there are none. -/
def readShort (draft : Draft) (rest : List String) :
    List Char → Except UsageError (Draft × List String)
  | [] => .ok (draft, rest)
  | letter :: letters =>
      let name := String.ofList ['-', letter]
      match valueOption? name with
      | some set => do
          let (value, rest) ← match letters with
            | [] => takeValue name rest
            | '=' :: value => .ok (String.ofList value, rest)
            | value => .ok (String.ofList value, rest)
          let draft ← set draft name value
          return (draft, rest)
      | none =>
          if letter = 'i' then do
            let draft ← draft.setInteractive name
            readShort draft rest letters
          else if letter = 'h' then .error .helpRequested
          else .error (.unknownOption name)

/-- All arguments in turn; two hyphens alone make the rest paths. Every step uses up an argument, so
their number bounds the steps. -/
def readAll (draft : Draft) : List String → Nat → Except UsageError Draft
  | [], _ => .ok draft
  | _, 0 => .ok draft
  | argument :: rest, steps + 1 =>
      if argument = "--" then rest.foldlM Draft.setImage draft
      else if argument.startsWith "--" then do
        let (draft, rest) ← readLong draft argument rest
        readAll draft rest steps
      else if argument.startsWith "-" && argument != "-" then do
        let (draft, rest) ← readShort draft rest (argument.toList.drop 1)
        readAll draft rest steps
      else do
        let draft ← draft.setImage argument
        readAll draft rest steps

def Options.parse (arguments : List String) : Except UsageError Options := do
  let draft ← readAll {} arguments arguments.length
  match draft.image with
  | none => .error .missingImage
  | some image =>
      return { image, frames := draft.frames, interactive := draft.interactive,
               dump := draft.dump, monitor := draft.monitor.getD 1000 }

end Famicom.CommandLine
