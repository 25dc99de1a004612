import Famicom.Session.Basic
import Famicom.Session.FileError
import Famicom.Text.Words

namespace Famicom

inductive CommandError
  | unknown (word : String)
  | missingPath
  | unreadable (path : String) (error : FileError)
  deriving DecidableEq

def CommandError.message : CommandError → String
  | unknown word => s!"unknown command `{word}`"
  | missingPath => "load needs a path"
  | unreadable path error => s!"failed to read {path}: {error.message}"

namespace Prompt

abbrev ReadFile := String → Except FileError ByteArray

def path? (line : String) : Option String :=
  match Text.words line with
  | word :: path :: _ => if word = "l" ∨ word = "load" then some path else none
  | _ => none

/-- A blank line asks for nothing. Words after the ones that a command needs are ignored. -/
def parse (readFile : ReadFile) (line : String) : Except CommandError (Option Event) :=
  match Text.words line with
  | [] => .ok none
  | word :: arguments =>
      if word = "s" ∨ word = "start" then .ok (some .start)
      else if word = "p" ∨ word = "pause" then .ok (some .pause)
      else if word = "n" ∨ word = "step" then .ok (some .step)
      else if word = "r" ∨ word = "reset" then .ok (some .reset)
      else if word = "q" ∨ word = "quit" then .ok (some .quit)
      else if word = "l" ∨ word = "load" then
        match arguments with
        | [] => .error .missingPath
        | path :: _ =>
            match readFile path with
            | .ok image => .ok (some (.load image))
            | .error error => .error (.unreadable path error)
      else .error (.unknown word)

/-- The events that lines of input send, and the lines that were refused. The first quit ends them;
so does the end of the input, which quits too. -/
def forward (readFile : ReadFile) : List String → List Event × List CommandError
  | [] => ([.quit], [])
  | line :: rest =>
      match parse readFile line with
      | .ok none => forward readFile rest
      | .ok (some .quit) => ([.quit], [])
      | .ok (some event) =>
          let (events, errors) := forward readFile rest
          (event :: events, errors)
      | .error error =>
          let (events, errors) := forward readFile rest
          (events, error :: errors)

end Prompt

end Famicom
