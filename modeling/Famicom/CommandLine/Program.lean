import Famicom.CommandLine.Directory
import Famicom.CommandLine.Options
import Famicom.Log.Filter
import Famicom.Picture
import Famicom.Session.Prompt
import Famicom.Session.Report

/-!
A whole run of the program: read the image, run the session, report it and write the last frame. A
run that fails says why, with the cause on a line of its own. The run is one for every host, whether
that is a directory in memory or a real system.
-/

namespace Famicom.CommandLine

structure Failure where
  message : String
  cause : Option String := none
  deriving DecidableEq

def Failure.render (failure : Failure) : String :=
  match failure.cause with
  | none => s!"Error: {failure.message}\n"
  | some cause => s!"Error: {failure.message}\n\nCaused by:\n    {cause}\n"

def greeting : String := "commands: start, pause, step, reset, load <path>, quit"

def Options.limits (options : Options) : SessionLimits where
  frames := options.frames <|> (if options.interactive then none else some 60)
  stopOnHalt := !options.interactive

def insertImage (path : String) (image : Except FileError ByteArray) :
    Except Failure (Cartridge × List LogEntry) :=
  match image with
  | .error error => .error { message := s!"failed to read {path}", cause := some error.message }
  | .ok image =>
      match Cartridge.load image with
      | .error error => .error { message := s!"failed to load {path}", cause := some error.message }
      | .ok cartridge => .ok (cartridge, Image.entries image)

def writeFailure (path : String) (error : FileError) : Failure :=
  { message := s!"failed to write {path}", cause := some error.message }

def writtenEntry (path : String) : LogEntry :=
  { level := .info, source := .commandLine, text := s!"frame written to {path}" }

def commandEntry (error : CommandError) : LogEntry :=
  { level := .error, source := .commandLine, text := error.message }

def faultFailure : Failure := { message := "emulator thread panicked" }

def sessionFailure? (turn : Turn) : Option Failure :=
  if turn.session.console.bus.faulted then some faultFailure
  else
    match turn.activity with
    | .ended (some error) => some { message := error.message }
    | _ => none

/-! ## A run on a host -/

structure Host (m : Type → Type) where
  readFile : String → m (Except FileError ByteArray)
  writeFile : String → ByteArray → m (Except FileError Unit)
  log : List LogEntry → m Unit
  print : String → m Unit
  /-- Turns until the session ends or rests for good. -/
  play : Session → m Turn

namespace Host

variable {m : Type → Type} [Monad m] (host : Host m)

def afterWrite (path : String) : Except FileError Unit → m (Option Failure)
  | .ok _ => do
      host.log [writtenEntry path]
      return none
  | .error error => return some (writeFailure path error)

def dump (path : Option String) (picture : Memory 61440) : m (Option Failure) := do
  match path with
  | none => return none
  | some path => host.afterWrite path (← host.writeFile path (Picture.encode picture))

def close (options : Options) (turn : Turn) : m (Option Failure) := do
  match sessionFailure? turn with
  | some failure => return some failure
  | none =>
      host.log [turn.session.summaryEntry]
      host.dump options.dump turn.session.console.bus.ppu.picture

def begin (options : Options) (entries : List LogEntry) (cartridge : Cartridge) : m Turn := do
  host.log entries
  if options.interactive then host.print greeting
  host.play (Session.new cartridge)

def run (options : Options) : m (Option Failure) := do
  let image ← host.readFile options.image
  match insertImage options.image image with
  | .error failure => return some failure
  | .ok (cartridge, entries) =>
      let turn ← host.begin options entries cartridge
      host.close options turn

end Host

/-! ## A run in memory -/

structure Transcript where
  entries : List LogEntry := []
  output : List String := []
  failure : Option Failure := none
  directory : Directory

namespace Transcript

def ofOutcome (outcome : Option Failure × Transcript) : Transcript :=
  { outcome.2 with failure := outcome.1 }

def exitCode (transcript : Transcript) : Nat := if transcript.failure.isSome then 1 else 0

def report (transcript : Transcript) (filter : LogFilter) (warnings : List LogWarning) : String :=
  String.join (warnings.map LogWarning.render) ++
    String.join ((transcript.entries.filter filter.shows).map LogEntry.render) ++
    ((transcript.failure.map Failure.render).getD "")

def log (transcript : Transcript) (entries : List LogEntry) : Transcript :=
  { transcript with entries := transcript.entries ++ entries }

def print (transcript : Transcript) (line : String) : Transcript :=
  { transcript with output := transcript.output ++ [line] }

def write (transcript : Transcript) (path : String) (contents : ByteArray) :
    Except FileError Unit × Transcript :=
  match transcript.directory.write path contents with
  | .ok directory => (.ok (), { transcript with directory })
  | .error error => (.error error, transcript)

end Transcript

/-- A session ends, rests for good or runs through its frames, so two more turns than frames are
always enough. -/
def Options.turns (options : Options) : Nat := options.limits.frames.getD 0 + 2

/-- All lines of input have arrived before the session begins, and no time passes for the monitor to
report on. -/
def Options.play (options : Options) (input : List String) (tracing : Bool) (session : Session)
    (transcript : Transcript) : Turn × Transcript :=
  let (events, errors) :=
    if options.interactive then Prompt.forward transcript.directory.read input else ([], [])
  let (turn, entries) := session.loggedDeliver options.limits events tracing options.turns
  (turn, transcript.log (errors.map commandEntry ++ entries))

def Options.host (options : Options) (input : List String) (tracing : Bool) :
    Host (StateM Transcript) where
  readFile path := fun transcript => (transcript.directory.read path, transcript)
  writeFile path contents := fun transcript => transcript.write path contents
  log entries := modify (·.log entries)
  print line := modify (·.print line)
  play session := fun transcript => options.play input tracing session transcript

def run (options : Options) (directory : Directory) (input : List String) (tracing : Bool) :
    Transcript :=
  .ofOutcome (((options.host input tracing).run options).run { directory })

theorem run_eq (options : Options) (directory : Directory) (input : List String) (tracing : Bool) :
    run options directory input tracing =
      match insertImage options.image (directory.read options.image) with
      | .error failure => { failure := some failure, directory }
      | .ok (cartridge, entries) =>
          let output := if options.interactive then [greeting] else []
          let (turn, played) := options.play input tracing (Session.new cartridge)
            { entries, output, directory }
          .ofOutcome (((options.host input tracing).close options turn).run played) := by
  have ran : run options directory input tracing =
      .ofOutcome (StateT.run (match insertImage options.image (directory.read options.image) with
        | .error failure => pure (some failure)
        | .ok (cartridge, entries) => do
            let turn ← (options.host input tracing).begin options entries cartridge
            (options.host input tracing).close options turn) { directory }) := rfl
  rw [ran]
  cases insertImage options.image (directory.read options.image) with
  | error failure => rfl
  | ok inserted =>
      unfold Host.begin
      cases options.interactive with
      | true => rfl
      | false => rfl

end Famicom.CommandLine
