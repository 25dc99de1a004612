import Famicom.CommandLine.Program
import Famicom.Session.Monitor

namespace Famicom.Terminal

open CommandLine

/-- Some codes come negated. -/
def ofCode (code : UInt32) (description : String) : FileError :=
  match (if code < 0x80000000 then code else 0 - code).toNat with
  | 2 => .notFound
  | 20 => .notADirectory
  | 21 => .isADirectory
  | 28 => .noSpace
  | 36 => .nameTooLong
  | number => .other description number

def fileError : IO.Error → FileError
  | .noFileOrDirectory _ code description | .inappropriateType _ code description
  | .invalidArgument _ code description | .permissionDenied _ code description
  | .resourceExhausted _ code description | .resourceBusy code description
  | .unsatisfiedConstraints code description | .illegalOperation code description
  | .hardwareFault code description | .otherError code description => ofCode code description
  | error => .other (toString error) 0

def attempt {Result : Type} (path : String) (action : IO Result) :
    IO (Except FileError Result) := do
  if path.toList.contains '\x00' then return .error .nulInName
  try return .ok (← action)
  catch error => return .error (fileError error)

def readFile (path : String) : IO (Except FileError ByteArray) :=
  attempt path (IO.FS.readBinFile path)

def writeFile (path : String) (contents : ByteArray) : IO (Except FileError Unit) :=
  attempt path (IO.FS.writeBinFile path contents)

def log (filter : LogFilter) (entries : List LogEntry) : IO Unit :=
  (entries.filter filter.shows).forM fun entry => IO.eprint entry.render

partial def readCommands (filter : LogFilter) (queue : IO.Ref (List Event)) : IO Unit := do
  let line ← (← IO.getStdin).getLine
  if line.isEmpty then queue.modify (· ++ [.quit])
  else
    let contents ← match Prompt.path? line with
      | some path => readFile path
      | none => pure (.error .notFound)
    match Prompt.parse (fun _ => contents) line with
    | .ok none => readCommands filter queue
    | .ok (some event) =>
        queue.modify (· ++ [event])
        match event with
        | .quit => return ()
        | _ => readCommands filter queue
    | .error error =>
        log filter [commandEntry error]
        readCommands filter queue

def observe (filter : LogFilter) (monitor : Monitor) (session : Session) : IO Monitor := do
  let (reports, monitor) := monitor.observe (← IO.monoMsNow) session.console.bus.published
  log filter reports
  return monitor

/-- Turns until the session ends. A session that rests looks for events every five milliseconds. -/
partial def runSession (session : Session) (limits : SessionLimits) (filter : LogFilter)
    (queue : IO.Ref (List Event)) (monitor : Option Monitor) : IO Turn := do
  let events ← queue.modifyGet fun events => (events, [])
  let (turn, entries) := session.loggedTurn limits events filter.traces
  log filter entries
  let monitor ← monitor.mapM fun monitor => observe filter monitor turn.session
  if turn.session.console.bus.faulted then return turn
  match turn.activity with
  | .ended _ => return turn
  | .resting =>
      IO.sleep 5
      runSession turn.session limits filter queue monitor
  | .running => runSession turn.session limits filter queue monitor

def host (options : Options) (filter : LogFilter) : Host IO where
  readFile := readFile
  writeFile := writeFile
  log := log filter
  print line := IO.println line
  play session := do
    let queue ← IO.mkRef []
    if options.interactive then
      let _ ← IO.asTask (readCommands filter queue) .dedicated
    let published := session.console.bus.published
    let monitor := Monitor.start? options.monitor (← IO.monoMsNow) published
    runSession session options.limits filter queue monitor

end Famicom.Terminal

def main (arguments : List String) : IO UInt32 := do
  let specification := (← IO.getEnv "RUST_LOG").getD "info"
  let (filter, warnings) := Famicom.LogFilter.parse specification
  warnings.forM fun warning => IO.eprint warning.render
  match Famicom.CommandLine.Options.parse arguments with
  | .error error =>
      IO.eprintln error.message
      return UInt32.ofNat error.exitCode
  | .ok options =>
      match ← (Famicom.Terminal.host options filter).run options with
      | none => return 0
      | some failure =>
          IO.eprint failure.render
          return 1
