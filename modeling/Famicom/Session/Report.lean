import Famicom.Log.Trace
import Famicom.Session.Basic

namespace Famicom

namespace Image

def entries (image : ByteArray) : List LogEntry :=
  match Header.parse image with
  | .ok header => [{ level := .info, source := .cartridge, text := header.summary }]
  | .error _ => []

end Image

namespace Session

def pcText (session : Session) : String :=
  s!"${Numeral.hex 4 session.console.registers.pc.toNat}"

def haltEntry (error : CpuError) : LogEntry :=
  { level := .warn, source := .console, text := s!"halted: {error.message}" }

def eventEntries (session : Session) (event : Event) : List LogEntry :=
  let after := session.handle event
  match event with
  | .load image =>
      match Cartridge.load image with
      | .ok _ => Image.entries image ++
          [{ level := .info, source := .session, text := s!"cartridge loaded, pc {after.pcText}" }]
      | .error error =>
          [{ level := .error, source := .session, text := s!"load failed: {error.message}" }]
  | .reset => [{ level := .debug, source := .console, text := s!"reset, pc {after.pcText}" }]
  | _ => []

def eventsEntries (session : Session) : List Event → List LogEntry
  | [] => []
  | event :: rest => session.eventEntries event ++ (session.handle event).eventsEntries rest

def restEntries (before after : Session) (tracing : Bool) : List LogEntry :=
  if before.stepRequested then
    let traced := if tracing then before.console.traceEntries else []
    match after.console.halted with
    | none =>
        let cycles := after.console.bus.cycles - before.console.bus.cycles
        traced ++ [{ level := .info, source := .session
                     text := s!"{cycles} cycles, {after.console.registers.describe}" }]
    | some error =>
        let halt := if before.console.halted.isSome then [] else [haltEntry error]
        traced ++ halt ++ [{ level := .warn, source := .session, text := error.message }]
  else []

def frameEntries (before after : Session) (limits : SessionLimits) (tracing : Bool) :
    List LogEntry :=
  let stopped :=
    if before.console.bus.published.stopRequested then
      [{ level := .debug, source := .console
         text := s!"stop requested at cycle {before.console.bus.cycles}" }]
    else []
  let traced := if tracing then before.console.traceFrame else []
  let halted :=
    match after.console.halted with
    | none => []
    | some error =>
        haltEntry error ::
          if limits.stopOnHalt then []
          else [{ level := .info, source := .session, text := "halted, `start` skips the opcode" }]
  stopped ++ traced ++ halted

def turnEntries (session : Session) (limits : SessionLimits) (events : List Event)
    (tracing : Bool) (after : Session) : List LogEntry :=
  let handled := session.handleAll events
  session.eventsEntries events ++
    if handled.isOver limits then []
    else if handled.isResting then handled.restEntries after tracing
    else handled.frameEntries after limits tracing

def loggedTurn (session : Session) (limits : SessionLimits) (events : List Event)
    (tracing : Bool) : Turn × List LogEntry :=
  let turn := session.turn limits events
  (turn, session.turnEntries limits events tracing turn.session)

def loggedDeliver (session : Session) (limits : SessionLimits) (events : List Event)
    (tracing : Bool) : Nat → Turn × List LogEntry
  | 0 => session.loggedTurn limits events tracing
  | turns + 1 =>
      match session.loggedTurn limits events tracing with
      | ({ session, activity := .running }, entries) =>
          let (turn, later) := session.loggedDeliver limits [] tracing turns
          (turn, entries ++ later)
      | settled => settled

def summaryEntry (session : Session) : LogEntry :=
  let registers := session.console.registers
  let byte (value : UInt8) := "$" ++ Numeral.hex 2 value.toNat
  { level := .info, source := .commandLine
    text := String.join [toString session.frames, " frames, ",
      toString session.console.bus.cycles, " cycles, pc ", session.pcText, " a ",
      byte registers.a, " x ", byte registers.x, " y ", byte registers.y, " sp ",
      byte registers.sp, " p ", registers.p.text] }

end Session

end Famicom
