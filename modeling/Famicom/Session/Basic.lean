import Famicom.Console

/-!
A session runs a console turn by turn: each turn takes in the events that have arrived, then runs a
frame, or a single step if one was asked for while the console rests.
-/

namespace Famicom

inductive Event
  | load (image : ByteArray)
  | reset
  | pause
  | start
  | step
  | quit

structure Session where
  console : Console
  frames : Nat := 0
  stepRequested : Bool := false
  quitRequested : Bool := false

structure SessionLimits where
  frames : Option Nat
  /-- End with the error when the console halts, instead of waiting for events. -/
  stopOnHalt : Bool

inductive Activity
  | running
  | resting
  | ended (error : Option CpuError)
  deriving DecidableEq

structure Turn where
  session : Session
  activity : Activity

namespace Session

def new (cartridge : Cartridge) : Session where
  console := Console.new cartridge

/-- Starting leaves a halt as well as a pause; a step pauses first. An image that is refused changes
nothing. -/
def handle (session : Session) : Event → Session
  | .load image =>
      match session.console.load image with
      | .ok console => { session with console, frames := 0 }
      | .error _ => session
  | .reset => { session with console := session.console.reset }
  | .pause => { session with console := session.console.pause }
  | .start => { session with console := session.console.resume.start }
  | .step => { session with console := session.console.pause, stepRequested := true }
  | .quit => { session with quitRequested := true }

def handleAll (session : Session) (events : List Event) : Session :=
  events.foldl handle session

def isOver (session : Session) (limits : SessionLimits) : Bool :=
  session.quitRequested ||
    match limits.frames with
    | some count => decide (count ≤ session.frames)
    | none => false

def isResting (session : Session) : Bool :=
  session.console.paused || session.console.halted.isSome

def rest (session : Session) : Session :=
  if session.stepRequested then
    { session with console := session.console.step.2, stepRequested := false }
  else session

def runFrame (session : Session) (limits : SessionLimits) : Turn :=
  let frame := session.console.frame
  match session.console.runFrame with
  | (.ok _, console) =>
      let frames := if console.frame = frame then session.frames else session.frames + 1
      { session := { session with console, frames }, activity := .running }
  | (.error error, console) =>
      { session := { session with console }
        activity := if limits.stopOnHalt then .ended (some error) else .running }

def turn (session : Session) (limits : SessionLimits) (events : List Event) : Turn :=
  let session := session.handleAll events
  if session.isOver limits then { session, activity := .ended none }
  else if session.isResting then { session := session.rest, activity := .resting }
  else session.runFrame limits

/-- Takes in events, then goes on without any until the session rests or ends, for at most so many
turns after the first. -/
def deliver (session : Session) (limits : SessionLimits) (events : List Event) : Nat → Turn
  | 0 => session.turn limits events
  | turns + 1 =>
      match session.turn limits events with
      | { session, activity := .running } => session.deliver limits [] turns
      | settled => settled

def requestStop (session : Session) : Session :=
  { session with console := session.console.requestStop }

end Session

end Famicom
