import Famicom.Text.Visible

namespace Famicom

inductive LogLevel
  | error
  | warn
  | info
  | debug
  | trace
  deriving DecidableEq, Inhabited

namespace LogLevel

def name : LogLevel → String
  | error => "ERROR"
  | warn => "WARN"
  | info => "INFO"
  | debug => "DEBUG"
  | trace => "TRACE"

def rank : LogLevel → Nat
  | error => 1
  | warn => 2
  | info => 3
  | debug => 4
  | trace => 5

end LogLevel

inductive LogSource
  | commandLine
  | session
  | monitor
  | console
  | cartridge
  | mmc1
  | bus
  | processor
  deriving DecidableEq, Inhabited

def LogSource.target : LogSource → String
  | commandLine => "dot"
  | session => "dot::runner"
  | monitor => "dot::monitor"
  | console => "dot_nes::console"
  | cartridge => "dot_nes::cart"
  | mmc1 => "dot_nes::cart::mapper001"
  | bus => "dot_nes::bus"
  | processor => "dot_nes::cpu"

structure LogEntry where
  level : LogLevel
  source : LogSource
  text : String
  deriving DecidableEq

def LogEntry.indent (characters : List Char) : List Char :=
  characters.flatMap fun character =>
    if character = '\n' then ['\n', ' ', ' ', ' ', ' '] else [character]

def LogEntry.render (entry : LogEntry) : String :=
  let text := String.ofList (LogEntry.indent entry.text.toList)
  Text.visible s!"{entry.level.name} {entry.source.target}: {text}\n"

end Famicom
