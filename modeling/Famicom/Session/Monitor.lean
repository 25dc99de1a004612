import Famicom.Log.Basic
import Famicom.Session.Basic

namespace Famicom

structure Monitor where
  /-- Milliseconds between two reports. -/
  interval : Nat
  due : Nat
  cycles : Nat

namespace Monitor

def start? (interval now : Nat) (published : Published) : Option Monitor :=
  if interval = 0 then none
  else some { interval, due := now + interval, cycles := published.cycles }

/-- Eight times the frequency of the processor, which is no whole number. -/
def cyclesInEightSeconds : Nat := 14318181

/-- Hundredths of full speed since the last report. -/
def speed (monitor : Monitor) (cycles : Nat) : Nat :=
  Numeral.nearest ((cycles - monitor.cycles) * 8 * 1000 * 100)
    (monitor.interval * cyclesInEightSeconds)

def report (monitor : Monitor) (published : Published) : LogEntry :=
  let ppu := published.ppu
  let speed := monitor.speed published.cycles
  let byte (value : UInt8) := "$" ++ Numeral.hex 2 value.toNat
  { level := .info, source := .monitor
    text := String.join ["frame ", toString ppu.frame, " line ", Numeral.aligned 3 ppu.line,
      " dot ", Numeral.aligned 3 ppu.dot, " cycle ", toString published.cycles, " (",
      toString (speed / 100), ".", Numeral.decimal 2 (speed % 100), "x) v $",
      Numeral.hex 4 ppu.address, " ctrl ", byte ppu.control, " mask ", byte ppu.mask, " status ",
      byte ppu.status, " bus ", byte published.openBus] }

def observe (monitor : Monitor) (now : Nat) (published : Published) : List LogEntry × Monitor :=
  if now < monitor.due then ([], monitor)
  else ([monitor.report published],
    { monitor with due := now + monitor.interval, cycles := published.cycles })

end Monitor

end Famicom
