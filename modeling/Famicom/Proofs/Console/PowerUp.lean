import Famicom.Proofs.Bus.Observer
import Famicom.Proofs.Console.Run
import Famicom.Session.Basic

namespace Famicom

attribute [local irreducible] Bus.tick

/-! ## What an observer sees -/

def Published.marked (published : Published) (stop : Bool) : Published :=
  { published with stopRequested := stop }

namespace BusCycle

def publications (bus : Bus) : List BusCycle → List Published
  | [] => []
  | cycle :: rest =>
      bus.tick.published :: (perform bus cycle).published :: publications (perform bus cycle) rest

theorem publications_setStopRequested (bus : Bus) (stop : Bool) (cycles : List BusCycle) :
    publications (bus.setStopRequested stop) cycles =
      (publications bus cycles).map (·.marked stop) := by
  induction cycles generalizing bus with
  | nil => rfl
  | cons cycle rest continues =>
      simp only [publications, perform_setStopRequested, Bus.tick_setStopRequested, continues,
        List.map_cons]
      rfl

end BusCycle

inductive ConsoleOperation
  | step
  | reset
  | resume
  | setButtons (first second : Buttons)
  | tick
  | peek (address : UInt16)
  | readOperand (address : UInt16) (rule : OpenBusRule)
  | write (address : UInt16) (data : UInt8)
  | runTransfer
  | resetBus

structure Observation where
  answer : Except CpuError Nat
  published : List Published

def Observation.marked (observation : Observation) (stop : Bool) : Observation :=
  { observation with published := observation.published.map (·.marked stop) }

namespace Console

def withBus (console : Console) (bus : Bus) : Console :=
  { console with machine := { console.machine with bus } }

def marked (console : Console) (paused stop : Bool) : Console :=
  { console with paused, machine := console.machine.setStopRequested stop }

theorem carryRequests_setStopRequested (machine : Machine) (stop : Bool) :
    carryRequests (machine.setStopRequested stop) =
      (carryRequests machine).setStopRequested stop := by
  simp only [carryRequests_eq]
  rfl

theorem advance_setStopRequested (machine : Machine) (stop : Bool) :
    advance (machine.setStopRequested stop) =
      ((advance machine).1, (advance machine).2.setStopRequested stop) := by
  have bus : (machine.setStopRequested stop).bus = machine.bus.setStopRequested stop := rfl
  have transfer : (machine.bus.setStopRequested stop).transfer = machine.bus.transfer := rfl
  unfold advance
  rw [bus, transfer, Bus.runTransfer_setStopRequested, machine.step_setStopRequested]
  split <;> rfl

variable (console : Console) (paused stop : Bool)

theorem bus_marked : (console.marked paused stop).bus = console.bus.setStopRequested stop := rfl

theorem step_marked :
    (console.marked paused stop).step = (console.step.1, console.step.2.marked paused stop) := by
  have machine : (console.marked paused stop).machine = console.machine.setStopRequested stop := rfl
  have halted : (console.marked paused stop).halted = console.halted := rfl
  unfold step
  rw [machine, halted, advance_setStopRequested]
  cases console.halted with
  | some error => rfl
  | none =>
      rcases advance console.machine with ⟨result, advanced⟩
      cases result with
      | error error => rfl
      | ok cycles =>
          simp only [carryRequests_setStopRequested]
          rfl

theorem reset_marked :
    (console.marked paused stop).reset = console.reset.marked paused stop := by
  have bus : (console.marked paused stop).bus.reset = console.bus.reset.setStopRequested stop := rfl
  unfold reset
  rw [bus, Machine.resetCpu_setStopRequested]
  rfl

theorem resume_marked :
    (console.marked paused stop).resume = console.resume.marked paused stop := by
  have halted : (console.marked paused stop).halted = console.halted := rfl
  unfold resume
  rw [halted]
  cases console.halted with
  | some error => rfl
  | none => rfl

theorem busCycles_marked : (console.marked paused stop).busCycles = console.busCycles := by
  have machine : (console.marked paused stop).machine = console.machine.setStopRequested stop := rfl
  have halted : (console.marked paused stop).halted = console.halted := rfl
  have transfers : (console.marked paused stop).Transfers = console.Transfers := rfl
  unfold busCycles
  simp only [machine, halted, transfers, bus_marked, Machine.busCycles_setStopRequested,
    Bus.transferCycles_setStopRequested]

theorem withBus_marked (bus : Bus) :
    (console.marked paused stop).withBus (bus.setStopRequested stop) =
      (console.withBus bus).marked paused stop := rfl

theorem step_published {console : Console} (live : console.halted = none) :
    console.step.2.bus.published = (advance console.machine).2.bus.published := by
  unfold step
  rw [live]
  rcases advance console.machine with ⟨result, machine⟩
  cases result with
  | error error => rfl
  | ok cycles =>
      simp only [bus, carryRequests_eq]

end Console

namespace ConsoleOperation

def apply (console : Console) : ConsoleOperation → Except CpuError Nat × Console
  | step => console.step
  | reset => (.ok 0, console.reset)
  | resume => (.ok 0, console.resume)
  | setButtons first second => (.ok 0, console.setButtons first second)
  | tick => (.ok 0, console.withBus console.bus.tick)
  | peek address => (.ok (console.bus.peek address).toNat, console)
  | readOperand address rule =>
      (.ok (console.bus.readOperand address rule).1.toNat,
        console.withBus (console.bus.readOperand address rule).2)
  | write address data => (.ok 0, console.withBus (console.bus.write address data))
  | runTransfer => (.ok console.bus.runTransfer.1, console.withBus console.bus.runTransfer.2)
  | resetBus => (.ok 0, console.withBus console.bus.reset)

def startBus (console : Console) : ConsoleOperation → Bus
  | reset => console.bus.reset
  | _ => console.bus

def busCycles (console : Console) : ConsoleOperation → List BusCycle
  | step => console.busCycles
  | reset => Registers.resetSequence.schedule console.bus.reset
  | tick => [.idle]
  | readOperand address rule => [.load address rule]
  | write address data => [.store address data]
  | runTransfer => console.bus.transferCycles
  | resume | setButtons _ _ | peek _ | resetBus => []

def observe (console : Console) (operation : ConsoleOperation) : Observation where
  answer := (operation.apply console).1
  published := BusCycle.publications (operation.startBus console) (operation.busCycles console)

theorem replay_busCycles_published (console : Console) (operation : ConsoleOperation) :
    (BusCycle.replay (operation.startBus console) (operation.busCycles console)).published =
      (operation.apply console).2.bus.published := by
  cases operation with
  | step =>
      cases live : console.halted with
      | some error =>
          simp only [startBus, busCycles, apply, Console.busCycles, Console.step, live]
          rfl
      | none =>
          simp only [apply, Console.step_published live, Console.advance_bus live]
          rfl
  | reset => exact congrArg Bus.published (BusOperation.resetCpu_bus console.bus.reset).symm
  | resume =>
      simp only [apply, Console.resume]
      cases console.halted with
      | some error => rfl
      | none => rfl
  | setButtons first second => rfl
  | tick => rfl
  | peek address => rfl
  | readOperand address rule => rfl
  | write address data => rfl
  | runTransfer =>
      simp only [apply, Bus.runTransfer_bus]
      rfl
  | resetBus => rfl

variable (console : Console) (paused stop : Bool) (operation : ConsoleOperation)

theorem apply_marked :
    operation.apply (console.marked paused stop) =
      ((operation.apply console).1, (operation.apply console).2.marked paused stop) := by
  cases operation with
  | step => exact console.step_marked paused stop
  | reset => simp only [apply, Console.reset_marked]
  | resume => simp only [apply, Console.resume_marked]
  | setButtons first second => rfl
  | tick => simp only [apply, Console.bus_marked, Bus.tick_setStopRequested, Console.withBus_marked]
  | peek address => rfl
  | readOperand address rule =>
      simp only [apply, Console.bus_marked, Bus.readOperand_setStopRequested,
        Console.withBus_marked]
  | write address data =>
      simp only [apply, Console.bus_marked, Bus.write_setStopRequested, Console.withBus_marked]
  | runTransfer =>
      simp only [apply, Console.bus_marked, Bus.runTransfer_setStopRequested,
        Console.withBus_marked]
  | resetBus => rfl

theorem busCycles_marked :
    operation.busCycles (console.marked paused stop) = operation.busCycles console := by
  cases operation with
  | step => exact console.busCycles_marked paused stop
  | reset => exact Registers.resetSequence.schedule_setStopRequested console.bus.reset stop
  | runTransfer => exact console.bus.transferCycles_setStopRequested stop
  | _ => rfl

theorem startBus_marked :
    operation.startBus (console.marked paused stop) =
      (operation.startBus console).setStopRequested stop := by
  cases operation <;> rfl

theorem observe_marked :
    operation.observe (console.marked paused stop) = (operation.observe console).marked stop := by
  simp only [observe, apply_marked, busCycles_marked, startBus_marked,
    BusCycle.publications_setStopRequested]
  rfl

def observations (console : Console) : List ConsoleOperation → List Observation
  | [] => []
  | operation :: rest => operation.observe console :: observations (operation.apply console).2 rest

def run (console : Console) (operations : List ConsoleOperation) : Console :=
  operations.foldl (fun console operation => (apply console operation).2) console

theorem observations_marked (operations : List ConsoleOperation) :
    observations (console.marked paused stop) operations =
      (observations console operations).map (·.marked stop) := by
  induction operations generalizing console with
  | nil => rfl
  | cons operation rest continues =>
      simp only [observations, observe_marked, apply_marked, continues, List.map_cons]

theorem run_marked (operations : List ConsoleOperation) :
    run (console.marked paused stop) operations =
      (run console operations).marked paused stop := by
  induction operations generalizing console with
  | nil => rfl
  | cons operation rest continues =>
      have applied := congrArg Prod.snd (apply_marked console paused stop operation)
      simp only [run, List.foldl_cons] at continues ⊢
      rw [applied, continues]

end ConsoleOperation

namespace Console

theorem insert_eq (console : Console) (cartridge : Cartridge) :
    console.insert cartridge =
      (new cartridge).marked console.paused console.bus.published.stopRequested := by
  have fresh : Bus.new cartridge console.bus.published.stopRequested =
      (Bus.new cartridge).setStopRequested console.bus.published.stopRequested := rfl
  unfold insert
  rw [fresh, Machine.resetCpu_setStopRequested]
  rfl

/-- Whatever a console has been through, after it has loaded an image it is one newly made with the
cartridge, up to the pause and the request to stop, and however it is driven from there it gives the
same answers and shows the same on every cycle, up to that request. An image that is refused changes
neither the console nor the session around it. -/
theorem load_powersUp (console : Console) (image : ByteArray) :
    match Cartridge.load image with
    | .error error =>
        console.load image = .error error ∧
        ∀ session : Session,
          ({ session with console } : Session).handle (.load image) = { session with console }
    | .ok cartridge =>
        let stop := console.bus.published.stopRequested
        let loaded := (new cartridge).marked console.paused stop
        console.load image = .ok loaded ∧
        (∀ session : Session,
          (({ session with console } : Session).handle (.load image)).console = loaded) ∧
        ∀ operations,
          ConsoleOperation.observations loaded operations =
            (ConsoleOperation.observations (new cartridge) operations).map (·.marked stop) ∧
          ConsoleOperation.run loaded operations =
            (ConsoleOperation.run (new cartridge) operations).marked console.paused stop := by
  cases accepted : Cartridge.load image with
  | error error =>
      have refused : console.load image = .error error := by
        unfold load
        rw [accepted]
        rfl
      refine ⟨refused, fun session => ?_⟩
      simp only [Session.handle, refused]
  | ok cartridge =>
      have loads : console.load image = .ok ((new cartridge).marked console.paused
          console.bus.published.stopRequested) := by
        unfold load
        rw [accepted, ← insert_eq]
        rfl
      refine ⟨loads, fun session => ?_, fun operations => ⟨?_, ?_⟩⟩
      · simp only [Session.handle, loads]
      · exact ConsoleOperation.observations_marked _ _ _ operations
      · exact ConsoleOperation.run_marked _ _ _ operations

end Console

end Famicom
