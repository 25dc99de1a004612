import Famicom.Proofs.Console.Progress

/-!
The states that a console can be brought into. However it is driven, its bus is a fresh one to which
some bus operations have happened, so whatever holds of all those holds of every console.
-/

namespace Famicom

attribute [local irreducible] Bus.tick

theorem BusOperation.run_append (bus : Bus) (first second : List BusOperation) :
    run bus (first ++ second) = run (run bus first) second :=
  List.foldl_append

namespace Console

/-- The owner of a console drives it, and its bus by itself, step by step. Loading an image inserts
its cartridge; buttons and requests to stop are operations of the bus. -/
inductive Reachable : Console → Prop
  | new (cartridge : Cartridge) : Reachable (new cartridge)
  | insert {console : Console} (reached : Reachable console) (cartridge : Cartridge) :
      Reachable (console.insert cartridge)
  | step {console : Console} (reached : Reachable console) : Reachable console.step.2
  | reset {console : Console} (reached : Reachable console) : Reachable console.reset
  | resume {console : Console} (reached : Reachable console) : Reachable console.resume
  | start {console : Console} (reached : Reachable console) : Reachable console.start
  | pause {console : Console} (reached : Reachable console) : Reachable console.pause
  | driveBus {console : Console} (reached : Reachable console) (operation : BusOperation) :
      Reachable (console.withBus (operation.apply console.bus))
  | replaceBus {console : Console} (reached : Reachable console) (cartridge : Cartridge)
      (stopRequested : Bool) : Reachable (console.withBus (Bus.new cartridge stopRequested))

theorem step_bus (console : Console) :
    ∃ operations, console.step.2.bus = BusOperation.run console.bus operations := by
  unfold step
  cases console.halted with
  | some error => exact ⟨[], rfl⟩
  | none =>
      have advanced : ∃ operation, (advance console.machine).2.bus =
          BusOperation.apply console.bus operation := by
        by_cases transfers : console.Transfers
        · exact ⟨.runTransfer, congrArg (·.2.bus) (advance_of_transfers transfers)⟩
        · exact ⟨.step console.machine.cpu, congrArg (·.2.bus) (advance_of_not_transfers transfers)⟩
      obtain ⟨operation, bus⟩ := advanced
      rcases stepped : advance console.machine with ⟨result, machine⟩
      rw [stepped] at bus
      cases result with
      | error error => exact ⟨[operation], bus⟩
      | ok cycles =>
          refine ⟨[operation, .takeNmi], ?_⟩
          have carried : (carryRequests machine).bus = BusOperation.apply machine.bus .takeNmi :=
            congrArg Machine.bus (carryRequests_eq machine)
          exact carried.trans (congrArg (BusOperation.apply · .takeNmi) bus)

namespace Reachable

variable {console : Console}

theorem bus (reached : console.Reachable) : ∃ cartridge stopRequested operations,
    console.bus = BusOperation.run (Bus.new cartridge stopRequested) operations := by
  induction reached with
  | new cartridge => exact ⟨cartridge, false, [.resetCpu], rfl⟩
  | @insert console reached cartridge before =>
      exact ⟨cartridge, console.bus.published.stopRequested, [.resetCpu], rfl⟩
  | @step console reached before =>
      obtain ⟨cartridge, stop, operations, same⟩ := before
      obtain ⟨more, stepped⟩ := console.step_bus
      refine ⟨cartridge, stop, operations ++ more, ?_⟩
      rw [BusOperation.run_append, ← same]
      exact stepped
  | reset reached before =>
      obtain ⟨cartridge, stop, operations, same⟩ := before
      refine ⟨cartridge, stop, operations ++ [.reset, .resetCpu], ?_⟩
      rw [BusOperation.run_append, ← same]
      rfl
  | @resume console reached before =>
      have kept : console.resume.bus = console.bus := by
        unfold Console.resume
        cases console.halted <;> rfl
      rw [kept]
      exact before
  | start reached before => exact before
  | pause reached before => exact before
  | driveBus reached operation before =>
      obtain ⟨cartridge, stop, operations, same⟩ := before
      refine ⟨cartridge, stop, operations ++ [operation], ?_⟩
      rw [BusOperation.run_append, ← same]
      rfl
  | replaceBus reached cartridge stopRequested before => exact ⟨cartridge, stopRequested, [], rfl⟩

theorem clocked (reached : console.Reachable) : console.Clocked := by
  obtain ⟨cartridge, stop, operations, same⟩ := reached.bus
  constructor
  · have corner : (Bus.new cartridge stop).picture.1.beam.Inside :=
      ⟨Nat.zero_le 261, Nat.zero_le 340⟩
    have passed := PpuOperation.passed_run (Bus.new cartridge stop).picture corner
      (BusOperation.pictureHistory (Bus.new cartridge stop) operations)
    rw [← BusOperation.run_picture, ← same] at passed
    exact passed.inside
  · rw [same]
    exact ⟨_, BusOperation.requested_run (Bus.requested_new cartridge stop) operations⟩

theorem load (reached : console.Reachable) {image : ByteArray} {loaded : Console}
    (accepted : console.load image = .ok loaded) : loaded.Reachable := by
  unfold Console.load at accepted
  cases parsed : Cartridge.load image with
  | error error =>
      rw [parsed] at accepted
      cases accepted
  | ok cartridge =>
      rw [parsed] at accepted
      cases accepted
      exact reached.insert cartridge

theorem pollStop (reached : console.Reachable) : console.pollStop.Reachable := by
  unfold Console.pollStop
  split
  · exact (reached.driveBus (.setStopRequested false)).pause
  · exact reached

theorem runUntil (reached : console.Reachable) (goal : Console → Nat → Bool) (spent fuel : Nat) :
    (runUntil goal console spent fuel).2.Reachable := by
  induction fuel generalizing console spent with
  | zero => exact reached
  | succ fuel continues =>
      have stepped := reached.pollStop.step
      unfold Console.runUntil
      split
      · exact reached
      · dsimp only
        split
        · exact reached.pollStop
        · split
          · rename_i cycles next ran
            rw [ran] at stepped
            exact continues stepped _
          · rename_i error next failed
            rw [failed] at stepped
            exact stepped

theorem runFrame (reached : console.Reachable) : console.runFrame.2.Reachable :=
  reached.runUntil _ _ _

theorem runCycles (reached : console.Reachable) (count : Nat) :
    (console.runCycles count).2.Reachable :=
  reached.runUntil _ _ _

end Reachable

end Console

end Famicom
