import Famicom.Proofs.Bus.OpenBus

namespace Famicom

inductive ControllerPort
  | first
  | second
  deriving DecidableEq

def ControllerPort.address : ControllerPort → UInt16
  | first => 0x4016
  | second => 0x4017

/-! ## Reports -/

namespace Buttons

def reported (buttons : Buttons) : List Bool :=
  [buttons.a, buttons.b, buttons.select, buttons.start, buttons.up, buttons.down, buttons.left,
    buttons.right]

/-- Past the last button the line shows ones. -/
def serialBit (buttons : Buttons) (place : Nat) : Bool := buttons.reported.getD place true

theorem report_bit (buttons : Buttons) {place : Nat} (inside : place < 8) :
    buttons.report.toNat / 2 ^ place % 2 = (buttons.serialBit place).toNat := by
  -- With every button at most one, the sum stays below 256 and its digits can be read off.
  have bound (button : Bool) : button.toNat ≤ 1 := button.toNat_le
  have := bound buttons.a
  have := bound buttons.b
  have := bound buttons.select
  have := bound buttons.start
  have := bound buttons.up
  have := bound buttons.down
  have := bound buttons.left
  have := bound buttons.right
  have whole : buttons.report.toNat = buttons.a.toNat + buttons.b.toNat * 2 +
      buttons.select.toNat * 4 + buttons.start.toNat * 8 + buttons.up.toNat * 16 +
      buttons.down.toNat * 32 + buttons.left.toNat * 64 + buttons.right.toNat * 128 := by
    rw [report, UInt8.toNat_ofNat']
    exact Nat.mod_eq_of_lt (by omega)
  rw [whole]
  match place with
  | 0 | 1 | 2 | 3 | 4 | 5 | 6 | 7 =>
      simp only [serialBit, reported, List.getD_cons_succ, List.getD_cons_zero]
      omega
  | _ + 8 => omega

theorem serialBit_past (buttons : Buttons) {place : Nat} (past : 8 ≤ place) :
    buttons.serialBit place = true := by
  rw [serialBit, List.getD_eq_getElem?_getD, List.getElem?_eq_none past, Option.getD_none]

end Buttons

namespace Controller

structure Reports (controller : Controller) (buttons : Buttons) (reads : Nat) : Prop where
  register : controller.register.toNat = buttons.report.toNat / 2 ^ reads
  reads : controller.reads = reads

variable {controller : Controller} {buttons : Buttons} {reads : Nat}

theorem reports_reload (controller : Controller) :
    controller.reload.Reports controller.buttons 0 where
  register := (Nat.div_one _).symm
  reads := rfl

theorem Reports.clock (reports : controller.Reports buttons reads) :
    controller.clock.Reports buttons (reads + 1) where
  register := by
    have halved : controller.clock.register.toNat = controller.register.toNat / 2 := by
      rw [Controller.clock, UInt8.toNat_shiftRight]
      exact Nat.shiftRight_eq_div_pow _ 1
    rw [halved, reports.register, Nat.div_div_eq_div_mul, Nat.pow_succ]
  reads := congrArg (· + 1) reports.reads

theorem Reports.bit (reports : controller.Reports buttons reads) :
    controller.bit = (buttons.serialBit reads).toUInt8 := by
  unfold Controller.bit
  rw [reports.reads]
  split
  · rename_i past
    rw [buttons.serialBit_past past]
    rfl
  · rename_i inside
    have shown := buttons.report_bit (Nat.not_le.mp inside)
    rw [← reports.register] at shown
    rw [← UInt8.toNat_inj, UInt8.toNat_and]
    change controller.register.toNat &&& 1 = _
    rw [Nat.and_one_is_mod, shown]
    cases buttons.serialBit reads <;> rfl

end Controller

/-! ## Histories -/

inductive ControllerOperation
  | write (data : UInt8)
  | read (port : ControllerPort)
  | setButtons (first second : Buttons)
  deriving DecidableEq

namespace Controllers

def controller (controllers : Controllers) : ControllerPort → Controller
  | .first => controllers.first
  | .second => controllers.second

theorem selected_address (controllers : Controllers) (port : ControllerPort) :
    controllers.selected port.address = controllers.controller port := by
  cases port <;> rfl

end Controllers

namespace ControllerOperation

def apply (controllers : Controllers) : ControllerOperation → Controllers
  | write data => controllers.write data
  | read port => (controllers.read port.address).2
  | setButtons first second => controllers.setButtons first second

def run (controllers : Controllers) (operations : List ControllerOperation) : Controllers :=
  operations.foldl apply controllers

def controllersAfter (history : List ControllerOperation) : Controllers := run {} history

theorem run_append (controllers : Controllers) (before after : List ControllerOperation) :
    run controllers (before ++ after) = run (run controllers before) after :=
  List.foldl_append

def isWrite : ControllerOperation → Bool
  | write _ => true
  | read _ | setButtons _ _ => false

def pressed? (port : ControllerPort) : ControllerOperation → Option Buttons
  | setButtons first second => some (if port = .first then first else second)
  | write _ | read _ => none

def buttonsAt (port : ControllerPort) (history : List ControllerOperation) : Buttons :=
  (history.filterMap (pressed? port)).getLastD {}

def strobeAfter (history : List ControllerOperation) : Bool := (controllersAfter history).strobe

theorem apply_buttons (controllers : Controllers) (operation : ControllerOperation)
    (port : ControllerPort) :
    ((apply controllers operation).controller port).buttons =
      (operation.pressed? port).getD (controllers.controller port).buttons := by
  cases operation with
  | write data => cases port <;> rfl
  | setButtons first second => cases port <;> rfl
  | read other =>
      -- A read replaces one controller, whose buttons a reload and a shift both leave.
      simp only [apply, Controllers.read, Controllers.replace]
      split
      · cases port <;> cases other <;> rfl
      · cases port <;> cases other <;> rfl

theorem run_buttons (controllers : Controllers) (history : List ControllerOperation)
    (port : ControllerPort) :
    ((run controllers history).controller port).buttons =
      (history.filterMap (pressed? port)).getLastD (controllers.controller port).buttons := by
  induction history generalizing controllers with
  | nil => rfl
  | cons operation rest continues =>
      refine (continues (apply controllers operation)).trans ?_
      rw [apply_buttons, List.filterMap_cons]
      cases operation.pressed? port with
      | none => rfl
      | some buttons => rw [List.getLastD_cons, Option.getD_some]

theorem buttons_after (history : List ControllerOperation) (port : ControllerPort) :
    ((controllersAfter history).controller port).buttons = buttonsAt port history := by
  rw [controllersAfter, run_buttons]
  cases port <;> rfl

theorem apply_strobe (controllers : Controllers) {operation : ControllerOperation}
    (other : operation.isWrite = false) :
    (apply controllers operation).strobe = controllers.strobe := by
  cases operation with
  | write data => cases other
  | setButtons first second => rfl
  | read port =>
      simp only [apply, Controllers.read, Controllers.replace]
      split_ifs <;> rfl

theorem run_strobe (controllers : Controllers) {operations : List ControllerOperation}
    (others : ∀ operation ∈ operations, operation.isWrite = false) :
    (run controllers operations).strobe = controllers.strobe := by
  induction operations generalizing controllers with
  | nil => rfl
  | cons operation rest continues =>
      rw [List.forall_mem_cons] at others
      exact (continues _ others.2).trans (apply_strobe controllers others.1)

/-! ## Reads after a write -/

structure Reporting (controllers : Controllers) (port : ControllerPort) (buttons : Buttons)
    (reads : Nat) : Prop where
  low : controllers.strobe = false
  reports : (controllers.controller port).Reports buttons reads

variable {controllers : Controllers} {port : ControllerPort} {buttons : Buttons} {reads : Nat}

theorem reporting_write (controllers : Controllers) (port : ControllerPort) {data : UInt8}
    (low : data.bit 0 = false) :
    Reporting (apply controllers (.write data)) port (controllers.controller port).buttons 0 where
  low := low
  reports := by
    cases port with
    | first => exact controllers.first.reports_reload
    | second => exact controllers.second.reports_reload

theorem apply_read_self (low : controllers.strobe = false) :
    (apply controllers (.read port)).controller port = (controllers.controller port).clock := by
  simp only [apply, Controllers.read, low, Bool.false_eq_true, if_false,
    Controllers.selected_address]
  cases port <;> rfl

theorem apply_read_other {other : ControllerPort} (apart : other ≠ port) :
    (apply controllers (.read other)).controller port = controllers.controller port := by
  simp only [apply, Controllers.read, Controllers.replace]
  cases port <;> cases other <;> first
    | exact absurd rfl apart
    | split <;> rfl

theorem Reporting.apply (reporting : Reporting controllers port buttons reads)
    {operation : ControllerOperation} (other : operation.isWrite = false) :
    Reporting (apply controllers operation) port buttons
      (reads + [operation].count (.read port)) where
  low := (apply_strobe controllers other).trans reporting.low
  reports := by
    cases operation with
    | write data => cases other
    | setButtons first second =>
        rw [List.count_singleton, if_neg (by simp)]
        cases port with
        | first => exact ⟨reporting.reports.register, reporting.reports.reads⟩
        | second => exact ⟨reporting.reports.register, reporting.reports.reads⟩
    | read selected =>
        by_cases same : selected = port
        · subst same
          rw [List.count_singleton_self, apply_read_self reporting.low]
          exact reporting.reports.clock
        · rw [List.count_singleton, if_neg (by simpa using same), apply_read_other same]
          exact reporting.reports

theorem Reporting.run (reporting : Reporting controllers port buttons reads)
    {operations : List ControllerOperation}
    (others : ∀ operation ∈ operations, operation.isWrite = false) :
    Reporting (run controllers operations) port buttons
      (reads + operations.count (.read port)) := by
  induction operations generalizing controllers reads with
  | nil => exact reporting
  | cons operation rest continues =>
      rw [List.forall_mem_cons] at others
      have later := continues (reporting.apply others.1) others.2
      rw [Nat.add_assoc, ← List.count_append] at later
      exact later

theorem Reporting.read (reporting : Reporting controllers port buttons reads) :
    (controllers.read port.address).1 = (buttons.serialBit reads).toUInt8 := by
  rw [Controllers.read_fst, Controllers.peek, reporting.low, Controllers.selected_address]
  exact reporting.reports.bit

theorem read_of_high (high : controllers.strobe = true) :
    (controllers.read port.address).1 = (controllers.controller port).buttons.a.toUInt8 := by
  have shown := (controllers.controller port).reports_reload.bit
  rw [Controllers.read, high, Controllers.selected_address]
  exact shown

theorem read_after (before after : List ControllerOperation) (data : UInt8) (port : ControllerPort)
    (others : ∀ operation ∈ after, operation.isWrite = false) :
    ((controllersAfter (before ++ .write data :: after)).read port.address).1 =
      (if data.bit 0 then (buttonsAt port (before ++ .write data :: after)).a
        else (buttonsAt port before).serialBit (after.count (.read port))).toUInt8 := by
  have reached : controllersAfter (before ++ .write data :: after) =
      run (apply (controllersAfter before) (.write data)) after := run_append _ before _
  -- No write follows, so the level of this one is the level of the strobe until the read.
  cases level : data.bit 0 with
  | true =>
      have high : (controllersAfter (before ++ .write data :: after)).strobe = true := by
        rw [reached, run_strobe _ others]
        exact level
      rw [read_of_high high, buttons_after]
      rfl
  | false =>
      have reporting := (reporting_write (controllersAfter before) port level).run others
      rw [← reached, buttons_after, Nat.zero_add] at reporting
      exact reporting.read

end ControllerOperation

/-! ## The ports on the bus -/

namespace BusCycle

def controllerOperations : BusCycle → List ControllerOperation
  | idle => []
  | load address _ =>
      if address = 0x4016 then [.read .first]
      else if address = 0x4017 then [.read .second]
      else []
  | store address data => if address = 0x4016 then [.write data] else []

end BusCycle

namespace Bus

theorem access_controllers (bus : Bus) (address : UInt16) (rule : OpenBusRule) :
    (bus.access address rule).2.controllers =
      ControllerOperation.run bus.controllers
        (BusCycle.load address rule).controllerOperations := by
  by_cases first : address = 0x4016
  · subst first
    rfl
  by_cases second : address = 0x4017
  · subst second
    rfl
  simp only [access, BusCycle.controllerOperations, first, second, or_self, if_false]
  split_ifs <;> rfl

theorem deliver_controllers (bus : Bus) (address : UInt16) (data : UInt8) :
    (bus.deliver address data).controllers =
      ControllerOperation.run bus.controllers
        (BusCycle.store address data).controllerOperations := by
  by_cases strobe : address = 0x4016
  · subst strobe
    rfl
  simp only [deliver, BusCycle.controllerOperations, strobe, if_false]
  split_ifs <;> rfl

end Bus

namespace BusCycle

theorem perform_controllers (bus : Bus) (cycle : BusCycle) :
    (perform bus cycle).controllers =
      ControllerOperation.run bus.controllers cycle.controllerOperations := by
  rw [← bus.tick_controllers]
  cases cycle with
  | idle => rfl
  | load address rule => exact bus.tick.access_controllers address rule
  | store address data => exact bus.tick.deliver_controllers address data

theorem replay_controllers (bus : Bus) (cycles : List BusCycle) :
    (replay bus cycles).controllers =
      ControllerOperation.run bus.controllers (cycles.flatMap controllerOperations) := by
  induction cycles generalizing bus with
  | nil => rfl
  | cons cycle rest continues =>
      rw [List.flatMap_cons, ControllerOperation.run_append, ← perform_controllers]
      exact continues (perform bus cycle)

end BusCycle

namespace BusOperation

def presses : BusOperation → List ControllerOperation
  | setButtons first second => [.setButtons first second]
  | _ => []

def controllerHistory (bus : Bus) : List BusOperation → List ControllerOperation
  | [] => []
  | operation :: rest =>
      (operation.busCycles bus).flatMap BusCycle.controllerOperations ++ operation.presses ++
        controllerHistory (operation.apply bus) rest

theorem apply_controllers (bus : Bus) (operation : BusOperation) :
    (apply bus operation).controllers = ControllerOperation.run bus.controllers
      ((operation.busCycles bus).flatMap BusCycle.controllerOperations ++ operation.presses) := by
  rw [ControllerOperation.run_append, ← BusCycle.replay_controllers, apply_eq_finish]
  cases operation <;> rfl

theorem run_controllers (bus : Bus) (operations : List BusOperation) :
    (run bus operations).controllers =
      ControllerOperation.run bus.controllers (controllerHistory bus operations) := by
  induction operations generalizing bus with
  | nil => rfl
  | cons operation rest continues =>
      rw [controllerHistory, ControllerOperation.run_append, ← apply_controllers]
      exact continues (apply bus operation)

end BusOperation

namespace Bus

theorem read_port (bus : Bus) (port : ControllerPort) :
    (bus.read port.address).1 &&& 1 = (bus.controllers.read port.address).1 := by
  have filled : (bus.openBus &&& 0xe0) &&& 1 = 0 := by
    rw [UInt8.and_assoc]
    exact UInt8.and_zero
  have driven : bus.tick.peek port.address =
      bus.controllers.peek port.address ||| (bus.openBus &&& 0xe0) := by
    rw [← bus.tick_controllers, ← bus.tick_openBus]
    cases port <;> rfl
  rw [read_fst, driven, Controllers.read_fst, UInt8.or_and_of_clear filled,
    Controllers.peek_and_one]

end Bus

namespace ControllerOperation

/-- The last write of a history decides what a read shows. If it holds the strobe high, that is
whether A is pressed; otherwise the reads of the port since then count off its buttons as they were
at that write, whether the write let the strobe fall or found it low. A read of the bus shows the
same in its lowest bit. -/
theorem read_sinceWrite (before after : List ControllerOperation) (data : UInt8)
    (port : ControllerPort) (others : ∀ operation ∈ after, operation.isWrite = false) :
    let history := before ++ .write data :: after
    let shown := if data.bit 0 then (buttonsAt port history).a
      else (buttonsAt port before).serialBit (after.count (.read port))
    ((controllersAfter history).read port.address).1 = shown.toUInt8 ∧
    ∀ cartridge stopRequested operations,
      BusOperation.controllerHistory (Bus.new cartridge stopRequested) operations = history →
      ((BusOperation.run (Bus.new cartridge stopRequested) operations).read port.address).1 &&& 1 =
        shown.toUInt8 := by
  intro history shown
  have answered := read_after before after data port others
  refine ⟨answered, fun cartridge stopRequested operations told => ?_⟩
  rw [Bus.read_port, BusOperation.run_controllers, told]
  exact answered

theorem releasedButton_read :
    let later : List ControllerOperation := [.read .first, .setButtons {} {}]
    let operations : List BusOperation := [.setButtons { b := true } {}, .write 0x4016 1,
      .write 0x4016 0, .read 0x4016, .setButtons {} {}]
    (∀ operation ∈ later, operation.isWrite = false) ∧
    ((BusOperation.run (Bus.new Cartridge.empty) operations).read 0x4016).1 &&& 1 = 1 := by
  intro later operations
  have others : ∀ operation ∈ later, operation.isWrite = false := by decide
  have law := read_sinceWrite [.setButtons { b := true } {}, .write 1] later 0 .first others
  exact ⟨others, law.2 Cartridge.empty false operations rfl⟩

/-- A write that leaves the strobe low starts the report over: A is shown again in place of B. -/
theorem lowWrite_restarts :
    ¬ ∀ (before after : List ControllerOperation) (fall : UInt8) (port : ControllerPort),
      strobeAfter before = true → fall.bit 0 = false →
      (∀ data, .write data ∈ after → data.bit 0 = false) →
      ((controllersAfter (before ++ .write fall :: after)).read port.address).1 =
        ((buttonsAt port before).serialBit (after.count (.read port))).toUInt8 := by
  intro undisturbed
  have low : ∀ data, .write data ∈ [ControllerOperation.read .first, .write 0] →
      data.bit 0 = false := by
    intro data listed
    obtain rfl : data = 0 := by simpa using listed
    decide
  have told := undisturbed [.setButtons { a := true } {}, .write 1] [.read .first, .write 0] 0
    .first (by decide) (by decide) low
  exact absurd told (by decide)

end ControllerOperation

end Famicom
