import Famicom.Byte

/-!
Two controllers behind $4016 and $4017. While the strobe is high their registers follow the buttons;
afterwards each read shifts out one button, and ones once all eight are out.
-/

namespace Famicom

structure Buttons where
  a : Bool := false
  b : Bool := false
  select : Bool := false
  start : Bool := false
  up : Bool := false
  down : Bool := false
  left : Bool := false
  right : Bool := false
  deriving DecidableEq, Inhabited

def Buttons.report (buttons : Buttons) : UInt8 :=
  UInt8.ofNat (buttons.a.toNat + buttons.b.toNat * 2 + buttons.select.toNat * 4 +
    buttons.start.toNat * 8 + buttons.up.toNat * 16 + buttons.down.toNat * 32 +
    buttons.left.toNat * 64 + buttons.right.toNat * 128)

structure Controller where
  buttons : Buttons := {}
  register : UInt8 := 0
  reads : Nat := 0
  deriving DecidableEq, Inhabited

namespace Controller

def reload (controller : Controller) : Controller :=
  { controller with register := controller.buttons.report, reads := 0 }

def bit (controller : Controller) : UInt8 :=
  if 8 ≤ controller.reads then 1 else controller.register &&& 1

def clock (controller : Controller) : Controller :=
  { controller with register := controller.register >>> 1, reads := controller.reads + 1 }

end Controller

structure Controllers where
  first : Controller := {}
  second : Controller := {}
  strobe : Bool := false
  deriving DecidableEq, Inhabited

namespace Controllers

def selected (controllers : Controllers) (address : UInt16) : Controller :=
  if address.toNat % 2 = 0 then controllers.first else controllers.second

def replace (controllers : Controllers) (address : UInt16) (controller : Controller) :
    Controllers :=
  if address.toNat % 2 = 0 then { controllers with first := controller }
  else { controllers with second := controller }

def peek (controllers : Controllers) (address : UInt16) : UInt8 :=
  let controller := controllers.selected address
  if controllers.strobe then controller.buttons.report &&& 1 else controller.bit

/-- While the strobe is high a read loads the register and shows its first bit, afterwards it shifts
the bit out that it shows. -/
def read (controllers : Controllers) (address : UInt16) : UInt8 × Controllers :=
  let controller := controllers.selected address
  if controllers.strobe then
    let loaded := controller.reload
    (loaded.bit, controllers.replace address loaded)
  else (controller.bit, controllers.replace address controller.clock)

theorem read_fst (controllers : Controllers) (address : UInt16) :
    (controllers.read address).1 = controllers.peek address := by
  unfold read peek
  dsimp only
  split
  · rfl
  · rfl

/-- Bit 0 is the strobe of both controllers. Any write loads both registers. -/
def write (controllers : Controllers) (data : UInt8) : Controllers where
  first := controllers.first.reload
  second := controllers.second.reload
  strobe := data.bit 0

def setButtons (controllers : Controllers) (first second : Buttons) : Controllers :=
  { controllers with
    first := { controllers.first with buttons := first }
    second := { controllers.second with buttons := second } }

end Controllers

end Famicom
