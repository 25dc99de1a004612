import Famicom.Proofs.Bus.Operation
import Famicom.Proofs.Ppu.Position

namespace Famicom

attribute [local irreducible] Bus.tick

theorem PpuOperation.accesses_beam (state : Ppu × Cartridge) (cycle : BusCycle) :
    (run state cycle.accesses).1.beam = state.1.beam := by
  cases cycle with
  | idle => rfl
  | load address rule =>
      simp only [BusCycle.accesses]
      split_ifs
      · rfl
      · exact read_beam _ _ address
      · rfl
  | store address data =>
      simp only [BusCycle.accesses]
      split_ifs
      · rfl
      · exact write_beam _ _ address data
      · rfl
      · rfl

namespace Bus

structure ShowsBeam (bus : Bus) : Prop where
  line : bus.published.ppu.line = bus.ppu.beam.line
  dot : bus.published.ppu.dot = bus.ppu.beam.dot
  frame : bus.published.ppu.frame = bus.ppu.beam.frame

namespace ShowsBeam

theorem of_same {before after : Bus} (shows : before.ShowsBeam)
    (published : after.published.ppu = before.published.ppu)
    (beam : after.ppu.beam = before.ppu.beam) : after.ShowsBeam where
  line := by rw [published, beam, shows.line]
  dot := by rw [published, beam, shows.dot]
  frame := by rw [published, beam, shows.frame]

theorem of_snapshot {bus : Bus} (published : bus.published.ppu = bus.ppu.snapshot) :
    bus.ShowsBeam := by
  constructor <;> rw [published] <;> rfl

theorem tick (bus : Bus) : bus.tick.ShowsBeam := by
  apply of_snapshot
  simp only [Bus.tick]

theorem access {bus : Bus} (shows : bus.ShowsBeam) (address : UInt16) (rule : OpenBusRule) :
    (bus.access address rule).2.ShowsBeam := by
  apply shows.of_same
  · simp only [Bus.access]
    split_ifs <;> rfl
  · have reached := congrArg (fun picture => picture.1.beam) (access_picture bus address rule)
    exact reached.trans (PpuOperation.accesses_beam _ _)

theorem deliver {bus : Bus} (shows : bus.ShowsBeam) (address : UInt16) (data : UInt8) :
    (bus.deliver address data).ShowsBeam := by
  apply shows.of_same
  · simp only [Bus.deliver]
    split_ifs <;> rfl
  · have reached := congrArg (fun picture => picture.1.beam) (deliver_picture bus address data)
    exact reached.trans (PpuOperation.accesses_beam _ _)

theorem perform (bus : Bus) (cycle : BusCycle) : (BusCycle.perform bus cycle).ShowsBeam := by
  cases cycle with
  | idle => exact tick bus
  | load address rule => exact (tick bus).access address rule
  | store address data => exact (tick bus).deliver address data

theorem replay {bus : Bus} (shows : bus.ShowsBeam) (schedule : List BusCycle) :
    (BusCycle.replay bus schedule).ShowsBeam := by
  induction schedule generalizing bus with
  | nil => exact shows
  | cons cycle rest continues => exact continues (perform bus cycle)

theorem apply {bus : Bus} (shows : bus.ShowsBeam) (operation : BusOperation) :
    (operation.apply bus).ShowsBeam := by
  have replayed := shows.replay (operation.busCycles bus)
  rw [BusOperation.apply_eq_finish]
  apply replayed.of_same
  · cases operation <;> rfl
  · cases operation <;> rfl

theorem run {bus : Bus} (shows : bus.ShowsBeam) (operations : List BusOperation) :
    (BusOperation.run bus operations).ShowsBeam := by
  induction operations generalizing bus with
  | nil => exact shows
  | cons operation rest continues => exact continues (shows.apply operation)

end ShowsBeam

end Bus

namespace BusOperation

def dots (cartridge : Cartridge) (operations : List BusOperation) : List Ppu :=
  PpuOperation.dots ({}, cartridge) (pictureHistory (Bus.new cartridge) operations)

theorem length_dots (cartridge : Cartridge) (operations : List BusOperation) :
    (dots cartridge operations).length = 3 * (run (Bus.new cartridge) operations).cycles := by
  rw [dots, PpuOperation.length_dots, run_cycles]
  exact (Nat.zero_add _).symm

theorem placed_run (cartridge : Cartridge) (operations : List BusOperation) :
    Placed (dots cartridge operations) (run (Bus.new cartridge) operations).ppu.beam := by
  have fresh : Placed [] (Bus.new cartridge).picture.1.beam := Placed.powerOn
  have placed := fresh.run (pictureHistory (Bus.new cartridge) operations)
  rw [← run_picture] at placed
  exact placed

/-- After any operations the beam is three dots further for every cycle, and one more for every
completed odd frame in which rendering was on at the place of the dropped dot. -/
theorem lockstep (cartridge : Cartridge) (operations : List BusOperation) :
    let bus := run (Bus.new cartridge) operations
    let beam := bus.ppu.beam
    let position := 89342 * beam.frame + 341 * beam.line + beam.dot
    beam.line ≤ 261 ∧ beam.dot ≤ 340 ∧ (beam.oddFrame = true ↔ beam.frame % 2 = 1) ∧
      position = 3 * bus.cycles + droppedDots (dots cartridge operations) beam.frame ∧
      3 * bus.cycles ≤ position ∧ position ≤ 3 * bus.cycles + beam.frame / 2 ∧
      bus.published.ppu.line = beam.line ∧ bus.published.ppu.dot = beam.dot ∧
      bus.published.ppu.frame = beam.frame := by
  intro bus beam position
  have placed := placed_run cartridge operations
  have few := droppedDots_le_half (dots cartridge operations) beam.frame
  have counted : position =
      3 * bus.cycles + droppedDots (dots cartridge operations) beam.frame := by
    rw [← length_dots]
    exact placed.position
  have fresh : (Bus.new cartridge).ShowsBeam := ⟨rfl, rfl, rfl⟩
  have shows := fresh.run operations
  refine ⟨placed.line_le, placed.dot_le, placed.parity, counted, ?_, ?_, shows.line, shows.dot,
    shows.frame⟩
  · omega
  · omega

end BusOperation

end Famicom
