import Famicom.Proofs.Cpu.Step

namespace Famicom

attribute [local irreducible] Bus.tick

namespace Bus

def OnUnits (address : UInt16) : Prop := 0x2000 ≤ address ∧ address < 0x4020

instance (address : UInt16) : Decidable (OnUnits address) := inferInstanceAs (Decidable (_ ∧ _))

theorem ram_or_board {address : UInt16} (away : ¬ OnUnits address) :
    address < 0x2000 ∨ 0x4020 ≤ address := by
  by_cases low : address < 0x2000
  · exact .inl low
  · exact .inr (UInt16.not_lt.mp fun high => away ⟨UInt16.not_lt.mp low, high⟩)

structure Alike (first second : Bus) : Prop where
  ram : first.ram = second.ram
  prgRom : first.cartridge.prgRom = second.cartridge.prgRom
  prgRam : first.cartridge.prgRam = second.cartridge.prgRam
  mapper : first.cartridge.mapper = second.cartridge.mapper
  openBus : first.openBus = second.openBus

namespace Alike

variable {first second : Bus}

theorem tick (alike : first.Alike second) : first.tick.Alike second.tick := by
  constructor <;> simp only [tick_ram, tick_cartridge, tick_openBus]
  · exact alike.ram
  · exact alike.prgRom
  · exact alike.prgRam
  · exact alike.mapper
  · exact alike.openBus

theorem tickMany (alike : first.Alike second) (count : Nat) :
    (first.tickMany count).Alike (second.tickMany count) := by
  induction count generalizing first second with
  | zero => exact alike
  | succ count continues => exact continues alike.tick

theorem setOpenBus (alike : first.Alike second) (data : UInt8) :
    (first.setOpenBus data).Alike (second.setOpenBus data) where
  ram := alike.ram
  prgRom := alike.prgRom
  prgRam := alike.prgRam
  mapper := alike.mapper
  openBus := rfl

theorem cpuRead (alike : first.Alike second) :
    first.cartridge.cpuRead = second.cartridge.cpuRead := by
  funext address
  simp only [Cartridge.cpuRead, alike.prgRom, alike.prgRam, alike.mapper]

theorem undriven (alike : first.Alike second) : first.undriven = second.undriven := by
  funext address rule
  cases rule with
  | latch => exact alike.openBus
  | addressHigh => rfl

theorem access (alike : first.Alike second) {address : UInt16} (away : ¬ OnUnits address)
    (rule : OpenBusRule) :
    (first.access address rule).1 = (second.access address rule).1 ∧
      (first.access address rule).2.Alike (second.access address rule).2 := by
  rcases ram_or_board away with low | board
  · simp only [Bus.access, low, if_true, alike.ram, true_and]
    exact alike.setOpenBus _
  · simp only [access_of_board _ board, alike.cpuRead, alike.undriven, true_and]
    exact alike.setOpenBus _

theorem readOperand (alike : first.Alike second) {address : UInt16} (away : ¬ OnUnits address)
    (rule : OpenBusRule) :
    (first.readOperand address rule).1 = (second.readOperand address rule).1 ∧
      (first.readOperand address rule).2.Alike (second.readOperand address rule).2 :=
  alike.tick.access away rule

theorem peek (alike : first.Alike second) {address : UInt16} (away : ¬ OnUnits address) :
    first.peek address = second.peek address := by
  rw [← access_fst, ← access_fst]
  exact (alike.access away .latch).1

theorem cpuWrite (alike : first.Alike second) (address : UInt16) (data : UInt8) :
    let written := first.cartridge.cpuWrite address data
    let other := second.cartridge.cpuWrite address data
    written.prgRom = other.prgRom ∧ written.prgRam = other.prgRam ∧
      written.mapper = other.mapper := by
  simp only [Cartridge.cpuWrite, alike.mapper, alike.prgRam]
  split_ifs <;> simp only [alike.prgRom, alike.prgRam, alike.mapper, and_self]

theorem deliver (alike : first.Alike second) {address : UInt16} (away : ¬ OnUnits address)
    (data : UInt8) : (first.deliver address data).Alike (second.deliver address data) := by
  have latched := alike.setOpenBus data
  rcases ram_or_board away with low | board
  · simp only [Bus.deliver, low, if_true]
    exact { latched with ram := congrArg (Memory.write · (ramCell address) data) alike.ram }
  · obtain ⟨prgRom, prgRam, mapper⟩ := alike.cpuWrite address data
    rw [deliver_of_board _ board, deliver_of_board _ board]
    exact { latched with prgRom, prgRam, mapper }

theorem write (alike : first.Alike second) {address : UInt16} (away : ¬ OnUnits address)
    (data : UInt8) : (first.write address data).Alike (second.write address data) :=
  alike.tick.deliver away data

end Alike

end Bus

namespace BusCycle

def address? : BusCycle → Option UInt16
  | idle => none
  | load address _ => some address
  | store address _ => some address

end BusCycle

namespace Microprogram

variable {Result : Type} {first second : Bus}

/-- A microprogram depends on the bus through the bytes it reads, so without the registers of the
units it goes through the same cycles to the same end. -/
theorem run_isolated (program : Microprogram Result) (alike : first.Alike second)
    (away : ∀ address ∈ (program.schedule first).filterMap BusCycle.address?,
      ¬ Bus.OnUnits address) :
    (program.run first).1 = (program.run second).1 ∧
      (program.run first).2.Alike (program.run second).2 ∧
      program.schedule first = program.schedule second := by
  induction program generalizing first second with
  | done result => exact ⟨rfl, alike, rfl⟩
  | idle next continues =>
      obtain ⟨result, ended, cycles⟩ := continues alike.tick away
      exact ⟨result, ended, congrArg (BusCycle.idle :: ·) cycles⟩
  | load address rule next continues =>
      simp only [schedule, List.filterMap_cons, BusCycle.address?, List.mem_cons,
        forall_eq_or_imp] at away
      obtain ⟨data, read⟩ := alike.readOperand away.1 rule
      obtain ⟨result, ended, cycles⟩ := continues _ read away.2
      rw [data] at result ended cycles
      refine ⟨?_, ?_, ?_⟩
      · simp only [run, data, result]
      · simpa only [run, data] using ended
      · simp only [schedule, data, cycles]
  | store address data next continues =>
      simp only [schedule, List.filterMap_cons, BusCycle.address?, List.mem_cons,
        forall_eq_or_imp] at away
      obtain ⟨result, ended, cycles⟩ := continues (alike.write away.1 data) away.2
      exact ⟨result, ended, congrArg (BusCycle.store address data :: ·) cycles⟩

end Microprogram

namespace Machine

structure Alike (first second : Machine) : Prop where
  cpu : first.cpu = second.cpu
  bus : first.bus.Alike second.bus

def checked (machine : Machine) : List UInt16 :=
  if machine.cpu.nmiPending || machine.cpu.irqPending then [] else [machine.cpu.registers.pc]

def reached (machine : Machine) : List UInt16 :=
  machine.checked ++ machine.busCycles.filterMap BusCycle.address?

def stepMany (machine : Machine) : Nat → List (Except CpuError Nat) × Machine
  | 0 => ([], machine)
  | count + 1 =>
      let (answers, last) := machine.step.2.stepMany count
      (machine.step.1 :: answers, last)

variable {first second : Machine}

theorem Alike.interrupt (alike : first.bus.Alike second.bus) (cpu : Cpu) (vector : UInt16)
    (away : ∀ address ∈ (cpu.registers.entryCycles vector).filterMap BusCycle.address?,
      ¬ Bus.OnUnits address) :
    (first.interrupt cpu vector).1 = (second.interrupt cpu vector).1 ∧
      (first.interrupt cpu vector).2.Alike (second.interrupt cpu vector).2 := by
  rw [← Registers.interruptSequence_schedule cpu.registers vector first.bus] at away
  obtain ⟨registers, bus, _⟩ := Microprogram.run_isolated _ alike away
  refine ⟨?_, ?_, bus⟩
  · rw [interrupt_count, interrupt_count]
  · simp only [Machine.interrupt, registers]

theorem execute_eq (machine : Machine) (instruction : Instruction) (start : Nat) :
    machine.execute instruction start =
      let ran := (instruction.execute machine.pastOpcode).run machine.bus
      let settled := ran.2.tickMany (start + instruction.cycles + ran.1.penalty - ran.2.cycles)
      let irqMask := pollMask instruction.operation machine.cpu.registers.p ran.1.registers.p
      (settled.cycles - start,
        { cpu := { machine.cpu with registers := ran.1.registers, irqMask }
          bus := settled }) := rfl

theorem Alike.execute (alike : first.Alike second) (instruction : Instruction) {start other : Nat}
    (passed : first.bus.cycles = start + 1) (passedOther : second.bus.cycles = other + 1)
    (away : ∀ address ∈ ((instruction.execute first.pastOpcode).schedule first.bus).filterMap
      BusCycle.address?, ¬ Bus.OnUnits address) :
    (first.execute instruction start).1 = (second.execute instruction other).1 ∧
      (first.execute instruction start).2.Alike (second.execute instruction other).2 := by
  have past : second.pastOpcode = first.pastOpcode := by rw [pastOpcode, ← alike.cpu, pastOpcode]
  rw [execute_eq, execute_eq, past, ← alike.cpu]
  generalize instruction.execute first.pastOpcode = program at away ⊢
  obtain ⟨outcome, ended, cycles⟩ := Microprogram.run_isolated program alike.bus away
  have spent := BusCycle.replay_cycles first.bus (program.schedule first.bus)
  have spentOther := BusCycle.replay_cycles second.bus (program.schedule second.bus)
  rw [Microprogram.replay_schedule, passed] at spent
  rw [Microprogram.replay_schedule, passedOther, ← cycles] at spentOther
  have idle : other + instruction.cycles + (program.run second.bus).1.penalty -
        (program.run second.bus).2.cycles =
      start + instruction.cycles + (program.run first.bus).1.penalty -
        (program.run first.bus).2.cycles := by
    rw [spent, spentOther, outcome]
    omega
  dsimp only
  rw [idle, ← outcome]
  refine ⟨?_, rfl, ended.tickMany _⟩
  rw [Bus.tickMany_cycles, Bus.tickMany_cycles, spent, spentOther]
  omega

theorem Alike.peekedOpcode (alike : first.Alike second)
    (away : ¬ Bus.OnUnits first.cpu.registers.pc) : first.peekedOpcode = second.peekedOpcode := by
  unfold Machine.peekedOpcode
  rw [← alike.cpu]
  exact alike.bus.peek away

theorem Alike.afterFetch (alike : first.Alike second)
    (away : ¬ Bus.OnUnits first.cpu.registers.pc) : first.fetchedOpcode = second.fetchedOpcode ∧
      first.afterFetch.Alike second.afterFetch := by
  obtain ⟨data, read⟩ := alike.bus.readOperand away .latch
  unfold fetchedOpcode Machine.afterFetch
  rw [← alike.cpu]
  exact ⟨data, rfl, read⟩

theorem Alike.step (alike : first.Alike second)
    (away : ∀ address ∈ first.reached, ¬ Bus.OnUnits address) :
    first.step.1 = second.step.1 ∧ first.step.2.Alike second.step.2 := by
  have cpu := alike.cpu
  unfold reached checked busCycles at away
  by_cases nmi : first.cpu.nmiPending = true
  · simp only [nmi, Bool.true_or, if_true, List.nil_append] at away
    rw [step_of_nmiPending nmi, step_of_nmiPending (cpu ▸ nmi), ← cpu]
    obtain ⟨cycles, entered⟩ := Alike.interrupt alike.bus
      { first.cpu with nmiPending := false } Registers.nmiVector away
    exact ⟨congrArg Except.ok cycles, entered⟩
  by_cases irq : first.cpu.irqPending = true
  · simp only [nmi, irq, Bool.or_true, if_true, List.nil_append] at away
    have noNmi := Bool.eq_false_iff.mpr nmi
    rw [step_of_irqPending noNmi irq, step_of_irqPending (cpu ▸ noNmi) (cpu ▸ irq), ← cpu]
    obtain ⟨cycles, entered⟩ := Alike.interrupt alike.bus
      { first.cpu with irqPending := false } Registers.irqVector away
    exact ⟨congrArg Except.ok cycles, entered⟩
  have free : first.Uninterrupted := ⟨Bool.eq_false_iff.mpr nmi, Bool.eq_false_iff.mpr irq⟩
  have freeOther : second.Uninterrupted := ⟨cpu ▸ free.1, cpu ▸ free.2⟩
  simp only [nmi, irq, Bool.or_self, Bool.false_eq_true, if_false, List.singleton_append,
    List.mem_cons, forall_eq_or_imp] at away
  obtain ⟨awayPc, away⟩ := away
  have peeked := alike.peekedOpcode awayPc
  obtain ⟨fetched, after⟩ := alike.afterFetch awayPc
  rw [step_of_uninterrupted free, step_of_uninterrupted freeOther, ← peeked, ← fetched, ← cpu]
  cases check : Instruction.decode first.peekedOpcode with
  | none => exact ⟨rfl, alike⟩
  | some expected =>
      cases decoded : Instruction.decode first.fetchedOpcode with
      | none => exact ⟨rfl, after⟩
      | some instruction =>
          -- What is left of the accesses are those of the instruction, which runs on both alike.
          simp only [check, decoded, instructionCycles, work, List.cons_append,
            List.filterMap_cons, BusCycle.address?, List.filterMap_append, List.mem_cons,
            List.mem_append] at away
          have passed : first.afterFetch.bus.cycles = first.bus.cycles + 1 := Bus.read_cycles _ _
          have passedOther : second.afterFetch.bus.cycles = second.bus.cycles + 1 :=
            Bus.read_cycles _ _
          obtain ⟨cycles, ran⟩ := after.execute instruction passed passedOther
            fun address listed => away address (.inr (.inl listed))
          exact ⟨congrArg Except.ok cycles, ran⟩

/-- As long as the first of two machines that agree keeps away from the registers of the units,
both give the same answers and agree after every call. -/
theorem stepMany_isolated (first second : Machine) (count : Nat) (alike : first.Alike second)
    (away : ∀ passed < count, ∀ address ∈ (first.stepMany passed).2.reached,
      ¬ Bus.OnUnits address) :
    (first.stepMany count).1 = (second.stepMany count).1 ∧
      (first.stepMany count).2.Alike (second.stepMany count).2 := by
  induction count generalizing first second with
  | zero => exact ⟨rfl, alike⟩
  | succ count continues =>
      obtain ⟨answer, stepped⟩ := alike.step (away 0 (Nat.zero_lt_succ count))
      obtain ⟨answers, ended⟩ := continues first.step.2 second.step.2 stepped
        fun passed early => away (passed + 1) (Nat.succ_lt_succ early)
      refine ⟨?_, ended⟩
      simp only [stepMany, answer, answers]

/-- A program in internal RAM that counts, stores to work RAM and then jams. -/
def besideUnits : Machine where
  cpu := {}
  bus := { Bus.new Cartridge.empty with
    ram := [0xe6, 0x10, 0x8d, 0x00, 0x60, 0x02].zipIdx.foldl
      (fun ram (byte, place) => ram.write (residue 0x800 place) byte) (Memory.fill 0x800 0) }

def underPicture : Machine where
  cpu := {}
  bus := { besideUnits.bus with
    ppu := { mask := { byte := 0x1e }, beam := { line := 100, dot := 7 } }
    controllers := { first := { buttons := { start := true } }, strobe := true }
    transfer := some { page := 7, delay := 1 }
    published := { besideUnits.bus.published with cycles := 11503 } }

theorem underPicture_stepMany :
    besideUnits.Alike underPicture ∧
      (∀ passed < 4, ∀ address ∈ (besideUnits.stepMany passed).2.reached,
        ¬ Bus.OnUnits address) ∧
      (underPicture.stepMany 4).1.map Except.toOption = [some 5, some 4, none, none] ∧
      (underPicture.stepMany 4).2.cpu.registers.pc = 0x0005 := by
  have alike : besideUnits.Alike underPicture := ⟨rfl, rfl, rfl, rfl, rfl, rfl⟩
  -- Stated as a test: the quantifiers could be decided over all addresses there are.
  have checked : (List.range 4).all (fun passed =>
      (besideUnits.stepMany passed).2.reached.all fun address =>
        !decide (Bus.OnUnits address)) = true := by decide +kernel
  have away : ∀ passed < 4, ∀ address ∈ (besideUnits.stepMany passed).2.reached,
      ¬ Bus.OnUnits address := by
    simpa only [List.all_eq_true, List.mem_range, Bool.not_eq_true', decide_eq_false_iff_not]
      using checked
  obtain ⟨answers, ended⟩ := stepMany_isolated besideUnits underPicture 4 alike away
  refine ⟨alike, away, ?_, ?_⟩
  · rw [← answers]
    decide +kernel
  · rw [← ended.cpu]
    decide +kernel

end Machine

end Famicom
