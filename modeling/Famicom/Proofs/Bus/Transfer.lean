import Famicom.Proofs.Bus.Operation

namespace Famicom

attribute [local irreducible] Bus.tick

/-! ## Requests -/

namespace Bus

theorem access_transfer (bus : Bus) (address : UInt16) (rule : OpenBusRule) :
    (bus.access address rule).2.transfer = bus.transfer := by
  simp only [access, setOpenBus]
  split_ifs <;> rfl

theorem deliver_transfer (bus : Bus) {address : UInt16} (elsewhere : address ≠ 0x4014)
    (data : UInt8) : (bus.deliver address data).transfer = bus.transfer := by
  simp only [deliver, setOpenBus, elsewhere, if_false]
  split_ifs <;> rfl

theorem write_request (bus : Bus) (page : UInt8) :
    (bus.write 0x4014 page).transfer = some { page, delay := 1 + (bus.cycles + 1) % 2 } := by
  rw [← tick_cycles]
  rfl

/-- The cycles since power-on are counted, and a transfer that waits is the one asked for last: no
later cycle asks for another, and its delay follows from the count after the request. -/
structure Requested (history : List BusCycle) (bus : Bus) : Prop where
  cycles : bus.cycles = history.length
  last : ∀ transfer, bus.transfer = some transfer → ∃ before after,
    history = before ++ .store 0x4014 transfer.page :: after ∧
    (∀ data, BusCycle.store 0x4014 data ∉ after) ∧
    transfer.delay = 1 + (before.length + 1) % 2

theorem requested_new (cartridge : Cartridge) (stopRequested : Bool) :
    Requested [] (new cartridge stopRequested) where
  cycles := rfl
  last := nofun

namespace Requested

variable {history : List BusCycle} {bus : Bus}

theorem idle (earlier : Requested history bus) {cycle : BusCycle} {after : Bus}
    (quiet : ∀ data, cycle ≠ .store 0x4014 data) (same : after.transfer = bus.transfer)
    (counted : after.cycles = bus.cycles + 1) : Requested (history ++ [cycle]) after where
  cycles := by rw [counted, earlier.cycles, List.length_append, List.length_singleton]
  last transfer waiting := by
    obtain ⟨before, rest, rfl, none, delay⟩ := earlier.last transfer (same ▸ waiting)
    refine ⟨before, rest ++ [cycle], by simp, ?_, delay⟩
    intro data late
    rcases List.mem_append.mp late with early | last
    · exact none data early
    · exact quiet data (List.mem_singleton.mp last).symm

theorem perform (earlier : Requested history bus) (cycle : BusCycle) :
    Requested (history ++ [cycle]) (BusCycle.perform bus cycle) := by
  have counted := BusCycle.perform_cycles bus cycle
  cases cycle with
  | idle => exact earlier.idle nofun (tick_transfer bus) counted
  | load address rule =>
      exact earlier.idle nofun ((access_transfer _ address rule).trans (tick_transfer bus)) counted
  | store address data =>
      -- A new request takes the place of the old one; any other write lets it wait.
      by_cases request : address = 0x4014
      · subst request
        refine ⟨by simp [counted, earlier.cycles], fun transfer waiting => ?_⟩
        have asked : BusCycle.perform bus (.store 0x4014 data) = bus.write 0x4014 data := rfl
        rw [asked, write_request, earlier.cycles, Option.some_inj] at waiting
        subst waiting
        exact ⟨history, [], rfl, nofun, rfl⟩
      · refine earlier.idle (fun other same => ?_) ?_ counted
        · exact request (BusCycle.store.inj same).1
        · exact (deliver_transfer _ request data).trans (tick_transfer bus)

theorem replay (earlier : Requested history bus) (cycles : List BusCycle) :
    Requested (history ++ cycles) (BusCycle.replay bus cycles) := by
  induction cycles generalizing history bus with
  | nil => rwa [List.append_nil]
  | cons cycle rest continues =>
      have later := continues (earlier.perform cycle)
      rwa [List.append_assoc] at later

theorem weaken (earlier : Requested history bus) {after : Bus}
    (counted : after.cycles = bus.cycles)
    (same : after.transfer = none ∨ after.transfer = bus.transfer) : Requested history after where
  cycles := counted.trans earlier.cycles
  last transfer waiting := by
    rcases same with dropped | kept
    · exact absurd (dropped.symm.trans waiting) nofun
    · exact earlier.last transfer (kept ▸ waiting)

end Requested

end Bus

namespace BusOperation

def trace (bus : Bus) : List BusOperation → List BusCycle
  | [] => []
  | operation :: rest => operation.busCycles bus ++ trace (operation.apply bus) rest

theorem requested_apply {history : List BusCycle} {bus : Bus} (earlier : bus.Requested history)
    (operation : BusOperation) :
    (apply bus operation).Requested (history ++ operation.busCycles bus) := by
  have replayed := earlier.replay (operation.busCycles bus)
  rw [apply_eq_finish]
  cases operation with
  | tick | read address | readOperand address rule | write address data => exact replayed
  | step cpu | resetCpu => exact replayed
  | runTransfer | reset => exact replayed.weaken rfl (.inl rfl)
  | takeNmi | setButtons first second | setStopRequested stopRequested =>
      exact replayed.weaken rfl (.inr rfl)

theorem requested_run {history : List BusCycle} {bus : Bus} (earlier : bus.Requested history)
    (operations : List BusOperation) :
    (run bus operations).Requested (history ++ trace bus operations) := by
  induction operations generalizing history bus with
  | nil => rwa [trace, List.append_nil]
  | cons operation rest continues =>
      have later := continues (requested_apply earlier operation)
      rw [List.append_assoc] at later
      exact later

end BusOperation

namespace Bus

theorem runTransfer_fst (bus : Bus) : bus.runTransfer.1 = bus.transferCycles.length := by
  have counted := bus.runTransfer_cycles
  cases waiting : bus.transfer with
  | none => simp only [runTransfer, transferCycles, waiting, List.length_nil]
  | some transfer =>
      have difference : bus.runTransfer.1 = bus.runTransfer.2.cycles - bus.cycles := by
        simp only [runTransfer, waiting]
        generalize (bus.tickMany _).copyPage _ _ = copied
        rfl
      omega

/-! ## Bytes -/

/-- Addresses whose bytes neither time nor a read changes: internal RAM, work RAM while it is
enabled, and program ROM. -/
def IsMemory (cartridge : Cartridge) (address : UInt16) : Prop :=
  address < 0x2000 ∨ (0x6000 ≤ address ∧
    (address < 0x8000 → cartridge.mapper.prgRamEnabled = true))

def storedByte (bus : Bus) (address : UInt16) : UInt8 :=
  if address < 0x2000 then bus.ram.read (ramCell address)
  else (bus.cartridge.cpuRead address).getD 0

theorem storedByte_congr {first second : Bus} (ram : first.ram = second.ram)
    (cartridge : first.cartridge = second.cartridge) : first.storedByte = second.storedByte := by
  funext address
  simp only [storedByte, ram, cartridge]

theorem cpuRead_of_isMemory {cartridge : Cartridge} {address : UInt16} (high : 0x6000 ≤ address)
    (enabled : address < 0x8000 → cartridge.mapper.prgRamEnabled = true) :
    ∃ data, cartridge.cpuRead address = some data := by
  by_cases workRam : address < 0x8000
  · exact ⟨_, cartridge.cpuRead_of_workRam high workRam (enabled workRam)⟩
  · exact ⟨_, cartridge.cpuRead_of_rom (UInt16.not_lt.mp workRam)⟩

theorem access_of_isMemory {bus : Bus} {address : UInt16}
    (memory : IsMemory bus.cartridge address) (rule : OpenBusRule) :
    bus.access address rule = (bus.storedByte address, bus.setOpenBus (bus.storedByte address)) := by
  rcases memory with low | ⟨high, enabled⟩
  · simp only [access, storedByte, low, if_true]
  · have notRam := (UInt16.past high 0x2000 (by decide)).1
    obtain ⟨data, answers⟩ := cpuRead_of_isMemory high enabled
    rw [access_of_board bus (UInt16.le_trans (by decide) high), storedByte, if_neg notRam, answers]
    rfl

theorem peek_of_isMemory {bus : Bus} {address : UInt16}
    (memory : IsMemory bus.cartridge address) : bus.peek address = bus.storedByte address := by
  rw [← access_fst, access_of_isMemory memory]

theorem isMemory_page {cartridge : Cartridge} {page : UInt8}
    (memory : page < 0x20 ∨ (0x60 ≤ page ∧
      (page < 0x80 → cartridge.mapper.prgRamEnabled = true))) (offset : UInt8) :
    IsMemory cartridge (UInt16.ofBytes offset page) := by
  have placed := UInt16.toNat_ofBytes offset page
  have bound := offset.toNat_lt
  simp only [IsMemory, UInt16.lt_iff_toNat_lt, UInt16.le_iff_toNat_le, UInt8.lt_iff_toNat_lt,
    UInt8.le_iff_toNat_le, placed] at memory ⊢
  rcases memory with low | ⟨high, enabled⟩
  · left
    change page.toNat < 0x20 at low
    change _ < 0x2000
    omega
  · right
    change 0x60 ≤ page.toNat at high
    refine ⟨?_, fun workRam => enabled ?_⟩
    · change 0x6000 ≤ _
      omega
    · change _ < 0x8000 at workRam
      change page.toNat < 0x80
      omega

end Bus

namespace Ppu

def object (ppu : Ppu) (place : UInt8) : UInt8 :=
  ppu.objects.read ⟨place.toNat, place.toNat_lt⟩

theorem object_write (ppu : Ppu) (cartridge : Cartridge) (data : UInt8)
    (dark : ppu.mask.rendering = false) :
    ppu.write cartridge 0x2004 data =
      ({ ppu with
          ioLatch := data
          objects := ppu.objects.write ⟨ppu.objectAddress.toNat, ppu.objectAddress.toNat_lt⟩ data
          objectAddress := ppu.objectAddress + 1 }, cartridge) := by
  have register : (0x2004 : UInt16).toNat % 8 = 4 := rfl
  simp only [write, register, writeObject, fetching, dark, Bool.and_false, Bool.false_eq_true,
    if_false]

def Elapsed (before after : Ppu) : Prop :=
  ∃ status nmiLevel nmiEdge picture beam,
    after = { before with status, nmiLevel, nmiEdge, picture, beam }

theorem Elapsed.trans {first second third : Ppu} (one : Elapsed first second)
    (two : Elapsed second third) : Elapsed first third := by
  obtain ⟨_, _, _, _, _, rfl⟩ := one
  obtain ⟨_, _, _, _, _, rfl⟩ := two
  exact ⟨_, _, _, _, _, rfl⟩

theorem Elapsed.dark {before after : Ppu} (elapsed : Elapsed before after)
    (dark : before.mask.rendering = false) : after.mask.rendering = false := by
  obtain ⟨_, _, _, _, _, rfl⟩ := elapsed
  exact dark

theorem elapsed_tick {ppu : Ppu} (dark : ppu.mask.rendering = false) (cartridge : Cartridge) :
    Elapsed ppu (ppu.tick cartridge) := by
  obtain ⟨_, _, _, _, ticked⟩ := ppu.tick_dark cartridge dark
  exact ⟨_, _, _, _, _, ticked⟩

end Ppu

namespace Bus

theorem elapsed_tick {bus : Bus} (dark : bus.ppu.mask.rendering = false) :
    bus.ppu.Elapsed bus.tick.ppu := by
  have first := Ppu.elapsed_tick dark bus.cartridge
  have second := first.trans (Ppu.elapsed_tick (first.dark dark) bus.cartridge)
  have third := second.trans (Ppu.elapsed_tick (second.dark dark) bus.cartridge)
  simp only [tick]
  exact third

/-- The bytes before the last `count` of a page lie in object memory, from the place where the
transfer began, and nothing else of the source has changed. -/
structure Copying (source : Bus) (page : UInt8) (count : Nat) (bus : Bus) : Prop where
  ram : bus.ram = source.ram
  cartridge : bus.cartridge = source.cartridge
  nametables : bus.ppu.nametables = source.ppu.nametables
  palettes : bus.ppu.palettes = source.ppu.palettes
  dark : bus.ppu.mask.rendering = false
  address : bus.ppu.objectAddress = source.ppu.objectAddress + UInt8.ofNat (0x100 - count)
  copied : ∀ offset : UInt8, offset.toNat < 0x100 - count →
    bus.ppu.object (source.ppu.objectAddress + offset) =
      source.storedByte (UInt16.ofBytes offset page)

theorem deliver_object {bus : Bus} (dark : bus.ppu.mask.rendering = false) (data : UInt8) :
    bus.deliver 0x2004 data = { bus.setOpenBus data with
      ppu := { bus.ppu with
        ioLatch := data
        objects := bus.ppu.objects.write
          ⟨bus.ppu.objectAddress.toNat, bus.ppu.objectAddress.toNat_lt⟩ data
        objectAddress := bus.ppu.objectAddress + 1 } } := by
  have written := bus.ppu.object_write bus.cartridge data dark
  unfold deliver
  simp only [setOpenBus, if_neg (show ¬ (0x2004 : UInt16) < 0x2000 by decide),
    if_pos (show (0x2004 : UInt16) < 0x4000 by decide), written]

namespace Copying

variable {source bus : Bus} {page : UInt8} {count : Nat}

theorem start (dark : source.ppu.mask.rendering = false) : Copying source page 0x100 source where
  ram := rfl
  cartridge := rfl
  nametables := rfl
  palettes := rfl
  dark := dark
  address := (UInt8.add_zero _).symm
  copied _ before := absurd before (Nat.not_lt_zero _)

theorem tick (copying : Copying source page count bus) : Copying source page count bus.tick := by
  obtain ⟨_, _, _, _, _, ticked⟩ := elapsed_tick copying.dark
  refine ⟨?_, ?_, ?_, ?_, ?_, ?_, ?_⟩
  · rw [tick_ram, copying.ram]
  · rw [tick_cartridge, copying.cartridge]
  · rw [ticked, ← copying.nametables]
  · rw [ticked, ← copying.palettes]
  · rw [ticked, ← copying.dark]
  · rw [ticked, ← copying.address]
  · intro offset before
    rw [ticked, ← copying.copied offset before]
    rfl

theorem tickMany (copying : Copying source page count bus) (delay : Nat) :
    Copying source page count (bus.tickMany delay) := by
  induction delay generalizing bus with
  | zero => exact copying
  | succ delay continues => exact continues copying.tick

theorem read (copying : Copying source page count bus)
    {address : UInt16} (memory : IsMemory source.cartridge address) :
    (bus.read address).1 = source.storedByte address ∧
      Copying source page count (bus.read address).2 := by
  have ticked := copying.tick
  have accessed := access_of_isMemory (ticked.cartridge ▸ memory) .latch
  rw [Bus.read, readOperand, accessed, storedByte_congr ticked.ram ticked.cartridge]
  exact ⟨rfl, ticked.ram, ticked.cartridge, ticked.nametables, ticked.palettes, ticked.dark,
    ticked.address, ticked.copied⟩

theorem write (copying : Copying source page (count + 1) bus) (within : count < 0x100)
    {data : UInt8} (next : data = source.storedByte
      (UInt16.ofBytes (UInt8.ofNat (0x100 - (count + 1))) page)) :
    Copying source page count (bus.write 0x2004 data) := by
  have ticked := copying.tick
  have last : (UInt8.ofNat (0x100 - (count + 1))).toNat = 0x100 - (count + 1) := by
    rw [UInt8.toNat_ofNat']
    omega
  rw [Bus.write, deliver_object ticked.dark]
  refine ⟨ticked.ram, ticked.cartridge, ticked.nametables, ticked.palettes, ticked.dark, ?_, ?_⟩
  · change bus.tick.ppu.objectAddress + 1 = _
    have following : 0x100 - count = 0x100 - (count + 1) + 1 := by omega
    rw [ticked.address, following, UInt8.ofNat_add, UInt8.add_assoc]
    rfl
  · intro offset before
    change Memory.read (Memory.write _ _ _) _ = _
    rw [Memory.read_write]
    -- The byte just written lies at the object address, and every earlier one at an earlier place.
    by_cases newest : offset.toNat = 0x100 - (count + 1)
    · have same : offset = UInt8.ofNat (0x100 - (count + 1)) := by
        rw [← newest, UInt8.ofNat_toNat]
      rw [if_pos (by rw [Fin.mk.injEq, ticked.address, same]), next, same]
    · rw [if_neg ?_]
      · exact ticked.copied offset (by omega)
      · intro same
        rw [Fin.mk.injEq, UInt8.toNat_inj, ticked.address, UInt8.add_right_inj] at same
        exact newest (same ▸ last)

theorem copyPage (copying : Copying source page count bus) (within : count ≤ 0x100)
    (memory : ∀ offset, IsMemory source.cartridge (UInt16.ofBytes offset page)) :
    Copying source page 0 (bus.copyPage page count) := by
  induction count generalizing bus with
  | zero => exact copying
  | succ count continues =>
      obtain ⟨next, read⟩ := copying.read (memory (UInt8.ofNat (0x100 - (count + 1))))
      exact continues (read.write within next) (Nat.le_of_lt within)

end Copying

theorem copying_runTransfer {bus : Bus} {transfer : ObjectTransfer}
    (waiting : bus.transfer = some transfer) (dark : bus.ppu.mask.rendering = false)
    (memory : ∀ offset, IsMemory bus.cartridge (UInt16.ofBytes offset transfer.page)) :
    Copying bus transfer.page 0 bus.runTransfer.2 := by
  have copied := ((Copying.start dark).tickMany transfer.delay).copyPage (Nat.le_refl _) memory
  simp only [runTransfer, waiting]
  generalize (bus.tickMany _).copyPage _ _ = after at copied ⊢
  exact ⟨copied.ram, copied.cartridge, copied.nametables, copied.palettes, copied.dark,
    copied.address, copied.copied⟩

end Bus

namespace BusOperation

/-- A transfer that waits is the one that the last write to its register asked for, after any
operations from power-on. It ends 513 cycles later if the number of cycles up to that write is even
and 514 if it is odd. With both layers off, and from memory that answers without side effects, it
copies the page from the object address on, around the end of object memory, and leaves the object
address and every other memory as they were. -/
theorem runTransfer_copies_page (cartridge : Cartridge) (stopRequested : Bool)
    (operations : List BusOperation) (transfer : ObjectTransfer)
    (waiting : (run (Bus.new cartridge stopRequested) operations).transfer = some transfer) :
    let power := Bus.new cartridge stopRequested
    let bus := run power operations
    let length := bus.runTransfer.1
    let after := bus.runTransfer.2
    (∃ before rest, trace power operations = before ++ .store 0x4014 transfer.page :: rest ∧
      (∀ data, BusCycle.store 0x4014 data ∉ rest) ∧ length = 513 + (before.length + 1) % 2) ∧
    bus.cycles = (trace power operations).length ∧ after.cycles = bus.cycles + length ∧
    after.transfer = none ∧
    (bus.ppu.mask.rendering = false →
      transfer.page < 0x20 ∨ (0x60 ≤ transfer.page ∧
        (transfer.page < 0x80 → bus.cartridge.mapper.prgRamEnabled = true)) →
      (∀ offset : UInt8, after.ppu.object (bus.ppu.objectAddress + offset) =
        bus.peek (UInt16.ofBytes offset transfer.page)) ∧
      after.ppu.objectAddress = bus.ppu.objectAddress ∧ after.ram = bus.ram ∧
      after.cartridge = bus.cartridge ∧ after.ppu.nametables = bus.ppu.nametables ∧
      after.ppu.palettes = bus.ppu.palettes) := by
  intro power bus length after
  have requested : bus.Requested (trace power operations) :=
    requested_run (Bus.requested_new cartridge stopRequested) operations
  have counted : length = 512 + transfer.delay := by
    rw [← Bus.transferCycles_length waiting, ← Bus.runTransfer_fst]
  refine ⟨?_, requested.cycles, ?_, ?_, fun dark plain => ?_⟩
  · obtain ⟨before, rest, split, last, delay⟩ := requested.last transfer waiting
    exact ⟨before, rest, split, last, by omega⟩
  · rw [Bus.runTransfer_cycles, ← Bus.runTransfer_fst]
  · exact congrArg Bus.transfer bus.runTransfer_bus
  · have memory := Bus.isMemory_page plain
    have copying := Bus.copying_runTransfer waiting dark memory
    refine ⟨fun offset => ?_, ?_, copying.ram, copying.cartridge, copying.nametables,
      copying.palettes⟩
    · rw [Bus.peek_of_isMemory (memory offset)]
      exact copying.copied offset offset.toNat_lt
    · rw [copying.address]
      exact UInt8.add_zero _

def wrappingTransfer : List BusOperation :=
  [.write 0x0203 0x5a, .write 0x2003 0xfe, .write 0x4014 0x02, .tick]

theorem wrappingTransfer_copies :
    (run (Bus.new Cartridge.empty) wrappingTransfer).transfer =
      some { page := 0x02, delay := 2 } ∧
    (run (Bus.new Cartridge.empty) wrappingTransfer).runTransfer.1 = 514 ∧
    (run (Bus.new Cartridge.empty) wrappingTransfer).runTransfer.2.ppu.object 0x01 = 0x5a := by
  have waiting : (run (Bus.new Cartridge.empty) wrappingTransfer).transfer =
      some { page := 0x02, delay := 2 } := by decide +kernel
  have dark : (run (Bus.new Cartridge.empty) wrappingTransfer).ppu.mask.rendering = false := by
    decide +kernel
  have address : (run (Bus.new Cartridge.empty) wrappingTransfer).ppu.objectAddress = 0xfe := by
    decide +kernel
  have byte : (run (Bus.new Cartridge.empty) wrappingTransfer).peek (UInt16.ofBytes 0x03 0x02) =
      0x5a := by decide +kernel
  obtain ⟨⟨before, rest, split, last, length⟩, _, _, _, copies⟩ :=
    runTransfer_copies_page Cartridge.empty false wrappingTransfer _ waiting
  obtain ⟨copied, _⟩ := copies dark (.inl (by decide))
  refine ⟨waiting, ?_, ?_⟩
  · have cycles : trace (Bus.new Cartridge.empty) wrappingTransfer =
        [.store 0x0203 0x5a, .store 0x2003 0xfe, .store 0x4014 0x02, .idle] := rfl
    rw [cycles] at split
    match before, split with
    | [_, _], _ => simpa using length
    | _ :: _ :: _ :: tail, split => cases tail <;> simp at split
  · have third := copied 0x03
    rw [address, byte] at third
    exact third

end BusOperation

end Famicom
