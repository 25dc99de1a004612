import Famicom.Cartridge.Mmc1
import Mathlib.Tactic.SplitIfs

/-!
The serial port of mapper 001 beside a decoding of the writes it has seen. The decoding knows no
shifter and no counter: it cuts the writes at the resets, takes each piece by fives, and reads banks
and arrangement off the four registers. Main statement: `receive_decodes`.
-/

namespace Famicom

structure SerialWrite where
  address : UInt16
  data : UInt8
  deriving DecidableEq

namespace SerialWrite

def resets (write : SerialWrite) : Bool := decide (0x80 ≤ write.data)

def lowBit (write : SerialWrite) : Nat := write.data.toNat % 2

end SerialWrite

structure SerialRegisters where
  control : UInt8
  chrBank0 : UInt8 := 0
  chrBank1 : UInt8 := 0
  prgBank : UInt8 := 0
  deriving DecidableEq

inductive ProgramMode
  | wide
  | fixFirst
  | fixLast

namespace SerialRegisters

def powerOn (mirroring : Mirroring) : SerialRegisters where
  control := 0x0c + if mirroring = .vertical then 2 else 3

def store (registers : SerialRegisters) (address : UInt16) (value : UInt8) : SerialRegisters :=
  if address < 0xa000 then { registers with control := value }
  else if address < 0xc000 then { registers with chrBank0 := value }
  else if address < 0xe000 then { registers with chrBank1 := value }
  else { registers with prgBank := value }

/-- The writes between two resets. Of each five the last one chooses the register. -/
def decodePiece (registers : SerialRegisters) : List SerialWrite → SerialRegisters
  | first :: second :: third :: fourth :: last :: rest =>
      let value := first.lowBit + 2 * second.lowBit + 4 * third.lowBit + 8 * fourth.lowBit +
        16 * last.lowBit
      decodePiece (registers.store last.address (UInt8.ofNat value)) rest
  | _ => registers

def decodePieces (restored : UInt8) (registers : SerialRegisters) :
    List (List SerialWrite) → SerialRegisters
  | [] => registers
  | first :: later =>
      later.foldl (fun registers piece => decodePiece { registers with control := restored } piece)
        (registers.decodePiece first)

def decode (mirroring : Mirroring) (writes : List SerialWrite) : SerialRegisters :=
  decodePieces (powerOn mirroring).control (powerOn mirroring)
    (writes.splitOnP SerialWrite.resets)

def programMode (registers : SerialRegisters) : ProgramMode :=
  if registers.control.bit 3 then
    if registers.control.bit 2 then .fixLast else .fixFirst
  else .wide

def prgBankAt (registers : SerialRegisters) (prgBanks : Nat) (upper : Bool) : Nat :=
  let bank := registers.prgBank.toNat % 16
  match registers.programMode, upper with
  | .wide, false => bank - bank % 2
  | .wide, true => bank - bank % 2 + 1
  | .fixFirst, false => 0
  | .fixFirst, true => bank
  | .fixLast, false => bank
  | .fixLast, true => prgBanks - 1

def chrBankAt (registers : SerialRegisters) (upper : Bool) : Nat :=
  match registers.control.bit 4, upper with
  | false, false => registers.chrBank0.toNat - registers.chrBank0.toNat % 2
  | false, true => registers.chrBank0.toNat - registers.chrBank0.toNat % 2 + 1
  | true, false => registers.chrBank0.toNat
  | true, true => registers.chrBank1.toNat

def arrangement (registers : SerialRegisters) : Mirroring :=
  match registers.control.bit 1, registers.control.bit 0 with
  | false, false => .singleScreen0
  | false, true => .singleScreen1
  | true, false => .vertical
  | true, true => .horizontal

end SerialRegisters

namespace Mmc1

open SerialRegisters

def registers (board : Mmc1) : SerialRegisters where
  control := board.control
  chrBank0 := board.chrBank0
  chrBank1 := board.chrBank1
  prgBank := board.prgBank

def receive (board : Mmc1) (writes : List SerialWrite) : Mmc1 :=
  writes.foldl (fun board write => board.write write.address write.data) board

def build (board : Mmc1) : Nat × Nat × UInt8 := (board.prgBanks, board.chrBanks, board.powerOn)

/-! ## The shifter -/

theorem bit_seven (byte : UInt8) : byte.bit 7 = decide (0x80 ≤ byte) := by
  have every : ∀ byte : Fin 256, (UInt8.ofFin byte).bit 7 = decide (0x80 ≤ UInt8.ofFin byte) := by
    decide +kernel
  exact every byte.toFin

theorem lowBit_eq (write : SerialWrite) : write.lowBit = (write.data.bit 0).toNat := by
  rw [UInt8.toNat_bit, Nat.shiftRight_zero]
  rfl

def shifterOf (pending : List SerialWrite) : UInt8 :=
  pending.foldl (fun shifter write =>
    (shifter >>> 1) ||| (if write.data.bit 0 then 0x10 else 0)) 0

theorem shifterOf_concat (pending : List SerialWrite) (write : SerialWrite) :
    shifterOf (pending ++ [write]) =
      (shifterOf pending >>> 1) ||| (if write.data.bit 0 then 0x10 else 0) :=
  List.foldl_append

theorem shifterOf_five (first second third fourth last : SerialWrite) :
    shifterOf [first, second, third, fourth, last] =
      UInt8.ofNat (first.lowBit + 2 * second.lowBit + 4 * third.lowBit + 8 * fourth.lowBit +
        16 * last.lowBit) := by
  simp only [shifterOf, List.foldl_cons, List.foldl_nil, lowBit_eq]
  cases first.data.bit 0 <;> cases second.data.bit 0 <;> cases third.data.bit 0 <;>
    cases fourth.data.bit 0 <;> cases last.data.bit 0 <;> rfl

/-! ## One write -/

structure Receiving (board : Mmc1) (registers : SerialRegisters) (pending : List SerialWrite) :
    Prop where
  loaded : board.registers = registers
  short : pending.length < 5
  plain : ∀ write ∈ pending, write.resets = false
  received : board.received = pending.length
  shifter : board.shifter = shifterOf pending
  prgPlaced : board.prgOffsets = board.placeWindows.prgOffsets
  chrPlaced : board.chrOffsets = board.placeWindows.chrOffsets

theorem receiving_new (mirroring : Mirroring) (prgBanks chrBanks : Nat) :
    (new mirroring prgBanks chrBanks).Receiving (SerialRegisters.powerOn mirroring) [] where
  loaded := by
    unfold new SerialRegisters.powerOn
    by_cases vertical : mirroring = .vertical
    · simp only [vertical, if_true]
      rfl
    · simp only [vertical, if_false]
      rfl
  short := by decide
  plain := nofun
  received := rfl
  shifter := rfl
  prgPlaced := rfl
  chrPlaced := rfl

theorem write_build (board : Mmc1) (address : UInt16) (data : UInt8) :
    (board.write address data).build = board.build := by
  unfold write load select
  split
  · rfl
  · split
    · split <;> rfl
    · rfl

theorem registers_select (board : Mmc1) {address : UInt16} (high : 0x8000 ≤ address)
    (value : UInt8) : (board.select address value).registers =
      board.registers.store address value := by
  have bound := address.toNat_lt
  have above : 0x8000 ≤ address.toNat := high
  have below (limit : UInt16) : address < limit ↔ address.toNat < limit.toNat := Iff.rfl
  have quarter : address.toNat / 0x2000 = 4 ∨ address.toNat / 0x2000 = 5 ∨
      address.toNat / 0x2000 = 6 ∨ address.toNat / 0x2000 = 7 := by omega
  unfold select store
  simp only [below, UInt16.reduceToNat]
  rcases quarter with quarter | quarter | quarter | quarter <;> rw [quarter] <;> split_ifs <;>
    first | rfl | omega

section Step

variable {board : Mmc1} {registers : SerialRegisters} {pending : List SerialWrite}

theorem Receiving.reset (receiving : board.Receiving registers pending) {write : SerialWrite}
    (resets : write.resets = true) :
    (board.write write.address write.data).Receiving
      { registers with control := board.powerOn } [] := by
  have high : write.data.bit 7 = true := (bit_seven write.data).trans resets
  have written : board.write write.address write.data =
      { board with received := 0, shifter := 0, control := board.powerOn }.placeWindows :=
    if_pos high
  rw [written]
  exact {
    loaded := by rw [← receiving.loaded]; rfl
    short := by decide
    plain := nofun
    received := rfl
    shifter := rfl
    prgPlaced := rfl
    chrPlaced := rfl }

theorem Receiving.write_eq (receiving : board.Receiving registers pending) {write : SerialWrite}
    (plain : write.resets = false) :
    board.write write.address write.data =
      if pending.length = 4 then
        { board.load write.address (shifterOf (pending ++ [write])) with
          received := 0, shifter := 0 }
      else { board with
        received := pending.length + 1, shifter := shifterOf (pending ++ [write]) } := by
  have low : write.data.bit 7 = false := (bit_seven write.data).trans plain
  have shifted : board.shifted write.data = shifterOf (pending ++ [write]) := by
    rw [shifterOf_concat, ← receiving.shifter]
    rfl
  unfold Mmc1.write completes
  rw [low, shifted, receiving.received]
  simp only [Bool.false_eq_true, if_false]
  split <;> simp_all

theorem Receiving.more (receiving : board.Receiving registers pending) {write : SerialWrite}
    (plain : write.resets = false) (room : pending.length ≠ 4) :
    (board.write write.address write.data).Receiving registers (pending ++ [write]) := by
  have short := receiving.short
  rw [receiving.write_eq plain, if_neg room]
  exact {
    loaded := receiving.loaded
    short := by rw [List.length_append, List.length_singleton]; omega
    plain := by
      intro other member
      rcases List.mem_append.mp member with before | same
      · exact receiving.plain other before
      · rwa [List.mem_singleton.mp same]
    received := by rw [List.length_append, List.length_singleton]
    shifter := rfl
    prgPlaced := receiving.prgPlaced
    chrPlaced := receiving.chrPlaced }

theorem Receiving.last (receiving : board.Receiving registers pending) {write : SerialWrite}
    (plain : write.resets = false) (full : pending.length = 4) (high : 0x8000 ≤ write.address) :
    (board.write write.address write.data).Receiving
      (registers.store write.address (shifterOf (pending ++ [write]))) [] := by
  rw [receiving.write_eq plain, if_pos full]
  exact {
    loaded := by
      rw [← receiving.loaded, ← registers_select board high]
      rfl
    short := by decide
    plain := nofun
    received := rfl
    shifter := rfl
    prgPlaced := rfl
    chrPlaced := rfl }

end Step

/-! ## Runs of writes -/

theorem decodePiece_short (registers : SerialRegisters) {pending : List SerialWrite}
    (short : pending.length < 5) : registers.decodePiece pending = registers := by
  match pending with
  | [] | [_] | [_, _] | [_, _, _] | [_, _, _, _] => rfl
  | _ :: _ :: _ :: _ :: _ :: rest =>
      simp only [List.length_cons] at short
      omega

theorem decodePieces_reset (restored : UInt8) (registers : SerialRegisters)
    {pending : List SerialWrite} (short : pending.length < 5) (rest : List SerialWrite) :
    decodePieces restored registers (pending :: rest.splitOnP SerialWrite.resets) =
      decodePieces restored { registers with control := restored }
        (rest.splitOnP SerialWrite.resets) := by
  obtain ⟨piece, later, cut⟩ :=
    List.exists_cons_of_ne_nil (List.splitOnP_ne_nil SerialWrite.resets rest)
  rw [cut]
  change List.foldl _ _ (piece :: later) = _
  rw [decodePiece_short registers short]
  rfl

theorem decodePieces_group (restored : UInt8) (registers : SerialRegisters)
    {group : List SerialWrite} (five : group.length = 5)
    (plain : ∀ write ∈ group, write.resets = false) {last : SerialWrite}
    (ends : group.getLast? = some last) (rest : List SerialWrite) :
    decodePieces restored registers ((group ++ rest).splitOnP SerialWrite.resets) =
      decodePieces restored (registers.store last.address (shifterOf group))
        (rest.splitOnP SerialWrite.resets) := by
  obtain ⟨piece, later, cut⟩ :=
    List.exists_cons_of_ne_nil (List.splitOnP_ne_nil SerialWrite.resets rest)
  match group with
  | [first, second, third, fourth, fifth] =>
      obtain rfl : fifth = last := by simpa using ends
      simp only [List.forall_mem_cons] at plain
      simp only [List.cons_append, List.nil_append, List.splitOnP_cons_eq_if_modifyHead, plain,
        Bool.false_eq_true, if_false, cut, List.modifyHead_cons]
      rw [shifterOf_five]
      rfl

theorem Receiving.receive {board : Mmc1} {registers : SerialRegisters}
    {pending : List SerialWrite} (receiving : board.Receiving registers pending)
    (writes : List SerialWrite) (high : ∀ write ∈ writes, 0x8000 ≤ write.address) :
    ∃ left, (board.receive writes).Receiving
      (decodePieces board.powerOn registers ((pending ++ writes).splitOnP SerialWrite.resets))
      left := by
  -- Bits received so far wait in front of the writes; a reset drops them and a fifth bit uses them.
  induction writes generalizing board registers pending with
  | nil =>
      refine ⟨pending, ?_⟩
      rw [List.append_nil, List.splitOnP_eq_singleton receiving.plain]
      change board.Receiving (registers.decodePiece pending) pending
      rwa [decodePiece_short registers receiving.short]
  | cons write rest continues =>
      have above := high write List.mem_cons_self
      have highRest : ∀ write ∈ rest, 0x8000 ≤ write.address :=
        fun other member => high other (List.mem_cons_of_mem _ member)
      have kept : (board.write write.address write.data).powerOn = board.powerOn :=
        congrArg (fun build => build.2.2) (write_build board write.address write.data)
      cases resets : write.resets with
      | true =>
          have after := continues (receiving.reset resets) highRest
          rw [kept, List.nil_append] at after
          rw [List.splitOnP_append_cons_of_forall_mem receiving.plain write resets,
            decodePieces_reset board.powerOn registers receiving.short]
          exact after
      | false =>
          by_cases full : pending.length = 4
          · have after := continues (receiving.last resets full above) highRest
            rw [kept, List.nil_append] at after
            rw [List.append_cons, decodePieces_group board.powerOn registers
              (by rw [List.length_append, full]; rfl) ?_ List.getLast?_concat]
            · exact after
            · intro other member
              rcases List.mem_append.mp member with before | same
              · exact receiving.plain other before
              · rwa [List.mem_singleton.mp same]
          · have after := continues (receiving.more resets full) highRest
            rw [kept, List.append_assoc] at after
            exact after

theorem receive_build (board : Mmc1) (writes : List SerialWrite) :
    (board.receive writes).build = board.build := by
  induction writes generalizing board with
  | nil => rfl
  | cons write rest continues => exact (continues _).trans (write_build board _ _)

/-! ## Windows -/

theorem two_bits (byte : UInt8) (position : Nat) :
    byte.toNat >>> position % 4 =
      (byte.bit position).toNat + 2 * (byte.bit (position + 1)).toNat := by
  rw [UInt8.toNat_bit, UInt8.toNat_bit, Nat.shiftRight_succ]
  omega

theorem prgWindows_eq (board : Mmc1) : board.prgWindows =
    (board.registers.prgBankAt board.prgBanks false,
      board.registers.prgBankAt board.prgBanks true) := by
  have even : board.prgBank.toNat % 16 / 2 * 2 =
      board.prgBank.toNat % 16 - board.prgBank.toNat % 16 % 2 := by omega
  have mode : board.control.toNat / 4 % 4 =
      (board.control.bit 2).toNat + 2 * (board.control.bit 3).toNat := by
    rw [← two_bits, Nat.shiftRight_eq_div_pow]
  unfold prgWindows prgBankAt programMode
  rcases Bool.eq_false_or_eq_true (board.control.bit 2) with low | low <;>
    rcases Bool.eq_false_or_eq_true (board.control.bit 3) with high | high <;>
    simp only [mode, even, registers, low, high] <;> rfl

theorem chrWindows_eq (board : Mmc1) : board.chrWindows =
    (board.registers.chrBankAt false, board.registers.chrBankAt true) := by
  have even : board.chrBank0.toNat / 2 * 2 = board.chrBank0.toNat - board.chrBank0.toNat % 2 := by
    omega
  unfold chrWindows chrBankAt
  dsimp only [registers]
  rw [even]
  cases board.control.bit 4 <;> rfl

theorem mirroring_eq (board : Mmc1) : board.mirroring = board.registers.arrangement := by
  have mode := two_bits board.control 0
  rw [Nat.shiftRight_zero] at mode
  unfold mirroring arrangement
  dsimp only [registers]
  rw [mode]
  cases board.control.bit 0 <;> cases board.control.bit 1 <;> rfl

section Placed

variable {board : Mmc1} {registers : SerialRegisters} {pending : List SerialWrite}

theorem Receiving.prgOffset (receiving : board.Receiving registers pending) (address : UInt16) :
    board.prgOffset address =
      registers.prgBankAt board.prgBanks (decide (0xc000 ≤ address)) % board.prgBanks * 0x4000 +
        address.toNat % 0x4000 := by
  have windows := board.prgWindows_eq
  rw [receiving.loaded] at windows
  unfold Mmc1.prgOffset
  rw [receiving.prgPlaced]
  simp only [placeWindows, windows]
  by_cases lower : address < 0xc000
  · rw [if_pos lower, decide_eq_false (UInt16.not_le.mpr lower)]
  · rw [if_neg lower, decide_eq_true (UInt16.not_lt.mp lower)]

theorem Receiving.chrOffset (receiving : board.Receiving registers pending) {address : Nat}
    (inside : address < 0x2000) :
    board.chrOffset address =
      registers.chrBankAt (decide (0x1000 ≤ address)) % board.chrBanks * 0x1000 +
        address % 0x1000 := by
  have windows := board.chrWindows_eq
  rw [receiving.loaded] at windows
  unfold Mmc1.chrOffset
  rw [receiving.chrPlaced]
  simp only [placeWindows, windows]
  by_cases upper : 0x1000 ≤ address
  · rw [if_neg (by omega), decide_eq_true upper]
  · rw [if_pos (by omega), decide_eq_false upper]

end Placed

/-- After any writes the registers are those of the decoding, and the board maps addresses, arranges
the nametables and answers for the work RAM by them alone. -/
theorem receive_decodes (mirroring : Mirroring) (prgBanks chrBanks : Nat)
    (writes : List SerialWrite) (high : ∀ write ∈ writes, 0x8000 ≤ write.address) :
    let board := (new mirroring prgBanks chrBanks).receive writes
    let registers := SerialRegisters.decode mirroring writes
    board.registers = registers ∧
    (∀ address : UInt16, 0x8000 ≤ address → board.prgOffset address =
      registers.prgBankAt prgBanks (decide (0xc000 ≤ address)) % prgBanks * 0x4000 +
        address.toNat % 0x4000) ∧
    (∀ address < 0x2000, board.chrOffset address =
      registers.chrBankAt (decide (0x1000 ≤ address)) % (2 * max chrBanks 1) * 0x1000 +
        address % 0x1000) ∧
    board.mirroring = registers.arrangement ∧
    (board.prgRamEnabled = true ↔ registers.prgBank.bit 4 = false) := by
  intro board registers
  have start := receiving_new mirroring prgBanks chrBanks
  have restored : (new mirroring prgBanks chrBanks).powerOn =
      (SerialRegisters.powerOn mirroring).control :=
    congrArg SerialRegisters.control start.loaded
  obtain ⟨left, receiving⟩ := start.receive writes high
  rw [restored, List.nil_append] at receiving
  change board.Receiving registers left at receiving
  have build : board.build = (new mirroring prgBanks chrBanks).build := receive_build _ writes
  have prg : board.prgBanks = prgBanks := congrArg (fun build => build.1) build
  have chr : board.chrBanks = 2 * max chrBanks 1 :=
    (congrArg (fun build => build.2.1) build).trans (Nat.mul_comm _ 2)
  have loaded := receiving.loaded
  refine ⟨loaded, fun address _ => ?_, fun address inside => ?_, ?_, ?_⟩
  · rw [receiving.prgOffset, prg]
  · rw [receiving.chrOffset inside, chr]
  · rw [mirroring_eq, loaded]
  · rw [← loaded]
    exact iff_of_eq (Bool.not_eq_true' (board.prgBank.bit 4))

/-- Two bits that a reset drops, and then a program bank whose bits come through two addresses. -/
def interruptedLoad : List SerialWrite :=
  [⟨0xe000, 1⟩, ⟨0xe000, 1⟩, ⟨0x8000, 0x80⟩, ⟨0x8000, 1⟩, ⟨0xa000, 0⟩, ⟨0x8000, 1⟩, ⟨0xa000, 0⟩,
    ⟨0xffff, 0x7e⟩]

theorem interruptedLoad_selects :
    (∀ write ∈ interruptedLoad, 0x8000 ≤ write.address) ∧
    ((new .vertical 8 0).receive interruptedLoad).registers = { control := 0x0e, prgBank := 5 } ∧
    ((new .vertical 8 0).receive interruptedLoad).prgOffset 0x8001 = 5 * 0x4000 + 1 := by
  have high : ∀ write ∈ interruptedLoad, 0x8000 ≤ write.address := by decide
  have decoded : SerialRegisters.decode .vertical interruptedLoad =
      { control := 0x0e, prgBank := 5 } := by decide
  have law := receive_decodes .vertical 8 0 interruptedLoad high
  rw [decoded] at law
  refine ⟨high, law.1, ?_⟩
  rw [law.2.1 0x8001 (by decide)]
  rfl

end Mmc1

end Famicom
