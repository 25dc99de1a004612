import Famicom.Proofs.Console.Run
import Famicom.Proofs.Cpu.InterruptEntry
import Famicom.Proofs.Cpu.Refusal
import Famicom.Proofs.Ppu.Dot

/-!
Power-up ends before anything is drawn or evaluated. A program that repeats one byte which is no
instruction therefore fails with its first step and leaves the fresh machine as it is.
-/

namespace Famicom

attribute [local irreducible] Bus.tick

namespace PpuOperation

theorem evaluation_ticks {state : Ppu × Cartridge} (dark : state.1.mask.rendering = false)
    (count : Nat) : (run state (List.replicate count .tick)).1.evaluation =
      state.1.evaluation := by
  induction count generalizing state with
  | zero => rfl
  | succ count continues =>
      obtain ⟨_, _, _, _, ticked⟩ := state.1.tick_dark state.2 dark
      have mask : (apply state .tick).1.mask.rendering = false := by
        rw [apply, ticked]
        exact dark
      have kept : (apply state .tick).1.evaluation = state.1.evaluation := by
        rw [apply, ticked]
      exact (continues mask).trans kept

end PpuOperation

theorem Machine.resetCpu_starts (bus : Bus) : let machine := Machine.resetCpu bus
    machine.cpu.registers.pc = UInt16.ofBytes (bus.romByte 0xfffc) (bus.romByte 0xfffd) ∧
      machine.Uninterrupted ∧ Bus.SameMemory bus machine.bus := by
  let low := (bus.read 0xfffc).2
  let high := (low.read 0xfffd).2
  have reset : Machine.resetCpu bus =
      { cpu := { registers := { pc := UInt16.ofBytes (bus.read 0xfffc).1 (low.read 0xfffd).1 } }
        bus := high.tick.tick.tick.tick.tick } := rfl
  have first := Bus.sameMemory_read bus 0xfffc
  have second := Bus.sameMemory_read low 0xfffd
  rw [reset, Bus.read_of_rom bus (by decide), Bus.read_of_rom low (by decide),
    Bus.romByte_of_cartridge first.cartridge]
  refine ⟨rfl, ⟨rfl, rfl⟩, ?_, ?_, ?_⟩
  · simpa using second.ram.trans first.ram
  · simpa using second.cartridge.trans first.cartridge
  · simpa using second.transfer.trans first.transfer

namespace Console

theorem unfaulted_new (cartridge : Cartridge) : (new cartridge).bus.faulted = false := by
  have dark : (Bus.new cartridge).picture.1.mask.rendering = false := by
    show ({} : PpuMask).rendering = false
    decide
  show (new cartridge).bus.picture.1.evaluation.overrun = false
  rw [picture_new, PpuOperation.evaluation_ticks dark]
  rfl

theorem step_of_jammed {cartridge : Cartridge} {byte : UInt8}
    (filled : ∀ offset, cartridge.prgRom.read offset = byte)
    (refused : Instruction.decode byte = none) (rom : 0x8000 ≤ UInt16.ofBytes byte byte) :
    let error := CpuError.unknownOpcode (UInt16.ofBytes byte byte) byte
    (new cartridge).step = (.error error, { new cartridge with halted := some error }) := by
  let machine := Machine.new cartridge
  have starts : machine.cpu.registers.pc = _ ∧ machine.Uninterrupted ∧
      Bus.SameMemory _ machine.bus := Machine.resetCpu_starts (Bus.new cartridge)
  obtain ⟨pc, free, same⟩ := starts
  have begun (address : UInt16) : (Bus.new cartridge).romByte address = byte := filled _
  rw [begun, begun] at pc
  have peeked : machine.peekedOpcode = byte := by
    rw [Machine.peekedOpcode, pc, Bus.peek_of_rom _ rom, Bus.romByte_of_cartridge same.cartridge,
      begun]
  have failed : machine.step =
      (.error (.unknownOpcode (UInt16.ofBytes byte byte) byte), machine) := by
    rw [Machine.step_of_uninterrupted free, peeked, refused, pc]
  have waits : ¬ (new cartridge).Transfers := by
    have transfer : (new cartridge).bus.transfer = none := same.transfer
    unfold Transfers
    rw [transfer]
    decide
  have advanced : advance (new cartridge).machine = _ :=
    (advance_of_not_transfers waits).trans failed
  have live : (new cartridge).halted = none := rfl
  unfold step
  rw [live, advanced]
  rfl

end Console

/-! ## An image with one bank -/

namespace Image

def ofBank (bank : List UInt8) : ByteArray :=
  ⟨⟨[0x4e, 0x45, 0x53, 0x1a, 1, 0, 0, 0, 0, 0, 0, 0, 0, 0, 0, 0] ++ bank⟩⟩

variable {bank : List UInt8}

theorem size_ofBank : (ofBank bank).size = bank.length + 16 := rfl

def oneBank : Header where
  prgBanks := 1
  chrBanks := 0
  mapper := 0
  trainer := false
  mirroring := .horizontal
  prgBanks_pos := Nat.one_pos

theorem parse_ofBank : Header.parse (ofBank bank) = .ok oneBank := by
  have long : 16 ≤ (ofBank bank).size := Nat.le_add_left 16 bank.length
  unfold Image.Header.parse
  rw [dif_neg (show ¬ (ofBank bank).size < headerSize from Nat.not_lt.mpr long)]
  have signature : (ofBank bank)[0] = 0x4e ∧ (ofBank bank)[1] = 0x45 ∧ (ofBank bank)[2] = 0x53 ∧
      (ofBank bank)[3] = 0x1a := ⟨rfl, rfl, rfl, rfl⟩
  have control : (ofBank bank)[6] = 0 := rfl
  have banks : (ofBank bank)[4] = 1 := rfl
  have patterns : (ofBank bank)[5] = 0 := rfl
  have extended : (ofBank bank)[7] = 0 := rfl
  simp only [signature, control, banks, patterns, extended]
  rfl

theorem fits_ofBank (whole : bank.length = prgBankSize) :
    oneBank.imageSize ≤ (ofBank bank).size := by
  rw [size_ofBank, whole]
  decide

theorem read_ofBank (whole : bank.length = prgBankSize) (offset : Nat) :
    (prgChip (ofBank bank) oneBank (fits_ofBank whole)).read offset ∈ bank := by
  have bytes : (ofBank bank).extract oneBank.prgStart oneBank.chrStart = ⟨⟨bank⟩⟩ := by
    apply ByteArray.ext
    rw [ByteArray.data_extract]
    apply Array.toList_inj.mp
    rw [Array.toList_extract]
    show List.take (0x4010 - 16) bank = bank
    exact List.take_of_length_le (Nat.le_of_eq whole)
  have read := (prgChip (ofBank bank) oneBank (fits_ofBank whole)).getElem?_mod offset
  have chip : (prgChip (ofBank bank) oneBank (fits_ofBank whole)).bytes = ⟨⟨bank⟩⟩ := bytes
  rw [chip, getElem?_bytes] at read
  exact List.mem_of_getElem? read

theorem load_ofBank (whole : bank.length = prgBankSize) :
    ∃ cartridge, Cartridge.load (ofBank bank) = .ok cartridge ∧
      ∀ offset, cartridge.prgRom.read offset ∈ bank := by
  have board : oneBank.board = .ok (.nrom { mirroring := .horizontal, prgBanks := 1 }) := rfl
  refine ⟨{ prgRom := prgChip (ofBank bank) oneBank (fits_ofBank whole)
            prgRam := Memory.fill 0x2000 0
            chr := chrChip (ofBank bank) oneBank (fits_ofBank whole)
            chrWritable := true
            mapper := .nrom { mirroring := .horizontal, prgBanks := 1 } }, ?_, read_ofBank whole⟩
  simp only [Cartridge.load, parse_ofBank, board, Bind.bind, Except.bind,
    dif_pos (fits_ofBank whole)]
  rfl

end Image

end Famicom
