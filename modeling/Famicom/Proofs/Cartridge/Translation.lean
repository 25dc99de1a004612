import Famicom.Proofs.Cartridge.Acceptance

namespace Famicom

theorem Chip.getElem?_of_lt (chip : Chip) {offset : Nat} (inside : offset < chip.size) :
    chip.bytes[offset]? = some (chip.read offset) := by
  have read := chip.getElem?_mod offset
  rwa [Nat.mod_eq_of_lt (show offset < chip.bytes.size from inside)] at read

/-! ## Operations -/

inductive CartridgeOperation
  | cpuWrite (address : UInt16) (data : UInt8)
  | chrWrite (address : Nat) (data : UInt8)
  deriving DecidableEq

namespace CartridgeOperation

def apply (cartridge : Cartridge) : CartridgeOperation → Cartridge
  | cpuWrite address data => cartridge.cpuWrite address data
  | chrWrite address data => cartridge.chrWrite address data

def run (cartridge : Cartridge) (operations : List CartridgeOperation) : Cartridge :=
  operations.foldl apply cartridge

def mapperWrite? : CartridgeOperation → Option SerialWrite
  | cpuWrite address data => if address < 0x8000 then none else some ⟨address, data⟩
  | chrWrite _ _ => none

end CartridgeOperation

def Mapper.receive (mapper : Mapper) (writes : List SerialWrite) : Mapper :=
  match mapper with
  | nrom board => nrom board
  | mmc1 board => mmc1 (board.receive writes)

namespace Cartridge

/-- What no operation changes: program ROM, the size of the pattern chip, and its contents if it
is a ROM. -/
structure SameChips (before after : Cartridge) : Prop where
  prgRom : after.prgRom = before.prgRom
  size : after.chr.size = before.chr.size
  writable : after.chrWritable = before.chrWritable
  chrRom : before.chrWritable = false → after.chr = before.chr

namespace SameChips

variable {first second third : Cartridge}

theorem refl (cartridge : Cartridge) : SameChips cartridge cartridge :=
  ⟨rfl, rfl, rfl, fun _ => rfl⟩

theorem trans (one : SameChips first second) (two : SameChips second third) :
    SameChips first third where
  prgRom := two.prgRom.trans one.prgRom
  size := two.size.trans one.size
  writable := two.writable.trans one.writable
  chrRom rom := (two.chrRom (one.writable.trans rom)).trans (one.chrRom rom)

end SameChips

theorem sameChips_cpuWrite (cartridge : Cartridge) (address : UInt16) (data : UInt8) :
    SameChips cartridge (cartridge.cpuWrite address data) := by
  unfold cpuWrite
  split_ifs <;> exact ⟨rfl, rfl, rfl, fun _ => rfl⟩

theorem sameChips_chrWrite (cartridge : Cartridge) (address : Nat) (data : UInt8) :
    SameChips cartridge (cartridge.chrWrite address data) := by
  unfold chrWrite
  split
  · rename_i writable
    refine ⟨rfl, Chip.size_write _ _ _, rfl, fun rom => ?_⟩
    rw [writable] at rom
    cases rom
  · exact .refl cartridge

end Cartridge

namespace CartridgeOperation

theorem sameChips_run (cartridge : Cartridge) (operations : List CartridgeOperation) :
    cartridge.SameChips (run cartridge operations) := by
  induction operations generalizing cartridge with
  | nil => exact .refl cartridge
  | cons operation rest continues =>
      refine Cartridge.SameChips.trans ?_ (continues (apply cartridge operation))
      cases operation with
      | cpuWrite address data => exact cartridge.sameChips_cpuWrite address data
      | chrWrite address data => exact cartridge.sameChips_chrWrite address data

theorem apply_mapper (cartridge : Cartridge) (operation : CartridgeOperation) :
    (apply cartridge operation).mapper =
      cartridge.mapper.receive operation.mapperWrite?.toList := by
  cases operation with
  | chrWrite address data =>
      simp only [apply, Cartridge.chrWrite]
      split <;> cases cartridge.mapper <;> rfl
  | cpuWrite address data =>
      by_cases low : address < 0x8000
      · simp only [apply, Cartridge.cpuWrite, mapperWrite?, low, if_true]
        split_ifs <;> cases cartridge.mapper <;> rfl
      · have high := (UInt16.past (UInt16.not_lt.mp low) 0x6000 (by decide)).1
        simp only [apply, Cartridge.cpuWrite, mapperWrite?, low, high, if_false]
        cases cartridge.mapper <;> rfl

theorem run_mapper (cartridge : Cartridge) (operations : List CartridgeOperation) :
    (run cartridge operations).mapper =
      cartridge.mapper.receive (operations.filterMap mapperWrite?) := by
  induction operations generalizing cartridge with
  | nil =>
      change cartridge.mapper = cartridge.mapper.receive []
      cases cartridge.mapper <;> rfl
  | cons operation rest continues =>
      refine (continues (apply cartridge operation)).trans ?_
      rw [apply_mapper, List.filterMap_cons]
      cases cartridge.mapper <;> cases operation.mapperWrite? <;> rfl

theorem mapperWrite_high {operations : List CartridgeOperation} {write : SerialWrite}
    (listed : write ∈ operations.filterMap mapperWrite?) : 0x8000 ≤ write.address := by
  obtain ⟨operation, _, written⟩ := List.mem_filterMap.mp listed
  cases operation with
  | chrWrite address data => cases written
  | cpuWrite address data =>
      simp only [mapperWrite?] at written
      split at written
      · cases written
      · cases written
        exact UInt16.not_lt.mp ‹_›

end CartridgeOperation

/-! ## Windows -/

/-- Each half of the program addresses lies in one piece inside a chip of that many bytes. -/
def Mapper.MapsProgram (mapper : Mapper) (size : Nat) : Prop :=
  ∀ upper : Bool, ∃ base, base + 0x4000 ≤ size ∧
    ∀ address : UInt16, 0x8000 ≤ address → decide (0xc000 ≤ address) = upper →
      mapper.prgOffset address = base + address.toNat % 0x4000

def Mapper.MapsPatterns (mapper : Mapper) (size : Nat) : Prop :=
  ∀ upper : Bool, ∃ base, base + 0x1000 ≤ size ∧
    ∀ address < 0x2000, decide (0x1000 ≤ address) = upper →
      mapper.chrOffset address = base + address % 0x1000

theorem Mapper.MapsProgram.offset_lt {mapper : Mapper} {size : Nat}
    (maps : mapper.MapsProgram size) {address : UInt16} (high : 0x8000 ≤ address) :
    mapper.prgOffset address < size := by
  obtain ⟨base, inside, placed⟩ := maps (decide (0xc000 ≤ address))
  rw [placed address high rfl]
  omega

theorem Mapper.MapsProgram.consecutive {mapper : Mapper} {size : Nat}
    (maps : mapper.MapsProgram size) {first second : UInt16} (high : 0x8000 ≤ first)
    (ordered : first ≤ second) (window : second.toNat / 0x4000 = first.toNat / 0x4000) :
    mapper.prgOffset second = mapper.prgOffset first + (second.toNat - first.toNat) := by
  obtain ⟨base, -, placed⟩ := maps (decide (0xc000 ≤ first))
  have half : decide (0xc000 ≤ second) = decide (0xc000 ≤ first) := by
    simp only [UInt16.le_iff_toNat_le, UInt16.reduceToNat, decide_eq_decide]
    omega
  have ordered : first.toNat ≤ second.toNat := ordered
  rw [placed first high rfl, placed second (UInt16.le_trans high ‹_›) half]
  omega

theorem Mapper.MapsPatterns.offset_lt {mapper : Mapper} {size : Nat}
    (maps : mapper.MapsPatterns size) (address : Nat) :
    mapper.chrOffset (address % 0x2000) < size := by
  obtain ⟨base, inside, placed⟩ := maps (decide (0x1000 ≤ address % 0x2000))
  rw [placed _ (Nat.mod_lt _ (by decide)) rfl]
  omega

theorem Mapper.MapsPatterns.consecutive {mapper : Mapper} {size : Nat}
    (maps : mapper.MapsPatterns size) {first second : Nat} (ordered : first ≤ second)
    (window : second / 0x1000 = first / 0x1000) :
    mapper.chrOffset (second % 0x2000) = mapper.chrOffset (first % 0x2000) + (second - first) := by
  obtain ⟨base, -, placed⟩ := maps (decide (0x1000 ≤ first % 0x2000))
  have half : decide (0x1000 ≤ second % 0x2000) = decide (0x1000 ≤ first % 0x2000) := by
    rw [decide_eq_decide]
    omega
  rw [placed _ (Nat.mod_lt _ (by decide)) rfl, placed _ (Nat.mod_lt _ (by decide)) half]
  omega

theorem bank_le {banks : Nat} (some : 0 < banks) (bank size : Nat) :
    bank % banks * size + size ≤ banks * size := by
  rw [← Nat.succ_mul]
  exact Nat.mul_le_mul_right size (Nat.mod_lt bank some)

namespace Mmc1.Receiving

variable {board : Mmc1} {registers : SerialRegisters} {pending : List SerialWrite}

theorem mapsProgram (receiving : board.Receiving registers pending) (some : 0 < board.prgBanks) :
    (Mapper.mmc1 board).MapsProgram (board.prgBanks * 0x4000) := by
  intro upper
  refine ⟨_, bank_le some (registers.prgBankAt board.prgBanks upper) 0x4000, ?_⟩
  rintro address - rfl
  exact receiving.prgOffset address

theorem mapsPatterns (receiving : board.Receiving registers pending) (some : 0 < board.chrBanks) :
    (Mapper.mmc1 board).MapsPatterns (board.chrBanks * 0x1000) := by
  intro upper
  refine ⟨_, bank_le some (registers.chrBankAt upper) 0x1000, ?_⟩
  rintro address inside rfl
  exact receiving.chrOffset inside

end Mmc1.Receiving

namespace Nrom

theorem mapsProgram (mirroring : Mirroring) {banks : Nat} (some : 0 < banks) :
    (Mapper.nrom { mirroring, prgBanks := banks }).MapsProgram (banks * 0x4000) := by
  have ends := Nrom.showsEnds mirroring banks
  intro upper
  refine ⟨16384 * (if upper then banks - 1 else 0), ?_, ?_⟩
  · cases upper
    · simp only [Bool.false_eq_true, if_false]
      omega
    · simp only [if_true]
      omega
  · rintro address high rfl
    rw [ends address high]
    by_cases lower : address < 0xc000
    · rw [if_pos lower, decide_eq_false (UInt16.not_le.mpr lower)]
      rfl
    · rw [if_neg lower, decide_eq_true (UInt16.not_lt.mp lower)]
      rfl

theorem mapsPatterns (board : Nrom) {size : Nat} (whole : 0x2000 ≤ size) :
    (Mapper.nrom board).MapsPatterns size := by
  intro upper
  refine ⟨if upper then 0x1000 else 0, ?_, ?_⟩
  · split <;> omega
  · rintro address inside rfl
    change address = _
    by_cases half : 0x1000 ≤ address
    · rw [decide_eq_true half, if_pos rfl]
      omega
    · rw [decide_eq_false half, if_neg (by decide)]
      omega

end Nrom

/-! ## Accepted images -/

namespace Image

variable {image : ByteArray} {header : Header}

theorem describes_of_parse (parsed : Header.parse image = .ok header) :
    header.Describes image := by
  by_cases long : 16 ≤ image.size
  case neg =>
    rw [parse_of_short long] at parsed
    cases parsed
  by_cases signed : image.data.toList.take 4 = signature
  case neg =>
    rw [parse_of_unsigned long signed] at parsed
    cases parsed
  by_cases banks : byte image 4 = 0
  case pos =>
    rw [parse_of_bankless long signed banks] at parsed
    cases parsed
  obtain ⟨found, parsedAs, describes⟩ := parse_of_signed long signed banks
  rw [parsedAs] at parsed
  cases parsed
  exact describes

theorem board_cases {mapper : Mapper} (mapped : header.board = .ok mapper) :
    (header.mapper = 0 ∧
      mapper = .nrom { mirroring := header.mirroring, prgBanks := header.prgBanks }) ∨
    (header.mapper = 1 ∧
      mapper = .mmc1 (Mmc1.new header.mirroring header.prgBanks header.chrBanks)) := by
  unfold Header.board at mapped
  split at mapped
  · split at mapped
    · cases mapped
      exact .inl ⟨‹_›, rfl⟩
    · cases mapped
  · cases mapped
    exact .inr ⟨‹_›, rfl⟩
  · cases mapped

section Blank

variable {prgBanks chrBanks control : UInt8}

def blankHeader (prgBanks chrBanks control : UInt8) : List UInt8 :=
  [0x4e, 0x45, 0x53, 0x1a, prgBanks, chrBanks, control, 0, 0, 0, 0, 0, 0, 0, 0, 0]

def blank (prgBanks chrBanks control : UInt8) : ByteArray :=
  ⟨⟨blankHeader prgBanks chrBanks control ++
    List.replicate (16384 * prgBanks.toNat + 8192 * chrBanks.toNat) 0⟩⟩

theorem size_blank : (blank prgBanks chrBanks control).size =
    16 + (16384 * prgBanks.toNat + 8192 * chrBanks.toNat) := by
  change List.length _ = _
  rw [List.length_append, List.length_replicate]
  rfl

theorem byte_blank {index : Nat} (early : index < 16) :
    byte (blank prgBanks chrBanks control) index =
      ((blankHeader prgBanks chrBanks control)[index]?.getD 0).toNat := by
  have head : (blank prgBanks chrBanks control)[index]? =
      (blankHeader prgBanks chrBanks control)[index]? := by
    rw [getElem?_bytes]
    exact List.getElem?_append_left early
  rw [byte, head]

theorem mapperNumber_blank :
    mapperNumber (blank prgBanks chrBanks control) = control.toNat / 16 := by
  have high : byte (blank prgBanks chrBanks control) 7 = 0 := byte_blank (by decide)
  have low : byte (blank prgBanks chrBanks control) 6 = control.toNat := byte_blank (by decide)
  rw [mapperNumber, low, high, Nat.zero_div, Nat.zero_mul, Nat.zero_add]

theorem acceptable_blank (banks : prgBanks.toNat ≠ 0) (mapped : control.toNat / 16 ≤ 1)
    (few : control.toNat / 16 = 0 → prgBanks.toNat ≤ 2) (plain : control.toNat / 4 % 2 = 0) :
    Acceptable (blank prgBanks chrBanks control) := by
  have prg : byte (blank prgBanks chrBanks control) 4 = prgBanks.toNat := byte_blank (by decide)
  have chr : byte (blank prgBanks chrBanks control) 5 = chrBanks.toNat := byte_blank (by decide)
  have low : byte (blank prgBanks chrBanks control) 6 = control.toNat := byte_blank (by decide)
  exact {
    long := by
      rw [size_blank]
      omega
    signed := rfl
    banks := by rwa [prg]
    mapped := by rwa [mapperNumber_blank]
    few := by rwa [mapperNumber_blank, prg]
    whole := by
      rw [neededSize, chrPlace, prgPlace, prg, chr, low, plain, size_blank]
      omega }

end Blank

section Fits

variable (describes : header.Describes image) (fits : header.imageSize ≤ image.size)
include describes

theorem prgChip_size : (prgChip image header fits).size = header.prgBanks * 0x4000 := by
  rw [(holds_prgChip describes fits).size, describes.prgBanks, Nat.mul_comm]

theorem chrChip_size : (chrChip image header fits).size = max header.chrBanks 1 * 0x2000 := by
  rw [describes.chrBanks]
  by_cases none : byte image 5 = 0
  · have filled := congrArg List.length (chrChip_of_none describes fits none)
    rw [List.length_replicate] at filled
    rw [none]
    exact filled
  · rw [(holds_chrChip describes fits none).size, Nat.max_eq_left (Nat.pos_of_ne_zero none),
      Nat.mul_comm]

end Fits

end Image

namespace Cartridge

open Image

variable {image : ByteArray} {cartridge : Cartridge}

theorem load_ok (loaded : load image = .ok cartridge) :
    ∃ header mapper, ∃ fits : header.imageSize ≤ image.size,
      Header.parse image = .ok header ∧ header.board = .ok mapper ∧
        cartridge = built image header fits mapper := by
  cases parsed : Header.parse image with
  | error error =>
      rw [load_of_parse_error parsed] at loaded
      cases loaded
  | ok header =>
      cases mapped : header.board with
      | error error =>
          rw [load_of_board_error parsed mapped] at loaded
          cases loaded
      | ok mapper =>
          rw [load_of_board parsed mapped] at loaded
          split at loaded
          · cases loaded
            exact ⟨header, mapper, ‹_›, rfl, mapped, rfl⟩
          · cases loaded

theorem maps_of_load (loaded : load image = .ok cartridge) {writes : List SerialWrite}
    (high : ∀ write ∈ writes, 0x8000 ≤ write.address) :
    (cartridge.mapper.receive writes).MapsProgram cartridge.prgRom.size ∧
      (cartridge.mapper.receive writes).MapsPatterns cartridge.chr.size := by
  obtain ⟨header, mapper, fits, parsed, mapped, rfl⟩ := load_ok loaded
  have describes := describes_of_parse parsed
  have some := header.prgBanks_pos
  simp only [built, prgChip_size describes fits, chrChip_size describes fits]
  rcases board_cases mapped with ⟨-, rfl⟩ | ⟨-, rfl⟩
  · exact ⟨Nrom.mapsProgram _ some, Nrom.mapsPatterns _ (by omega)⟩
  · obtain ⟨left, receiving⟩ :=
      (Mmc1.receiving_new header.mirroring header.prgBanks header.chrBanks).receive writes high
    -- Writes change the registers of the board but not its numbers of banks.
    have build := Mmc1.receive_build
      (Mmc1.new header.mirroring header.prgBanks header.chrBanks) writes
    have prgBanks := congrArg (fun build => build.1) build
    have chrBanks := congrArg (fun build => build.2.1) build
    change Mmc1.prgBanks _ = header.prgBanks at prgBanks
    change Mmc1.chrBanks _ = max header.chrBanks 1 * 2 at chrBanks
    have program := receiving.mapsProgram (by omega)
    have patterns := receiving.mapsPatterns (by omega)
    rw [prgBanks] at program
    rw [chrBanks, Nat.mul_assoc] at patterns
    exact ⟨program, patterns⟩

structure Translates (cartridge : Cartridge) : Prop where
  prg : ∀ address : UInt16, 0x8000 ≤ address →
    cartridge.mapper.prgOffset address < cartridge.prgRom.size ∧
      cartridge.cpuRead address = cartridge.prgRom.bytes[cartridge.mapper.prgOffset address]?
  prgConsecutive : ∀ first second : UInt16, 0x8000 ≤ first → first ≤ second →
    second.toNat / 0x4000 = first.toNat / 0x4000 →
      cartridge.mapper.prgOffset second =
        cartridge.mapper.prgOffset first + (second.toNat - first.toNat)
  chr : ∀ address, cartridge.mapper.chrOffset (address % 0x2000) < cartridge.chr.size ∧
    some (cartridge.chrRead address) =
      cartridge.chr.bytes[cartridge.mapper.chrOffset (address % 0x2000)]?
  chrConsecutive : ∀ first second : Nat, first ≤ second → second / 0x1000 = first / 0x1000 →
    cartridge.mapper.chrOffset (second % 0x2000) =
      cartridge.mapper.chrOffset (first % 0x2000) + (second - first)
  nametable : ∀ address, (cartridge.nametableCell address).val < 0x1000

theorem translates_of_maps (program : cartridge.mapper.MapsProgram cartridge.prgRom.size)
    (patterns : cartridge.mapper.MapsPatterns cartridge.chr.size) : cartridge.Translates where
  prg address high := by
    have inside := program.offset_lt high
    refine ⟨inside, ?_⟩
    rw [cpuRead_of_rom cartridge high, cartridge.prgRom.getElem?_of_lt inside]
  prgConsecutive _ _ := program.consecutive
  chr address := by
    have inside := patterns.offset_lt address
    exact ⟨inside, (cartridge.chr.getElem?_of_lt inside).symm⟩
  chrConsecutive _ _ := patterns.consecutive
  nametable address := (cartridge.nametableCell address).isLt

/-- Whatever is written to an accepted cartridge, every address leads into its chip, the addresses
of a window lead to bytes that follow each other, and no byte of a ROM changes. -/
theorem translation_inside (loaded : load image = .ok cartridge)
    (operations : List CartridgeOperation) :
    let after := CartridgeOperation.run cartridge operations
    after.Translates ∧ after.prgRom = cartridge.prgRom ∧
      (byte image 5 ≠ 0 → after.chr = cartridge.chr) := by
  intro after
  have same := CartridgeOperation.sameChips_run cartridge operations
  have high : ∀ write ∈ operations.filterMap CartridgeOperation.mapperWrite?,
      0x8000 ≤ write.address := fun _ => CartridgeOperation.mapperWrite_high
  have maps := maps_of_load loaded high
  rw [← CartridgeOperation.run_mapper, ← same.prgRom, ← same.size] at maps
  refine ⟨translates_of_maps maps.1 maps.2, same.prgRom, fun banked => same.chrRom ?_⟩
  obtain ⟨header, mapper, fits, parsed, mapped, rfl⟩ := load_ok loaded
  rw [← (describes_of_parse parsed).chrBanks] at banked
  exact beq_false_of_ne banked

theorem fiveBanks_translate :
    ∃ cartridge, load (blank 5 0 0x10) = .ok cartridge ∧
      let after := CartridgeOperation.run cartridge (List.replicate 5 (.cpuWrite 0xe000 1))
      after.mapper.prgOffset 0xbfff < after.prgRom.size ∧
        after.mapper.prgOffset 0xbfff = after.mapper.prgOffset 0x8000 + 0x3fff := by
  have acceptable : Acceptable (blank 5 0 0x10) :=
    acceptable_blank (by decide) (by decide) (by decide) (by decide)
  obtain ⟨cartridge, loaded, _⟩ := load_of_acceptable acceptable
  have law := translation_inside loaded (List.replicate 5 (.cpuWrite 0xe000 1))
  exact ⟨cartridge, loaded, (law.1.prg 0xbfff (by decide)).1,
    law.1.prgConsecutive 0x8000 0xbfff (by decide) (by decide) (by decide)⟩

end Cartridge

end Famicom
