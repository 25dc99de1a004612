import Famicom.Cartridge.Image
import Famicom.Proofs.Cartridge.SerialPort

namespace Famicom

namespace Image

/-! ## The layout of an image -/

def byte (image : ByteArray) (index : Nat) : Nat := (image[index]?.getD 0).toNat

def signature : List UInt8 := [0x4e, 0x45, 0x53, 0x1a]

def mapperNumber (image : ByteArray) : Nat := byte image 7 / 16 * 16 + byte image 6 / 16

def prgPlace (image : ByteArray) : Nat := 16 + 512 * (byte image 6 / 4 % 2)

def chrPlace (image : ByteArray) : Nat := prgPlace image + 16384 * byte image 4

def neededSize (image : ByteArray) : Nat := chrPlace image + 8192 * byte image 5

/-! ## The checks -/

structure Check where
  passed : Bool
  refusal : ImageError

def checks (image : ByteArray) : List Check :=
  [⟨16 ≤ image.size, .truncated 16 image.size⟩,
    ⟨image.data.toList.take 4 = signature, .badSignature⟩,
    ⟨byte image 4 ≠ 0, .noPrgBanks⟩,
    ⟨mapperNumber image ≤ 1, .unsupportedMapper (mapperNumber image)⟩,
    ⟨mapperNumber image = 0 → byte image 4 ≤ 2, .invalidBankCount 0 (byte image 4)⟩,
    ⟨neededSize image ≤ image.size, .truncated (neededSize image) image.size⟩]

def fault (image : ByteArray) : Option ImageError :=
  ((checks image).find? fun check => !check.passed).map (·.refusal)

structure Acceptable (image : ByteArray) : Prop where
  long : 16 ≤ image.size
  signed : image.data.toList.take 4 = signature
  banks : byte image 4 ≠ 0
  mapped : mapperNumber image ≤ 1
  few : mapperNumber image = 0 → byte image 4 ≤ 2
  whole : neededSize image ≤ image.size

variable {image : ByteArray}

theorem fault_eq_none_iff : fault image = none ↔ Acceptable image := by
  have passed : fault image = none ↔ ∀ check ∈ checks image, check.passed = true := by
    simp [fault]
  rw [passed]
  constructor
  · intro all
    simp only [checks, List.forall_mem_cons, decide_eq_true_eq] at all
    obtain ⟨long, signed, banks, mapped, few, whole, _⟩ := all
    exact ⟨long, signed, banks, mapped, few, whole⟩
  · rintro ⟨long, signed, banks, mapped, few, whole⟩
    simp only [checks, List.forall_mem_cons, decide_eq_true_eq]
    exact ⟨long, signed, banks, mapped, few, whole, nofun⟩

/-! ## The header -/

theorem byte_eq {index : Nat} (inside : index < image.size) :
    byte image index = image[index].toNat := by
  simp [byte, inside]

structure Header.Describes (header : Header) (image : ByteArray) : Prop where
  prgBanks : header.prgBanks = byte image 4
  chrBanks : header.chrBanks = byte image 5
  mapper : header.mapper = mapperNumber image
  prgStart : header.prgStart = prgPlace image

theorem signed_iff : image.data.toList.take 4 = signature ↔
    image[0]? = some 0x4e ∧ image[1]? = some 0x45 ∧ image[2]? = some 0x53 ∧
      image[3]? = some 0x1a := by
  simp only [getElem?_bytes]
  rcases image.data.toList with _ | ⟨first, _ | ⟨second, _ | ⟨third, _ | ⟨fourth, rest⟩⟩⟩⟩ <;>
    simp [signature]

theorem parse_of_short (short : ¬ 16 ≤ image.size) :
    Header.parse image = .error (.truncated 16 image.size) := by
  unfold Header.parse
  exact dif_pos (Nat.not_le.mp short)

theorem parse_of_long (long : 16 ≤ image.size) : Header.parse image =
    if image.data.toList.take 4 = signature then
      if present : 0 < byte image 4 then
        .ok {
          prgBanks := byte image 4
          chrBanks := byte image 5
          mapper := mapperNumber image
          trainer := (byte image 6).testBit 2
          mirroring :=
            if (byte image 6).testBit 3 then .fourScreen
            else if (byte image 6).testBit 0 then .vertical
            else .horizontal
          prgBanks_pos := present }
      else .error .noPrgBanks
    else .error .badSignature := by
  have fits : ¬ image.size < headerSize := Nat.not_lt.mpr long
  have read {index : Nat} (early : index < 16) : image[index]? = some image[index] :=
    getElem?_pos image index _
  have signed : image.data.toList.take 4 = signature ↔
      image[0] = 0x4e ∧ image[1] = 0x45 ∧ image[2] = 0x53 ∧ image[3] = 0x1a := by
    rw [signed_iff, read (by decide), read (by decide), read (by decide), read (by decide)]
    simp only [Option.some_inj]
  have number {index : Nat} (early : index < 16) : byte image index = image[index].toNat :=
    byte_eq _
  unfold Header.parse
  rw [dif_neg fits]
  simp only [signed, mapperNumber, number (show 4 < 16 by decide), number (show 5 < 16 by decide),
    number (show 6 < 16 by decide), number (show 7 < 16 by decide)]
  rfl

theorem parse_of_unsigned (long : 16 ≤ image.size)
    (unsigned : ¬ image.data.toList.take 4 = signature) :
    Header.parse image = .error .badSignature := by
  rw [parse_of_long long, if_neg unsigned]

theorem parse_of_bankless (long : 16 ≤ image.size)
    (signed : image.data.toList.take 4 = signature) (bankless : byte image 4 = 0) :
    Header.parse image = .error .noPrgBanks := by
  rw [parse_of_long long, if_pos signed, dif_neg (Nat.not_lt.mpr (Nat.le_of_eq bankless))]

theorem parse_of_signed (long : 16 ≤ image.size)
    (signed : image.data.toList.take 4 = signature) (banks : byte image 4 ≠ 0) :
    ∃ header, Header.parse image = .ok header ∧ header.Describes image := by
  have trainer : ((byte image 6).testBit 2).toNat = byte image 6 / 4 % 2 := Nat.toNat_testBit _ _
  rw [parse_of_long long, if_pos signed, dif_pos (Nat.pos_of_ne_zero banks)]
  refine ⟨_, rfl, ⟨rfl, rfl, rfl, ?_⟩⟩
  show 16 + ((byte image 6).testBit 2).toNat * 512 = prgPlace image
  rw [trainer, Nat.mul_comm]
  rfl

theorem parse_append (long : 16 ≤ image.size) (more : ByteArray) :
    Header.parse (image ++ more) = Header.parse image := by
  have longer : 16 ≤ (image ++ more).size := by
    rw [ByteArray.size_append]
    exact Nat.le_add_right_of_le long
  have head : (image ++ more).data.toList.take 4 = image.data.toList.take 4 := by
    rw [ByteArray.toList_data_append]
    exact List.take_append_of_le_length (Nat.le_trans (by decide) long)
  have kept {index : Nat} (early : index < 16) : byte (image ++ more) index = byte image index := by
    have inside := Nat.lt_of_lt_of_le early long
    rw [byte_eq inside, byte_eq (Nat.lt_of_lt_of_le early longer),
      ByteArray.getElem_append_left inside]
  rw [parse_of_long longer, parse_of_long long]
  simp only [head, mapperNumber, kept (show 4 < 16 by decide), kept (show 5 < 16 by decide),
    kept (show 6 < 16 by decide), kept (show 7 < 16 by decide)]

namespace Header

variable {header : Header}

theorem Describes.chrStart (describes : header.Describes image) :
    header.chrStart = chrPlace image := by
  rw [Header.chrStart, describes.prgStart, describes.prgBanks, Nat.mul_comm]
  rfl

theorem Describes.imageSize (describes : header.Describes image) :
    header.imageSize = neededSize image := by
  rw [Header.imageSize, describes.chrStart, describes.chrBanks, Nat.mul_comm]
  rfl

theorem Describes.few (describes : header.Describes image)
    (few : mapperNumber image = 0 → byte image 4 ≤ 2) : header.mapper = 0 → header.prgBanks ≤ 2 := by
  rw [describes.mapper, describes.prgBanks]
  exact few

end Header

end Image

/-! ## The board -/

def Mapper.ShowsEnds (mapper : Mapper) (banks : Nat) : Prop :=
  ∀ address : UInt16, 0x8000 ≤ address → mapper.prgOffset address =
    16384 * (if address < 0xc000 then 0 else banks - 1) + address.toNat % 16384

theorem Nrom.showsEnds (mirroring : Mirroring) (banks : Nat) :
    (Mapper.nrom { mirroring, prgBanks := banks }).ShowsEnds banks := by
  intro address high
  have high : 0x8000 ≤ address.toNat := high
  have below := address.toNat_lt
  show Nrom.prgOffset _ address = _
  unfold Nrom.prgOffset
  split
  · rename_i lower
    have lower : address.toNat < 0xc000 := lower
    omega
  · rename_i upper
    have upper : 0xc000 ≤ address.toNat := UInt16.not_lt.mp upper
    dsimp only
    omega

theorem SerialRegisters.prgBankAt_powerOn (mirroring : Mirroring) (banks : Nat) (upper : Bool) :
    (powerOn mirroring).prgBankAt banks upper = if upper then banks - 1 else 0 := by
  have mode : (powerOn mirroring).programMode = .fixLast := by
    cases mirroring <;> rfl
  unfold prgBankAt
  rw [mode]
  cases upper <;> rfl

theorem Mmc1.showsEnds (mirroring : Mirroring) {banks : Nat} (some : 0 < banks) (chrBanks : Nat) :
    (Mapper.mmc1 (Mmc1.new mirroring banks chrBanks)).ShowsEnds banks := by
  intro address _
  -- At power-on the serial port has seen no write, so its registers are those of the decoding.
  have placed := (receiving_new mirroring banks chrBanks).prgOffset address
  rw [SerialRegisters.prgBankAt_powerOn] at placed
  have last : (banks - 1) % banks = banks - 1 := Nat.mod_eq_of_lt (by omega)
  have wiring : (Mmc1.new mirroring banks chrBanks).prgBanks = banks := rfl
  rw [wiring] at placed
  refine placed.trans ?_
  by_cases lower : address < 0xc000
  · have upper : decide (0xc000 ≤ address) = false := decide_eq_false (UInt16.not_le.mpr lower)
    simp [lower, upper]
  · have upper : decide (0xc000 ≤ address) = true := decide_eq_true (UInt16.not_lt.mp lower)
    simp [lower, upper, last, Nat.mul_comm]

namespace Image

variable {image : ByteArray} {header : Header}

theorem board_of_unmapped (unmapped : ¬ header.mapper ≤ 1) :
    header.board = .error (.unsupportedMapper header.mapper) := by
  unfold Header.board
  split
  · omega
  · omega
  · rfl

theorem board_of_crowded (plain : header.mapper = 0) (many : ¬ header.prgBanks ≤ 2) :
    header.board = .error (.invalidBankCount 0 header.prgBanks) := by
  unfold Header.board
  rw [plain]
  exact if_neg many

theorem board_of_mapped (mapped : header.mapper ≤ 1)
    (few : header.mapper = 0 → header.prgBanks ≤ 2) :
    ∃ mapper, header.board = .ok mapper ∧ mapper.number = header.mapper ∧
      mapper.ShowsEnds header.prgBanks := by
  rcases Nat.le_one_iff_eq_zero_or_eq_one.mp mapped with plain | serial
  · refine ⟨.nrom { mirroring := header.mirroring, prgBanks := header.prgBanks }, ?_, plain.symm,
      Nrom.showsEnds _ _⟩
    unfold Header.board
    rw [plain]
    exact if_pos (few plain)
  · refine ⟨.mmc1 (Mmc1.new header.mirroring header.prgBanks header.chrBanks), ?_, serial.symm,
      Mmc1.showsEnds _ header.prgBanks_pos _⟩
    unfold Header.board
    simp only [serial]

/-! ## The chips -/

def Holds (image : ByteArray) (chip : Chip) (start length : Nat) : Prop :=
  start + length ≤ image.size ∧
    chip.bytes.data.toList = (image.data.toList.drop start).take length

theorem holds_of_extract {chip : Chip} {start length : Nat}
    (extracted : chip.bytes = image.extract start (start + length))
    (inside : start + length ≤ image.size) : Holds image chip start length := by
  refine ⟨inside, ?_⟩
  rw [extracted, ByteArray.data_extract, Array.toList_extract, List.extract_eq_take_drop,
    Nat.add_sub_cancel_left]

theorem Holds.size {chip : Chip} {start length : Nat} (holds : Holds image chip start length) :
    chip.size = length := by
  obtain ⟨inside, same⟩ := holds
  have counted := congrArg List.length same
  rw [List.length_take, List.length_drop] at counted
  change chip.size = min length (image.size - start) at counted
  omega

theorem Holds.read {chip : Chip} {start length offset : Nat}
    (holds : Holds image chip start length) (below : offset < length) :
    some (chip.read offset) = image[start + offset]? := by
  have within : offset < chip.bytes.size := Nat.lt_of_lt_of_eq below holds.size.symm
  rw [← chip.getElem?_mod, Nat.mod_eq_of_lt within, getElem?_bytes, holds.2, List.getElem?_take,
    if_pos below, List.getElem?_drop, getElem?_bytes]

section Fits

variable (describes : header.Describes image) (fits : header.imageSize ≤ image.size)
include describes

theorem holds_prgChip : Holds image (prgChip image header fits) (prgPlace image)
    (16384 * byte image 4) := by
  have whole := describes.imageSize ▸ fits
  refine holds_of_extract ?_ (Nat.le_trans (Nat.le_add_right _ _) whole)
  show image.extract header.prgStart header.chrStart = _
  rw [describes.prgStart, describes.chrStart]
  rfl

theorem holds_chrChip (present : byte image 5 ≠ 0) :
    Holds image (chrChip image header fits) (chrPlace image) (8192 * byte image 5) := by
  have whole := describes.imageSize ▸ fits
  refine holds_of_extract ?_ whole
  unfold chrChip
  rw [dif_pos (describes.chrBanks ▸ Nat.pos_of_ne_zero present)]
  show image.extract header.chrStart header.imageSize = _
  rw [describes.chrStart, describes.imageSize]
  rfl

theorem chrChip_of_none (none : byte image 5 = 0) :
    (chrChip image header fits).bytes.data.toList = List.replicate 8192 0 := by
  have unbanked : ¬ 0 < header.chrBanks := Nat.not_lt.mpr (Nat.le_of_eq (describes.chrBanks.trans none))
  unfold chrChip
  rw [dif_neg unbanked]
  exact Array.toList_replicate

end Fits

theorem extract_append_left {start stop : Nat} (inside : stop ≤ image.size) (more : ByteArray) :
    (image ++ more).extract start stop = image.extract start stop := by
  have beyond : more.extract (start - image.size) (stop - image.size) = ByteArray.empty := by
    rw [Nat.sub_eq_zero_of_le inside]
    exact ByteArray.extract_eq_empty_iff.mpr (by omega)
  rw [ByteArray.extract_append, beyond, ByteArray.append_empty]

section Append

variable (fits : header.imageSize ≤ image.size) (more : ByteArray)
  (longer : header.imageSize ≤ (image ++ more).size)
include fits

theorem prgChip_append : prgChip (image ++ more) header longer = prgChip image header fits := by
  have inside : header.chrStart ≤ image.size := Nat.le_trans (Nat.le_add_right _ _) fits
  unfold prgChip
  simp only [extract_append_left inside more]

theorem chrChip_append : chrChip (image ++ more) header longer = chrChip image header fits := by
  unfold chrChip
  simp only [extract_append_left fits more]

end Append

/-! ## The cartridge -/

def bankByte (image : ByteArray) (bank offset : Nat) : Option UInt8 :=
  image[prgPlace image + (16384 * bank + offset)]?

structure Fills (image : ByteArray) (cartridge : Cartridge) : Prop where
  mapper : cartridge.mapper.number = mapperNumber image
  prg : Holds image cartridge.prgRom (prgPlace image) (16384 * byte image 4)
  chr : byte image 5 ≠ 0 → Holds image cartridge.chr (chrPlace image) (8192 * byte image 5)
  ram : byte image 5 = 0 → cartridge.chr.bytes.data.toList = List.replicate 8192 0
  writable : cartridge.chrWritable = true ↔ byte image 5 = 0
  windows : ∀ address : UInt16, 0x8000 ≤ address → cartridge.cpuRead address =
    bankByte image (if address < 0xc000 then 0 else byte image 4 - 1) (address.toNat % 16384)

end Image

namespace Cartridge

open Image

variable {image : ByteArray}

theorem load_of_parse_error {error : ImageError} (parsed : Header.parse image = .error error) :
    load image = .error error := by
  unfold load
  rw [parsed]
  rfl

theorem load_of_board_error {header : Header} {error : ImageError}
    (parsed : Header.parse image = .ok header) (unmapped : header.board = .error error) :
    load image = .error error := by
  unfold load
  simp only [parsed, unmapped, Bind.bind, Except.bind]

def built (image : ByteArray) (header : Header) (fits : header.imageSize ≤ image.size)
    (mapper : Mapper) : Cartridge where
  prgRom := prgChip image header fits
  prgRam := Memory.fill 0x2000 0
  chr := chrChip image header fits
  chrWritable := header.chrBanks == 0
  mapper

theorem load_of_board {header : Header} {mapper : Mapper}
    (parsed : Header.parse image = .ok header) (mapped : header.board = .ok mapper) :
    load image =
      if fits : header.imageSize ≤ image.size then .ok (built image header fits mapper)
      else .error (.truncated header.imageSize image.size) := by
  unfold load built
  simp only [parsed, mapped, Bind.bind, Except.bind]

theorem cpuRead_of_showsEnds {cartridge : Cartridge} (some : 0 < byte image 4)
    (prg : Holds image cartridge.prgRom (prgPlace image) (16384 * byte image 4))
    (ends : cartridge.mapper.ShowsEnds (byte image 4)) {address : UInt16}
    (high : 0x8000 ≤ address) :
    cartridge.cpuRead address =
      bankByte image (if address < 0xc000 then 0 else byte image 4 - 1) (address.toNat % 16384) := by
  rw [cpuRead_of_rom cartridge high, ends address high]
  refine prg.read ?_
  split <;> omega

theorem load_append {header : Header} {mapper : Mapper} (long : 16 ≤ image.size)
    (parsed : Header.parse image = .ok header) (mapped : header.board = .ok mapper)
    (fits : header.imageSize ≤ image.size) (more : ByteArray) : load (image ++ more) = load image := by
  have longer : header.imageSize ≤ (image ++ more).size := by
    rw [ByteArray.size_append]
    exact Nat.le_add_right_of_le fits
  rw [load_of_board parsed mapped, dif_pos fits,
    load_of_board ((parse_append long more).trans parsed) mapped, dif_pos longer, built, built,
    prgChip_append fits more longer, chrChip_append fits more longer]

theorem fills_built {header : Header} {mapper : Mapper} (describes : header.Describes image)
    (fits : header.imageSize ≤ image.size) (number : mapper.number = header.mapper)
    (ends : mapper.ShowsEnds header.prgBanks) :
    Fills image (built image header fits mapper) := by
  let cartridge := built image header fits mapper
  have prg : Holds image cartridge.prgRom (prgPlace image) (16384 * byte image 4) :=
    holds_prgChip describes fits
  have shown : cartridge.mapper.ShowsEnds (byte image 4) := describes.prgBanks ▸ ends
  have some : 0 < byte image 4 := describes.prgBanks ▸ header.prgBanks_pos
  have writable : cartridge.chrWritable = true ↔ byte image 5 = 0 := by
    show (header.chrBanks == 0) = true ↔ _
    rw [beq_iff_eq, describes.chrBanks]
  exact {
    mapper := number.trans describes.mapper
    prg
    chr := holds_chrChip describes fits
    ram := chrChip_of_none describes fits
    writable
    windows := fun _ high => cpuRead_of_showsEnds some prg shown high }

theorem load_of_acceptable (acceptable : Acceptable image) :
    ∃ cartridge, load image = .ok cartridge ∧ Fills image cartridge ∧
      ∀ more, load (image ++ more) = .ok cartridge := by
  obtain ⟨header, parsed, describes⟩ :=
    parse_of_signed acceptable.long acceptable.signed acceptable.banks
  obtain ⟨mapper, mapped, number, ends⟩ :=
    board_of_mapped (describes.mapper ▸ acceptable.mapped) (describes.few acceptable.few)
  have fits : header.imageSize ≤ image.size := describes.imageSize ▸ acceptable.whole
  have loaded : load image = .ok (built image header fits mapper) := by
    rw [load_of_board parsed mapped, dif_pos fits]
  refine ⟨_, loaded, fills_built describes fits number ends, fun more => ?_⟩
  rw [load_append acceptable.long parsed mapped fits more, loaded]

theorem load_of_fault {error : ImageError} (found : fault image = some error) :
    load image = .error error := by
  -- One check after the other, as they are listed: each case knows that the checks before it passed.
  by_cases long : 16 ≤ image.size
  case neg =>
    have first : error = .truncated 16 image.size := by
      simpa [fault, checks, long] using found.symm
    rw [first, load_of_parse_error (parse_of_short long)]
  by_cases signed : image.data.toList.take 4 = signature
  case neg =>
    have first : error = .badSignature := by
      simpa [fault, checks, long, signed] using found.symm
    rw [first, load_of_parse_error (parse_of_unsigned long signed)]
  by_cases banks : byte image 4 = 0
  case pos =>
    have first : error = .noPrgBanks := by
      simpa [fault, checks, long, signed, banks] using found.symm
    rw [first, load_of_parse_error (parse_of_bankless long signed banks)]
  obtain ⟨header, parsed, describes⟩ := parse_of_signed long signed banks
  by_cases mapped : mapperNumber image ≤ 1
  case neg =>
    have first : error = .unsupportedMapper (mapperNumber image) := by
      simpa [fault, checks, long, signed, banks, mapped] using found.symm
    have unmapped := board_of_unmapped (describes.mapper ▸ mapped)
    rw [first, load_of_board_error parsed unmapped, describes.mapper]
  by_cases few : mapperNumber image = 0 → byte image 4 ≤ 2
  case neg =>
    have first : error = .invalidBankCount 0 (byte image 4) := by
      simpa [fault, checks, long, signed, banks, mapped, few] using found.symm
    obtain ⟨plain, many⟩ := Classical.not_imp.mp few
    have crowded := board_of_crowded (describes.mapper.trans plain) (describes.prgBanks ▸ many)
    rw [first, load_of_board_error parsed crowded, describes.prgBanks]
  obtain ⟨mapper, board, _⟩ := board_of_mapped (describes.mapper ▸ mapped) (describes.few few)
  have unfit : ¬ neededSize image ≤ image.size := by
    intro whole
    have none := fault_eq_none_iff.mpr ⟨long, signed, banks, mapped, few, whole⟩
    rw [found] at none
    cases none
  have first : error = .truncated (neededSize image) image.size := by
    simpa [fault, checks, long, signed, banks, mapped, decide_eq_true few, unfit] using found.symm
  rw [first, load_of_board parsed board, dif_neg (describes.imageSize ▸ unfit), describes.imageSize]

/-- An image is refused for the first check that it fails. One that passes them all is on the
cartridge as it stands, and what comes after it changes nothing. -/
theorem load_by_checks (image : ByteArray) :
    ((∃ cartridge, load image = .ok cartridge) ↔ Acceptable image) ∧
    match fault image with
    | some error => load image = .error error
    | none => ∃ cartridge, load image = .ok cartridge ∧ Fills image cartridge ∧
        ∀ more, load (image ++ more) = .ok cartridge := by
  cases found : fault image with
  | some error =>
      have refused := load_of_fault found
      refine ⟨⟨?_, fun acceptable => ?_⟩, refused⟩
      · rintro ⟨cartridge, loaded⟩
        rw [refused] at loaded
        cases loaded
      · rw [fault_eq_none_iff.mpr acceptable] at found
        cases found
  | none =>
      have acceptable := fault_eq_none_iff.mp found
      obtain ⟨cartridge, loaded, rest⟩ := load_of_acceptable acceptable
      exact ⟨⟨fun _ => acceptable, fun _ => ⟨cartridge, loaded⟩⟩, cartridge, loaded, rest⟩

example : fault ⟨#[0x4e, 0x45, 0x53]⟩ = some (.truncated 16 3) := by decide

end Cartridge

end Famicom
