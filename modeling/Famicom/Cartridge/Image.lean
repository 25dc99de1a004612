import Famicom.Cartridge.Basic
import Famicom.Numeral

/-!
The iNES image format: a sixteen-byte header, an optional trainer, the program banks, then the
pattern banks. `Cartridge.load` refuses an image for the first of its faults.
-/

namespace Famicom

inductive ImageError
  | badSignature
  | truncated (needed actual : Nat)
  | noPrgBanks
  | invalidBankCount (mapper prgBanks : Nat)
  | unsupportedMapper (mapper : Nat)
  deriving DecidableEq

def ImageError.message : ImageError → String
  | badSignature => "missing iNES signature"
  | truncated needed actual => s!"image truncated: need {needed} bytes, got {actual}"
  | noPrgBanks => "header declares no PRG banks"
  | invalidBankCount mapper prgBanks =>
      s!"mapper {Numeral.decimal 3 mapper} cannot map {prgBanks} PRG banks"
  | unsupportedMapper mapper => s!"unsupported mapper {Numeral.decimal 3 mapper}"

namespace Image

def headerSize : Nat := 0x10
def trainerSize : Nat := 0x200
def prgBankSize : Nat := 0x4000
def chrBankSize : Nat := 0x2000

structure Header where
  prgBanks : Nat
  chrBanks : Nat
  mapper : Nat
  trainer : Bool
  mirroring : Mirroring
  prgBanks_pos : 0 < prgBanks

namespace Header

def parse (image : ByteArray) : Except ImageError Header :=
  if long : image.size < headerSize then .error (.truncated headerSize image.size)
  else
    have : 16 ≤ image.size := Nat.not_lt.mp long
    if image[0] = 0x4e ∧ image[1] = 0x45 ∧ image[2] = 0x53 ∧ image[3] = 0x1a then
      let control := image[6]
      if present : 0 < image[4].toNat then
        .ok {
          prgBanks := image[4].toNat
          chrBanks := image[5].toNat
          mapper := image[7].toNat / 16 * 16 + control.toNat / 16
          trainer := control.bit 2
          mirroring :=
            if control.bit 3 then .fourScreen
            else if control.bit 0 then .vertical
            else .horizontal
          prgBanks_pos := present }
      else .error .noPrgBanks
    else .error .badSignature

def board (header : Header) : Except ImageError Mapper :=
  match header.mapper with
  | 0 =>
      if header.prgBanks ≤ 2 then
        .ok (.nrom { mirroring := header.mirroring, prgBanks := header.prgBanks })
      else .error (.invalidBankCount 0 header.prgBanks)
  | 1 => .ok (.mmc1 (Mmc1.new header.mirroring header.prgBanks header.chrBanks))
  | other => .error (.unsupportedMapper other)

def prgStart (header : Header) : Nat :=
  headerSize + header.trainer.toNat * trainerSize

def chrStart (header : Header) : Nat :=
  header.prgStart + header.prgBanks * prgBankSize

def imageSize (header : Header) : Nat :=
  header.chrStart + header.chrBanks * chrBankSize

def summary (header : Header) : String :=
  let ram := if header.chrBanks = 0 then " (RAM)" else ""
  s!"mapper {Numeral.decimal 3 header.mapper}, PRG ROM {header.prgBanks} * 16KB, " ++
    s!"CHR {header.chrBanks} * 8KB{ram}, mirroring {header.mirroring.name}"

end Header

def prgChip (image : ByteArray) (header : Header) (fits : header.imageSize ≤ image.size) :
    Chip where
  bytes := image.extract header.prgStart header.chrStart
  nonempty := by
    have := header.prgBanks_pos
    rw [ByteArray.size_extract]
    simp only [Header.imageSize, Header.chrStart, prgBankSize, chrBankSize] at *
    omega

def chrChip (image : ByteArray) (header : Header) (fits : header.imageSize ≤ image.size) : Chip :=
  if present : 0 < header.chrBanks then
    { bytes := image.extract header.chrStart header.imageSize
      nonempty := by
        rw [ByteArray.size_extract]
        simp only [Header.imageSize, chrBankSize] at *
        omega }
  else Chip.fill chrBankSize 0 (by decide)

end Image

namespace Cartridge

open Image

def load (image : ByteArray) : Except ImageError Cartridge := do
  let header ← Header.parse image
  let mapper ← header.board
  if fits : header.imageSize ≤ image.size then
    .ok {
      prgRom := prgChip image header fits
      prgRam := Memory.fill 0x2000 0
      chr := chrChip image header fits
      chrWritable := header.chrBanks == 0
      mapper }
  else .error (.truncated header.imageSize image.size)

/-- The built-in board: every program byte is a no-operation, apart from a jump at $FF00 to itself
and the three vectors, which point there. -/
def empty : Cartridge where
  prgRom := [(0x3f00, 0x4c), (0x3f01, 0x00), (0x3f02, 0xff), (0x3ffa, 0x00), (0x3ffb, 0xff),
      (0x3ffc, 0x00), (0x3ffd, 0xff), (0x3ffe, 0x00), (0x3fff, 0xff)].foldl
    (fun chip (offset, byte) => chip.write offset byte) (Chip.fill prgBankSize 0xea (by decide))
  prgRam := Memory.fill 0x2000 0
  chr := Chip.fill chrBankSize 0 (by decide)
  chrWritable := true
  mapper := .nrom { mirroring := .horizontal, prgBanks := 1 }

end Cartridge

end Famicom
