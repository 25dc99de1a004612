import Famicom.Proofs.Cartridge.Translation
import Famicom.Proofs.Ppu.Operation
import Mathlib.Logic.Function.Basic

namespace Famicom

/-! ## Arrangements -/

theorem Mirroring.injective_area_iff (mirroring : Mirroring) :
    Function.Injective mirroring.area ↔ mirroring = .fourScreen := by
  constructor
  · intro apart
    cases mirroring with
    | horizontal => exact absurd (@apart 0 1 rfl) (by decide)
    | vertical => exact absurd (@apart 0 2 rfl) (by decide)
    | singleScreen0 => exact absurd (@apart 0 1 rfl) (by decide)
    | singleScreen1 => exact absurd (@apart 0 1 rfl) (by decide)
    | fourScreen => rfl
  · rintro rfl first second same
    exact same

theorem Mmc1.mirroring_ne_fourScreen (board : Mmc1) : board.mirroring ≠ .fourScreen := by
  unfold mirroring
  split <;> nofun

/-! ## Nametables through the data port -/

namespace Ppu

theorem readVram_write_nametable (ppu : Ppu) (cartridge : Cartridge) (data : UInt8) {other : Nat}
    (above : 0x2000 ≤ ppu.v.address) (below : ppu.v.address < 0x3f00)
    (otherAbove : 0x2000 ≤ other) (otherBelow : other < 0x3f00) :
    let after := ppu.write cartridge 0x2007 data
    after.1.readVram after.2 other =
      if cartridge.nametableCell ppu.v.address = cartridge.nametableCell other then data
      else ppu.readVram cartridge other := by
  intro after
  have stored : ({ ppu with ioLatch := data } : Ppu).writeVram cartridge data =
      ({ ppu with
        ioLatch := data
        nametables := ppu.nametables.write (cartridge.nametableCell ppu.v.address) data },
        cartridge) := by
    simp only [writeVram, Nat.not_lt.mpr above, below, if_true, if_false]
  obtain ⟨v, advanced⟩ := Ppu.advanceAddress_updates
    { ppu with
      ioLatch := data
      nametables := ppu.nametables.write (cartridge.nametableCell ppu.v.address) data }
  have written : after = ({ ppu with
      ioLatch := data
      nametables := ppu.nametables.write (cartridge.nametableCell ppu.v.address) data
      v }, cartridge) := by
    have register : (0x2007 : UInt16).toNat % 8 = 7 := rfl
    simp only [after, write, register, stored, advanced]
  have whole : other % 0x4000 = other := Nat.mod_eq_of_lt (by omega)
  rw [written]
  simp only [readVram, whole, Nat.not_lt.mpr otherAbove, otherBelow, if_true, if_false,
    Memory.read_write]

end Ppu

namespace Cartridge

/-- Each of the four nametables has 1 KB of nametable memory to itself. -/
def SeparatesTables (cartridge : Cartridge) : Prop :=
  ∃ area : Fin 4 → Fin 4, Function.Injective area ∧ ∀ address,
    (cartridge.nametableCell address).val =
      (area (residue 4 (address / 0x400))).val * 0x400 + address % 0x400

/-- No byte that is written through $2007 to one nametable changes another. -/
def KeepsTables (cartridge : Cartridge) : Prop :=
  ∀ (ppu : Ppu) (data : UInt8) (other : Nat),
    0x2000 ≤ ppu.v.address → ppu.v.address < 0x3f00 → 0x2000 ≤ other → other < 0x3f00 →
    other / 0x400 % 4 ≠ ppu.v.address / 0x400 % 4 →
      let after := ppu.write cartridge 0x2007 data
      after.1.readVram after.2 other = ppu.readVram cartridge other

theorem nametableCell_eq_iff (cartridge : Cartridge) (first second : Nat) :
    cartridge.nametableCell first = cartridge.nametableCell second ↔
      cartridge.mirroring.area (residue 4 (first / 0x400)) =
        cartridge.mirroring.area (residue 4 (second / 0x400)) ∧
      first % 0x400 = second % 0x400 := by
  have here := (cartridge.mirroring.area (residue 4 (first / 0x400))).isLt
  have there := (cartridge.mirroring.area (residue 4 (second / 0x400))).isLt
  simp only [nametableCell, Mirroring.nametableCell, Fin.ext_iff]
  omega

theorem separatesTables_iff (cartridge : Cartridge) :
    cartridge.SeparatesTables ↔ cartridge.mirroring = .fourScreen := by
  rw [← Mirroring.injective_area_iff]
  constructor
  · rintro ⟨area, apart, placed⟩
    have same : area = cartridge.mirroring.area := by
      -- The first cell of a table tells which area it has.
      funext table
      have start := placed (table.val * 0x400)
      have number : residue 4 (table.val * 0x400 / 0x400) = table := by
        rw [Nat.mul_div_cancel _ (by decide)]
        exact Fin.ext (Nat.mod_eq_of_lt table.isLt)
      simp only [nametableCell, Mirroring.nametableCell, number] at start
      exact Fin.ext (by omega)
    rwa [← same]
  · intro apart
    exact ⟨cartridge.mirroring.area, apart, fun _ => rfl⟩

def tableStart (table : Fin 4) : Nat := 0x2000 + table.val * 0x400

theorem tableStart_bounds (table : Fin 4) :
    0x2000 ≤ tableStart table ∧ tableStart table < 0x3f00 := by
  have := table.isLt
  unfold tableStart
  omega

theorem residue_tableStart (table : Fin 4) : residue 4 (tableStart table / 0x400) = table := by
  have := table.isLt
  apply Fin.ext
  rw [val_residue, tableStart]
  omega

theorem address_tableStart (table : Fin 4) :
    (ScrollAddress.ofNat (tableStart table)).address = tableStart table := by
  have := tableStart_bounds table
  rw [ScrollAddress.address, ScrollAddress.toNat_ofNat]
  omega

theorem KeepsTables.apart {cartridge : Cartridge} (keeps : cartridge.KeepsTables)
    {first second : Fin 4}
    (shared : cartridge.mirroring.area first = cartridge.mirroring.area second) :
    first = second := by
  by_contra apart
  -- On empty nametables, a byte written to the start of one appears at the start of the other.
  let ppu : Ppu := { v := .ofNat (tableStart first) }
  have here : ppu.v.address = tableStart first := address_tableStart first
  obtain ⟨above, below⟩ := tableStart_bounds first
  rw [← here] at above below
  obtain ⟨otherAbove, otherBelow⟩ := tableStart_bounds second
  have cells : cartridge.nametableCell ppu.v.address =
      cartridge.nametableCell (tableStart second) := by
    rw [nametableCell_eq_iff, here, residue_tableStart, residue_tableStart]
    refine ⟨shared, ?_⟩
    simp only [tableStart]
    omega
  have tables : tableStart second / 0x400 % 4 ≠ ppu.v.address / 0x400 % 4 := by
    rw [here]
    intro equal
    have same : residue 4 (tableStart second / 0x400) = residue 4 (tableStart first / 0x400) :=
      Fin.ext equal
    rw [residue_tableStart, residue_tableStart] at same
    exact apart same.symm
  have kept := keeps ppu 1 (tableStart second) above below otherAbove otherBelow tables
  have empty : ppu.readVram cartridge (tableStart second) = 0 := by
    have whole : tableStart second % 0x4000 = tableStart second := by omega
    simp only [Ppu.readVram, whole, Nat.not_lt.mpr otherAbove, otherBelow, if_true, if_false]
    exact Memory.read_fill 0 _
  have stored := ppu.readVram_write_nametable cartridge 1 above below otherAbove otherBelow
  rw [if_pos cells] at stored
  have impossible : (1 : UInt8) = 0 := stored.symm.trans (kept.trans empty)
  exact absurd impossible (by decide)

theorem keepsTables_iff (cartridge : Cartridge) :
    cartridge.KeepsTables ↔ cartridge.mirroring = .fourScreen := by
  rw [← Mirroring.injective_area_iff]
  constructor
  · intro keeps first second
    exact keeps.apart
  · intro apart ppu data other above below otherAbove otherBelow tables
    have cells : cartridge.nametableCell ppu.v.address ≠ cartridge.nametableCell other := by
      rw [Ne, nametableCell_eq_iff]
      rintro ⟨areas, -⟩
      have same := congrArg Fin.val (apart areas)
      exact tables same.symm
    intro after
    rw [ppu.readVram_write_nametable cartridge data above below otherAbove otherBelow, if_neg cells]

end Cartridge

/-! ## Accepted cartridges -/

namespace Image

variable {image : ByteArray} {header : Header}

theorem mirroring_of_parse (parsed : Header.parse image = .ok header)
    (flag : (byte image 6).testBit 3 = true) : header.mirroring = .fourScreen := by
  by_cases long : 16 ≤ image.size
  case neg =>
    rw [parse_of_short long] at parsed
    cases parsed
  rw [parse_of_long long, flag] at parsed
  split at parsed
  · split at parsed
    · cases parsed
      rfl
    · cases parsed
  · cases parsed

end Image

namespace Cartridge

open Image

variable {image : ByteArray} {cartridge : Cartridge}

theorem mirroring_run_iff (loaded : load image = .ok cartridge)
    (flag : (byte image 6).testBit 3 = true) (operations : List CartridgeOperation) :
    (CartridgeOperation.run cartridge operations).mirroring = .fourScreen ↔
      mapperNumber image = 0 := by
  obtain ⟨header, mapper, fits, parsed, mapped, rfl⟩ := load_ok loaded
  rw [mirroring, CartridgeOperation.run_mapper, ← (describes_of_parse parsed).mapper]
  rcases board_cases mapped with ⟨number, rfl⟩ | ⟨number, rfl⟩
  · exact iff_of_true (mirroring_of_parse parsed flag) number
  · refine iff_of_false (Mmc1.mirroring_ne_fourScreen _) ?_
    rw [number]
    decide

/-- Of the accepted cartridges whose header asks for four nametables, those with mapper 000 have and
keep them, whatever is written; with mapper 001 two nametables always share their bytes. -/
theorem fourScreen_kept_iff (loaded : load image = .ok cartridge)
    (flag : (byte image 6).testBit 3 = true) (operations : List CartridgeOperation) :
    let after := CartridgeOperation.run cartridge operations
    (after.SeparatesTables ↔ mapperNumber image = 0) ∧
      (after.KeepsTables ↔ mapperNumber image = 0) := by
  intro after
  have kept := mirroring_run_iff loaded flag operations
  exact ⟨(separatesTables_iff after).trans kept, (keepsTables_iff after).trans kept⟩

theorem fourScreenNrom_keeps :
    ∃ cartridge, load (blank 2 1 0x08) = .ok cartridge ∧
      (byte (blank 2 1 0x08) 6).testBit 3 = true ∧
      (CartridgeOperation.run cartridge [.cpuWrite 0x8000 0x80]).KeepsTables := by
  have acceptable : Acceptable (blank 2 1 0x08) :=
    acceptable_blank (by decide) (by decide) (by decide) (by decide)
  obtain ⟨cartridge, loaded, _⟩ := load_of_acceptable acceptable
  have flag : (byte (blank 2 1 0x08) 6).testBit 3 = true := by
    rw [byte_blank (by decide)]
    rfl
  exact ⟨cartridge, loaded, flag, (fourScreen_kept_iff loaded flag _).2.mpr mapperNumber_blank⟩

/-- A header can ask for four nametables and not get them: with mapper 001 the cartridge powers up
with two. -/
theorem fourScreenMmc1_shares :
    ¬ ∀ (image : ByteArray) (cartridge : Cartridge), load image = .ok cartridge →
      (byte image 6).testBit 3 = true → ∀ operations : List CartridgeOperation,
        (CartridgeOperation.run cartridge operations).SeparatesTables ∧
          (CartridgeOperation.run cartridge operations).KeepsTables := by
  intro promised
  have acceptable : Acceptable (blank 1 0 0x18) :=
    acceptable_blank (by decide) (by decide) (by decide) (by decide)
  obtain ⟨cartridge, loaded, _⟩ := load_of_acceptable acceptable
  have flag : (byte (blank 1 0 0x18) 6).testBit 3 = true := by
    rw [byte_blank (by decide)]
    rfl
  have kept := (keepsTables_iff _).mp (promised _ cartridge loaded flag []).2
  have number := (mirroring_run_iff loaded flag []).mp kept
  rw [mapperNumber_blank] at number
  cases number

end Cartridge

end Famicom
