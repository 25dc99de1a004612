import Famicom.Proofs.Ppu.CheckedPpu
import Mathlib.Tactic.Simps.Basic

namespace Famicom

namespace Ppu

variable (ppu : Ppu) (cartridge : Cartridge) (address : UInt16) (data : UInt8)

@[simps] def toChecked : CheckedPpu where
  nametables := ppu.nametables
  palettes := ppu.palettes
  objects := ppu.objects
  control := ppu.control
  mask := ppu.mask
  status := ppu.status
  objectAddress := ppu.objectAddress
  ioLatch := ppu.ioLatch
  readBuffer := ppu.readBuffer
  v := ppu.v.word
  t := ppu.t.word
  fineX := UInt8.ofNat ppu.fineX.val
  secondWrite := ppu.secondWrite
  beam := ppu.beam
  nmiLevel := ppu.nmiLevel
  nmiEdge := ppu.nmiEdge
  background := ppu.background
  evaluation := ppu.evaluation
  sprites := ppu.sprites
  corruptRow := ppu.corruptRow.map Fin.val
  picture := ppu.picture

theorem toChecked_powerOn : toChecked {} = {} := rfl

theorem toNat_fineX : (UInt8.ofNat ppu.fineX.val).toNat = ppu.fineX.val := by
  have := ppu.fineX.isLt
  rw [UInt8.toNat_ofNat']
  omega

/-! ## Registers -/

theorem readVram_toChecked (place : Nat) :
    ppu.toChecked.readVram cartridge place = .ok (ppu.readVram cartridge place) := by
  unfold CheckedPpu.readVram readVram
  simp only [toChecked_nametables, toChecked_palettes]
  split_ifs
  · rfl
  · rw [Mirroring.nametableOffset_eq, Memory.readChecked_val]
    rfl
  · rw [paletteOffset_eq, Memory.readChecked_val]

theorem advanceAddress_toChecked :
    ppu.toChecked.advanceAddress = .ok ppu.advanceAddress.toChecked := by
  have same : ppu.toChecked.fetching = ppu.fetching := rfl
  unfold CheckedPpu.advanceAddress advanceAddress
  rw [same]
  split
  · simp only [toChecked_v, ScrollAddress.nextColumn_word, ScrollAddress.nextRow_word,
      PpuFault.ok_bind]
    rfl
  · simp only [toChecked_v, ScrollAddress.advance_word]
    rfl

theorem readObject_toChecked : ppu.toChecked.readObject = .ok ppu.readObject := by
  have same : ppu.toChecked.fetching = ppu.fetching := rfl
  unfold CheckedPpu.readObject readObject
  rw [same]
  simp only [toChecked_beam, toChecked_objects, toChecked_objectAddress]
  split
  · rfl
  · rw [Memory.readChecked_of_lt _ _ ppu.objectAddress.toNat_lt]
    rfl

theorem paletteByte_toChecked : ppu.toChecked.paletteByte cartridge =
    .ok (ppu.readVram cartridge ppu.v.address ||| (ppu.ioLatch &&& 0xc0)) := by
  unfold CheckedPpu.paletteByte
  rw [toChecked_v, ScrollAddress.word_address, readVram_toChecked]
  rfl

theorem dataByte_toChecked :
    (if 0x3f00 ≤ ppu.toChecked.v.address then ppu.toChecked.paletteByte cartridge
      else .ok ppu.readBuffer) = .ok (ppu.dataByte cartridge) := by
  unfold dataByte
  rw [toChecked_v, ScrollAddress.word_address, paletteByte_toChecked]
  split <;> rfl

theorem peek_toChecked :
    ppu.toChecked.peek cartridge address = .ok (ppu.peek cartridge address) := by
  unfold CheckedPpu.peek peek
  match address.toNat % 8 with
  | 2 => rfl
  | 4 => exact ppu.readObject_toChecked
  | 7 => exact ppu.dataByte_toChecked cartridge
  | 0 | 1 | 3 | 5 | 6 | _ + 8 => rfl

theorem refillBuffer_toChecked :
    ppu.toChecked.refillBuffer cartridge = .ok (ppu.refillBuffer cartridge).toChecked := by
  have place : ppu.toChecked.v.address = ppu.v.address := ppu.v.word_address
  unfold CheckedPpu.refillBuffer
  dsimp only
  rw [place, readVram_toChecked]
  rfl

theorem readData_toChecked : ppu.toChecked.readData cartridge =
    .ok ((ppu.readData cartridge).1, (ppu.readData cartridge).2.toChecked) := by
  have place : ppu.toChecked.v.address = ppu.v.address := ppu.v.word_address
  have kept : (ppu.refillBuffer cartridge).v = ppu.v := rfl
  unfold CheckedPpu.readData readData
  rw [refillBuffer_toChecked, PpuFault.ok_bind, place, paletteByte_toChecked,
    advanceAddress_toChecked]
  dsimp only
  rw [kept]
  split <;> rfl

theorem readRegister_toChecked : ppu.toChecked.readRegister cartridge address =
    .ok ((ppu.readRegister cartridge address).1,
      (ppu.readRegister cartridge address).2.toChecked) := by
  unfold CheckedPpu.readRegister readRegister
  match address.toNat % 8 with
  | 2 => rfl
  | 4 =>
      rw [readObject_toChecked]
      rfl
  | 7 => exact ppu.readData_toChecked cartridge
  | 0 | 1 | 3 | 5 | 6 | _ + 8 => rfl

theorem read_toChecked : ppu.toChecked.read cartridge address =
    .ok ((ppu.read cartridge address).1, (ppu.read cartridge address).2.toChecked) := by
  unfold CheckedPpu.read
  rw [readRegister_toChecked]
  rfl

theorem writeControl_toChecked :
    ppu.toChecked.writeControl data = .ok (ppu.writeControl data).toChecked := by
  have nametable : (data &&& 3).toNat = (data.bit 1).toNat * 2 + (data.bit 0).toNat := by
    rw [UInt8.toNat_bit, UInt8.toNat_bit, UInt8.toNat_and, Nat.shiftRight_eq_div_pow,
      Nat.shiftRight_eq_div_pow]
    refine (Nat.and_two_pow_sub_one_eq_mod data.toNat 2).trans ?_
    omega
  unfold CheckedPpu.writeControl
  rw [toChecked_t, nametable, ScrollAddress.storeNametable_word]
  rfl

theorem writeMask_toChecked :
    ppu.toChecked.writeMask data = .ok (ppu.writeMask data).toChecked := by
  unfold CheckedPpu.writeMask writeMask
  simp only [toChecked_mask, toChecked_beam, toChecked_corruptRow]
  split_ifs
  · rfl
  · cases marked : ppu.corruptRow with
    | none => rfl
    | some row =>
        simp only [Option.map_some, toChecked_objects, corruptChecked_val, PpuFault.ok_bind]
        rfl
  · rfl

theorem writeObject_toChecked :
    ppu.toChecked.writeObject data = .ok (ppu.writeObject data).toChecked := by
  have same : ppu.toChecked.fetching = ppu.fetching := rfl
  unfold CheckedPpu.writeObject writeObject
  rw [same]
  split
  · rfl
  · simp only [toChecked_objects, toChecked_objectAddress,
      Memory.writeChecked_of_lt _ _ ppu.objectAddress.toNat_lt, PpuFault.ok_bind]
    rfl

theorem writeScroll_toChecked :
    ppu.toChecked.writeScroll data = .ok (ppu.writeScroll data).toChecked := by
  have below := data.toNat_lt
  have coarse : (data >>> 3).toNat = data.toNat / 8 :=
    (UInt8.toNat_shiftRight data 3).trans (Nat.shiftRight_eq_div_pow data.toNat 3)
  have fine : (data &&& 7).toNat = data.toNat % 8 := by
    rw [UInt8.toNat_and]
    exact Nat.and_two_pow_sub_one_eq_mod data.toNat 3
  have same : residue 8 (data.toNat % 8) = residue 8 data.toNat :=
    Fin.ext (Nat.mod_mod data.toNat 8)
  have column : data &&& 7 = UInt8.ofNat (data.toNat % 8) := by
    rw [← fine, UInt8.ofNat_toNat]
  unfold CheckedPpu.writeScroll writeScroll
  simp only [toChecked_secondWrite, toChecked_t, coarse, fine]
  split
  · rw [ScrollAddress.storeCoarseY_word _ (by omega), PpuFault.ok_bind,
      ScrollAddress.storeFineY_word _ (by omega), same]
    rfl
  · rw [ScrollAddress.storeCoarseX_word _ (by omega), column]
    rfl

theorem writeAddress_toChecked :
    ppu.toChecked.writeAddress data = .ok (ppu.writeAddress data).toChecked := by
  unfold CheckedPpu.writeAddress writeAddress
  simp only [toChecked_secondWrite, toChecked_t, ScrollAddress.storeLow_word,
    ScrollAddress.storeHigh_word]
  split <;> rfl

theorem writeVram_toChecked : ppu.toChecked.writeVram cartridge data =
    .ok ((ppu.writeVram cartridge data).1.toChecked, (ppu.writeVram cartridge data).2) := by
  unfold CheckedPpu.writeVram writeVram
  simp only [toChecked_v, ScrollAddress.word_address, toChecked_nametables, toChecked_palettes]
  split_ifs
  · rfl
  · rw [Mirroring.nametableOffset_eq, Memory.writeChecked_of_lt _ _ (Fin.isLt _)]
    rfl
  · rw [paletteOffset_eq, Memory.writeChecked_of_lt _ _ (Fin.isLt _)]
    rfl

theorem write_toChecked : ppu.toChecked.write cartridge address data =
    .ok ((ppu.write cartridge address data).1.toChecked,
      (ppu.write cartridge address data).2) := by
  have latch : { ppu.toChecked with ioLatch := data } = toChecked { ppu with ioLatch := data } :=
    rfl
  unfold CheckedPpu.write write
  have below := Nat.mod_lt address.toNat (show 0 < 8 by decide)
  generalize address.toNat % 8 = register at below ⊢
  simp only [latch]
  interval_cases register
  · rw [writeControl_toChecked]
    rfl
  · rw [writeMask_toChecked]
    rfl
  · rfl
  · rfl
  · rw [writeObject_toChecked]
    rfl
  · rw [writeScroll_toChecked]
    rfl
  · rw [writeAddress_toChecked]
    rfl
  · rw [writeVram_toChecked, PpuFault.ok_bind]
    dsimp only
    rw [advanceAddress_toChecked]
    rfl

/-! ## Dots -/

def outcome : Except PpuFault CheckedPpu :=
  if ppu.evaluation.overrun then .error .secondaryStore else .ok ppu.toChecked

theorem outcome_of_sound (sound : ppu.evaluation.overrun = false) :
    ppu.outcome = .ok ppu.toChecked :=
  if_neg (Bool.eq_false_iff.mp sound)

theorem outcome_bind {next : CheckedPpu → Except PpuFault CheckedPpu} {after : Ppu}
    (kept : after.evaluation = ppu.evaluation) (step : next ppu.toChecked = .ok after.toChecked) :
    (ppu.outcome >>= next) = after.outcome := by
  unfold outcome
  rw [kept]
  split
  · rfl
  · exact step

theorem endVblank_toChecked : ppu.toChecked.endVblank = ppu.endVblank.toChecked := by
  unfold CheckedPpu.endVblank endVblank
  rw [toChecked_beam]
  split <;> rfl

theorem startVblank_toChecked : ppu.toChecked.startVblank = ppu.startVblank.toChecked := by
  unfold CheckedPpu.startVblank startVblank
  rw [toChecked_beam]
  split <;> rfl

theorem patternAddress_toChecked : ppu.toChecked.patternAddress =
    ppu.background.patternAddress ppu.control.backgroundTable ppu.v := by
  unfold CheckedPpu.patternAddress
  rw [toChecked_v, ScrollAddress.word_fineY]
  rfl

theorem quadrantBits_word (attributes : UInt8) (place : ScrollAddress) :
    CheckedPpu.quadrantBits attributes place.word = Background.quadrantBits attributes place := by
  unfold CheckedPpu.quadrantBits Background.quadrantBits
  rw [ScrollAddress.word_coarseX, ScrollAddress.word_coarseY]

theorem fetchTile_toChecked (phase : Nat) : ppu.toChecked.fetchTile cartridge phase =
    .ok (ppu.fetchTile cartridge phase).toChecked := by
  unfold CheckedPpu.fetchTile fetchTile
  match phase with
  | 0 =>
      rw [toChecked_background, Background.loadTileChecked_eq, PpuFault.ok_bind, toChecked_v,
        ScrollAddress.word_tileAddress, readVram_toChecked]
      rfl
  | 2 =>
      rw [toChecked_v, ScrollAddress.word_attributeAddress,
        readVram_toChecked _ _ ppu.v.attributeAddress, PpuFault.ok_bind, quadrantBits_word]
      rfl
  | 4 =>
      rw [patternAddress_toChecked]
      rfl
  | 6 =>
      rw [patternAddress_toChecked]
      rfl
  | 7 =>
      rw [toChecked_v, ScrollAddress.nextColumn_word]
      rfl
  | 1 | 3 | 5 | _ + 8 => rfl

theorem runBackground_toChecked :
    ppu.toChecked.runBackground cartridge = .ok (ppu.runBackground cartridge).toChecked := by
  unfold CheckedPpu.runBackground runBackground
  dsimp only
  rw [toChecked_beam]
  split_ifs
  · exact fetchTile_toChecked { ppu with background := ppu.background.shift } cartridge _
  · rw [toChecked_v, ScrollAddress.word_tileAddress, readVram_toChecked]
    rfl
  · rfl

theorem runScroll_toChecked : ppu.toChecked.runScroll = .ok ppu.runScroll.toChecked := by
  unfold CheckedPpu.runScroll runScroll
  dsimp only
  rw [toChecked_beam, toChecked_v, toChecked_t]
  split_ifs
  · rw [ScrollAddress.nextRow_word]
    rfl
  · rw [ScrollAddress.copyHorizontal_word]
    rfl
  · rw [ScrollAddress.copyVertical_word]
    rfl
  · rfl

theorem evaluateSprites_toChecked (sound : ppu.evaluation.overrun = false) :
    ppu.toChecked.evaluateSprites = ppu.evaluateSprites.outcome := by
  have ran := ppu.evaluation.runChecked_eq ppu.objects ppu.objectAddress ppu.beam.dot
    ppu.beam.line ppu.control.spriteHeight sound
  unfold CheckedPpu.evaluateSprites
  simp only [toChecked_evaluation, toChecked_objects, toChecked_objectAddress, toChecked_beam,
    toChecked_control, ran]
  by_cases past : ppu.evaluateSprites.evaluation.overrun = true
  · rw [outcome, if_pos past]
    exact congrArg (· >>= _) (if_pos past)
  · rw [outcome, if_neg past]
    exact congrArg (· >>= _) (if_neg past)

theorem fetchSprites_toChecked (fetches : ppu.beam.dot ≤ 320) :
    ppu.toChecked.fetchSprites cartridge = .ok (ppu.fetchSprites cartridge).toChecked := by
  have inside : (ppu.beam.dot - 257) / 8 < 8 := by omega
  have slot : (⟨(ppu.beam.dot - 257) / 8, inside⟩ : Fin 8) =
      residue 8 ((ppu.beam.dot - 257) / 8) := Fin.ext (Nat.mod_eq_of_lt inside).symm
  have first : (residue 8 ((ppu.beam.dot - 257) / 8)).val = (ppu.beam.dot - 257) / 8 :=
    Nat.mod_eq_of_lt inside
  unfold CheckedPpu.fetchSprites fetchSprites
  dsimp only
  rw [first, toChecked_beam]
  split_ifs
  · rw [SpriteLine.fetchChecked_of_lt _ _ _ inside, slot]
    rfl
  · rfl
  · rfl
  · rfl

theorem fetchSprites_evaluation : (ppu.fetchSprites cartridge).evaluation = ppu.evaluation := by
  unfold fetchSprites
  dsimp only
  split_ifs <;> rfl

theorem runSprites_toChecked (sound : ppu.evaluation.overrun = false) :
    ppu.toChecked.runSprites cartridge = (ppu.runSprites cartridge).outcome := by
  unfold CheckedPpu.runSprites runSprites
  dsimp only
  rw [toChecked_beam]
  split_ifs with picture evaluates clears fetches
  · rw [toChecked_evaluation, Evaluation.clearChecked_eq, outcome_of_sound]
    · rfl
    · exact (Evaluation.clear_overrun _ _).trans sound
  · exact ppu.evaluateSprites_toChecked sound
  · exact (ppu.outcome_of_sound sound).symm
  · rw [fetchSprites_toChecked _ _ fetches, outcome_of_sound]
    rw [fetchSprites_evaluation]
    exact sound
  · exact (ppu.outcome_of_sound sound).symm

theorem render_toChecked (sound : ppu.evaluation.overrun = false) :
    ppu.toChecked.render cartridge = (ppu.render cartridge).outcome := by
  have same : ppu.toChecked.fetching = ppu.fetching := rfl
  unfold CheckedPpu.render render
  rw [same]
  split
  · rw [runBackground_toChecked, PpuFault.ok_bind, runScroll_toChecked, PpuFault.ok_bind]
    apply runSprites_toChecked
    obtain ⟨_, _, fetched⟩ := ppu.runBackground_updates cartridge
    obtain ⟨_, scrolled⟩ := (ppu.runBackground cartridge).runScroll_updates
    rw [scrolled, fetched]
    exact sound
  · exact (ppu.outcome_of_sound sound).symm

theorem backgroundPixel_toChecked (column : Nat) :
    ppu.toChecked.backgroundPixel column = .ok (ppu.backgroundPixel column) := by
  have inside : ppu.fineX.val < 16 := by omega
  unfold CheckedPpu.backgroundPixel backgroundPixel
  rw [toChecked_mask, toChecked_fineX, toNat_fineX]
  split
  · rw [Shifter.pixelChecked_of_lt _ inside, Shifter.pixelChecked_of_lt _ inside]
    rfl
  · rfl

theorem colour_toChecked (index : Nat) :
    ppu.toChecked.colour index = .ok (ppu.colour index) := by
  unfold CheckedPpu.colour
  rw [toChecked_palettes, paletteOffset_eq, Memory.readChecked_val]
  rfl

theorem backdropIndex_toChecked : ppu.toChecked.backdropIndex = ppu.backdropIndex := by
  unfold CheckedPpu.backdropIndex
  rw [toChecked_v, ScrollAddress.word_address]
  rfl

theorem drawPixel_toChecked (few : ppu.sprites.count ≤ 8) (column : Nat) {cell : Fin 61440}
    (place : ppu.beam.line * 256 + column = cell.val) :
    ppu.toChecked.drawPixel column = .ok (ppu.drawPixel column cell).toChecked := by
  unfold CheckedPpu.drawPixel drawPixel
  dsimp only
  rw [toChecked_beam, place, toChecked_mask, toChecked_picture, toChecked_sprites,
    backgroundPixel_toChecked, PpuFault.ok_bind, SpriteLine.shiftChecked_of_le _ few,
    PpuFault.ok_bind, backdropIndex_toChecked]
  simp only [colour_toChecked, PpuFault.ok_bind, Memory.writeChecked_of_lt _ _ cell.isLt]
  split <;> rfl

theorem output_toChecked (few : ppu.sprites.count ≤ 8) :
    ppu.toChecked.output = .ok ppu.output.toChecked := by
  unfold CheckedPpu.output output
  rw [toChecked_beam]
  split
  · exact ppu.drawPixel_toChecked few _ rfl
  · rfl

end Ppu

end Famicom
