import Famicom.Proofs.Ppu.Scene
import Mathlib.Tactic.SplitIfs

/-!
One dot, field by field. Every stage of `Ppu.tick` is first described as an update of the few fields
it may change, so that what `tick` leaves in a field is read off without opening the other stages.
-/

namespace Famicom.Ppu

variable (ppu : Ppu) (cartridge : Cartridge)

/-! ## Stages -/

theorem endVblank_updates : ∃ status nmiLevel nmiEdge,
    ppu.endVblank = { ppu with status, nmiLevel, nmiEdge } := by
  unfold endVblank
  split
  · exact ⟨_, _, _, rfl⟩
  · exact ⟨_, _, _, rfl⟩

theorem endVblank_fetching : ppu.endVblank.fetching = ppu.fetching := by
  obtain ⟨_, _, _, ended⟩ := ppu.endVblank_updates
  rw [ended]
  rfl

theorem startVblank_updates : ∃ status nmiLevel nmiEdge,
    ppu.startVblank = { ppu with status, nmiLevel, nmiEdge } := by
  unfold startVblank
  split
  · exact ⟨_, _, _, rfl⟩
  · exact ⟨_, _, _, rfl⟩

theorem fetchTile_updates (phase : Nat) : ∃ background v,
    ppu.fetchTile cartridge phase = { ppu with background, v } := by
  unfold fetchTile
  split <;> exact ⟨_, _, rfl⟩

theorem runBackground_updates : ∃ background v,
    ppu.runBackground cartridge = { ppu with background, v } := by
  unfold runBackground
  dsimp only
  split_ifs
  · obtain ⟨background, v, fetched⟩ :=
      fetchTile_updates { ppu with background := ppu.background.shift } cartridge
        ((ppu.beam.dot - 1) % 8)
    exact ⟨background, v, fetched⟩
  · exact ⟨_, _, rfl⟩
  · exact ⟨_, _, rfl⟩

theorem runScroll_updates : ∃ v, ppu.runScroll = { ppu with v } := by
  unfold runScroll
  dsimp only
  split_ifs <;> exact ⟨_, rfl⟩

theorem runSprites_updates : ∃ evaluation objectAddress status sprites,
    ppu.runSprites cartridge = { ppu with evaluation, objectAddress, status, sprites } := by
  unfold runSprites fetchSprites
  dsimp only
  split_ifs <;> exact ⟨_, _, _, _, rfl⟩

theorem render_updates : ∃ background v evaluation objectAddress status sprites,
    ppu.render cartridge =
      { ppu with background, v, evaluation, objectAddress, status, sprites } := by
  unfold render
  split
  · obtain ⟨background, _, drawn⟩ := runBackground_updates ppu cartridge
    obtain ⟨v, scrolled⟩ := runScroll_updates (ppu.runBackground cartridge)
    obtain ⟨evaluation, objectAddress, status, sprites, rendered⟩ :=
      runSprites_updates (ppu.runBackground cartridge).runScroll cartridge
    refine ⟨background, v, evaluation, objectAddress, status, sprites, ?_⟩
    rw [rendered, scrolled, drawn]
  · exact ⟨_, _, _, _, _, _, rfl⟩

theorem output_updates : ∃ sprites status picture,
    ppu.output = { ppu with sprites, status, picture } := by
  unfold output drawPixel
  dsimp only
  split_ifs <;> exact ⟨_, _, _, rfl⟩

theorem tick_updates :
    ∃ status nmiLevel nmiEdge background v evaluation objectAddress sprites picture,
      ppu.tick cartridge = { ppu with
        status, nmiLevel, nmiEdge, background, v, evaluation, objectAddress, sprites, picture
        beam := ppu.beam.advance ppu.mask.rendering } := by
  obtain ⟨_, _, _, ended⟩ := ppu.endVblank_updates
  obtain ⟨background, v, evaluation, objectAddress, _, _, rendered⟩ :=
    ppu.endVblank.render_updates cartridge
  obtain ⟨sprites, _, picture, drawn⟩ := (ppu.endVblank.render cartridge).output_updates
  obtain ⟨status, nmiLevel, nmiEdge, started⟩ :=
    (ppu.endVblank.render cartridge).output.startVblank_updates
  refine ⟨status, nmiLevel, nmiEdge, background, v, evaluation, objectAddress, sprites, picture, ?_⟩
  unfold tick
  rw [started, drawn, rendered, ended]

/-! ## What a dot leaves in each field -/

@[simp] theorem tick_beam : (ppu.tick cartridge).beam = ppu.beam.advance ppu.mask.rendering := by
  obtain ⟨_, _, _, _, _, _, _, _, _, ticked⟩ := ppu.tick_updates cartridge
  rw [ticked]

@[simp] theorem tick_scene : (ppu.tick cartridge).scene = ppu.scene := by
  obtain ⟨_, _, _, _, _, _, _, _, _, ticked⟩ := ppu.tick_updates cartridge
  rw [ticked]
  rfl

theorem readVram_nametable {address : Nat} (above : 0x2000 ≤ address) (below : address < 0x3f00) :
    ppu.readVram cartridge address = ppu.scene.nametableByte cartridge address := by
  unfold readVram
  rw [Nat.mod_eq_of_lt (by omega), if_neg (by omega), if_pos below]
  rfl

theorem readVram_tileAddress (place : ScrollAddress) :
    ppu.readVram cartridge place.tileAddress = ppu.scene.tile cartridge place := by
  have bound := place.tileOffset_lt
  apply readVram_nametable
  · exact Nat.le_add_right _ _
  · unfold ScrollAddress.tileAddress
    omega

theorem readVram_attributeAddress (place : ScrollAddress) :
    ppu.readVram cartridge place.attributeAddress =
      ppu.scene.nametableByte cartridge place.attributeAddress := by
  have column := place.coarseX.isLt
  have row := place.coarseY.isLt
  have left := Bool.toNat_le place.nametableX
  have top := Bool.toNat_le place.nametableY
  apply readVram_nametable <;>
    · unfold ScrollAddress.attributeAddress
      omega

def fetched (scene : Scene) (place : ScrollAddress) (phase : Nat) (background : Background) :
    Background :=
  match phase with
  | 0 => { background.loadTile with tile := scene.tile cartridge place }
  | 2 => { background with
      quadrant := Background.quadrantBits
        (scene.nametableByte cartridge place.attributeAddress) place }
  | 4 => { background with
      patternLow := cartridge.chrRead
        (background.patternAddress scene.control.backgroundTable place) }
  | 6 => { background with
      patternHigh := cartridge.chrRead
        (background.patternAddress scene.control.backgroundTable place + 8) }
  | _ => background

def nextBackground : Background :=
  if fetchesTile ppu.beam.dot then
    fetched cartridge ppu.scene ppu.v ((ppu.beam.dot - 1) % 8) ppu.background.shift
  else if ppu.beam.dot = 338 ∨ ppu.beam.dot = 340 then
    { ppu.background with tile := ppu.scene.tile cartridge ppu.v }
  else ppu.background

/-- The address after the fetches of the dot under the beam and before scrolling. -/
def fetchedColumn : ScrollAddress :=
  if fetchesTile ppu.beam.dot = true ∧ (ppu.beam.dot - 1) % 8 = 7 then ppu.v.nextColumn else ppu.v

def nextV : ScrollAddress :=
  if ppu.beam.dot = 256 then ppu.fetchedColumn.nextRow
  else if ppu.beam.dot = 257 then ppu.fetchedColumn.copyHorizontal ppu.t
  else if ppu.beam.preRender && decide (280 ≤ ppu.beam.dot) && decide (ppu.beam.dot ≤ 304) then
    ppu.fetchedColumn.copyVertical ppu.t
  else ppu.fetchedColumn

theorem fetchTile_eq (phase : Nat) : ppu.fetchTile cartridge phase = { ppu with
    background := fetched cartridge ppu.scene ppu.v phase ppu.background
    v := if phase = 7 then ppu.v.nextColumn else ppu.v } := by
  unfold fetchTile fetched
  split
  · rw [readVram_tileAddress]
    rfl
  · rw [readVram_attributeAddress]
    rfl
  · rfl
  · rfl
  · rfl
  · rename_i other
    rw [if_neg other]
    split <;> first | contradiction | rfl

theorem runBackground_eq : ppu.runBackground cartridge =
    { ppu with background := ppu.nextBackground cartridge, v := ppu.fetchedColumn } := by
  unfold runBackground nextBackground fetchedColumn
  dsimp only
  by_cases fetches : fetchesTile ppu.beam.dot = true
  · rw [if_pos fetches, if_pos fetches, fetchTile_eq]
    simp only [fetches, true_and]
    rfl
  · have stays : ¬ (fetchesTile ppu.beam.dot = true ∧ (ppu.beam.dot - 1) % 8 = 7) :=
      fun both => fetches both.1
    rw [if_neg fetches, if_neg fetches, if_neg stays]
    simp only [Bool.or_eq_true, decide_eq_true_eq]
    split
    · rw [readVram_tileAddress]
    · rfl

def nextEvaluation : Evaluation :=
  if ppu.beam.visible && decide (1 ≤ ppu.beam.dot) && decide (ppu.beam.dot ≤ 64) then
    ppu.evaluation.clear ppu.beam.dot
  else if ppu.beam.visible && decide (65 ≤ ppu.beam.dot) && decide (ppu.beam.dot ≤ 256) then
    (ppu.evaluation.run ppu.objects ppu.objectAddress ppu.beam.dot ppu.beam.line
      ppu.control.spriteHeight).evaluation
  else ppu.evaluation

def nextObjectAddress : UInt8 :=
  if ppu.beam.visible && decide (65 ≤ ppu.beam.dot) && decide (ppu.beam.dot ≤ 256) then
    (ppu.evaluation.run ppu.objects ppu.objectAddress ppu.beam.dot ppu.beam.line
      ppu.control.spriteHeight).address
  else if 257 ≤ ppu.beam.dot ∧ ppu.beam.dot ≤ 320 then 0
  else ppu.objectAddress

def nextSprites : SpriteLine :=
  let elapsed := ppu.beam.dot - 257
  let slot := residue 8 (elapsed / 8)
  if 257 ≤ ppu.beam.dot ∧ ppu.beam.dot ≤ 320 ∧ elapsed % 8 = 7 then
    if ppu.beam.visible then
      ppu.sprites.fetch cartridge ppu.evaluation slot ppu.beam.line ppu.control.spriteHeight
        ppu.control.spriteTable
    else if slot.val = 0 then ppu.sprites.clear
    else ppu.sprites
  else ppu.sprites

theorem runSprites_evaluation : (ppu.runSprites cartridge).evaluation = ppu.nextEvaluation := by
  unfold runSprites nextEvaluation fetchSprites
  dsimp only
  split_ifs <;> simp_all <;> first | rfl | omega

theorem runSprites_objectAddress :
    (ppu.runSprites cartridge).objectAddress = ppu.nextObjectAddress := by
  unfold runSprites nextObjectAddress fetchSprites
  dsimp only
  split_ifs <;> simp_all <;> first | rfl | omega

theorem runSprites_sprites : (ppu.runSprites cartridge).sprites = ppu.nextSprites cartridge := by
  unfold runSprites nextSprites fetchSprites
  dsimp only
  split_ifs <;> simp_all <;> first | rfl | omega

theorem runSprites_spriteZeroHit :
    (ppu.runSprites cartridge).status.spriteZeroHit = ppu.status.spriteZeroHit := by
  unfold runSprites fetchSprites
  dsimp only
  split_ifs <;> rfl

theorem runSprites_eq : ∃ status : PpuStatus,
    status.spriteZeroHit = ppu.status.spriteZeroHit ∧
    ppu.runSprites cartridge = { ppu with
      status
      evaluation := ppu.nextEvaluation
      objectAddress := ppu.nextObjectAddress
      sprites := ppu.nextSprites cartridge } := by
  obtain ⟨_, _, status, _, ran⟩ := ppu.runSprites_updates cartridge
  have evaluation := ppu.runSprites_evaluation cartridge
  have objectAddress := ppu.runSprites_objectAddress cartridge
  have sprites := ppu.runSprites_sprites cartridge
  have hit := ppu.runSprites_spriteZeroHit cartridge
  rw [ran] at evaluation objectAddress sprites hit
  simp only at evaluation objectAddress sprites hit
  subst evaluation objectAddress sprites
  exact ⟨status, hit, ran⟩

theorem render_eq (fetching : ppu.fetching = true) : ∃ status : PpuStatus,
    status.spriteZeroHit = ppu.status.spriteZeroHit ∧
    ppu.render cartridge = { ppu with
      status
      background := ppu.nextBackground cartridge
      v := ppu.nextV
      evaluation := ppu.nextEvaluation
      objectAddress := ppu.nextObjectAddress
      sprites := ppu.nextSprites cartridge } := by
  have scrolled : (ppu.runBackground cartridge).runScroll =
      { ppu with background := ppu.nextBackground cartridge, v := ppu.nextV } := by
    rw [runBackground_eq]
    unfold runScroll nextV
    dsimp only
    split_ifs <;> rfl
  obtain ⟨status, hit, ran⟩ := ((ppu.runBackground cartridge).runScroll).runSprites_eq cartridge
  refine ⟨status, ?_, ?_⟩
  · rw [hit, scrolled]
  · unfold render
    rw [if_pos fetching, ran, scrolled]
    -- Neither evaluation nor the fetches of sprites read what the background leaves.
    rfl

theorem tick_eq (fetching : ppu.fetching = true) : ∃ status nmiLevel nmiEdge sprites picture,
    ppu.tick cartridge = { ppu with
      status, nmiLevel, nmiEdge, sprites, picture
      background := ppu.nextBackground cartridge
      v := ppu.nextV
      evaluation := ppu.nextEvaluation
      objectAddress := ppu.nextObjectAddress
      beam := ppu.beam.advance ppu.mask.rendering } := by
  obtain ⟨_, _, _, ended⟩ := ppu.endVblank_updates
  have stillFetching : ppu.endVblank.fetching = true := ppu.endVblank_fetching.trans fetching
  obtain ⟨_, _, rendered⟩ := ppu.endVblank.render_eq cartridge stillFetching
  obtain ⟨sprites, _, picture, drawn⟩ := (ppu.endVblank.render cartridge).output_updates
  obtain ⟨status, nmiLevel, nmiEdge, started⟩ :=
    (ppu.endVblank.render cartridge).output.startVblank_updates
  refine ⟨status, nmiLevel, nmiEdge, sprites, picture, ?_⟩
  unfold tick
  rw [started, drawn, rendered, ended]
  rfl

section Fetching

variable (fetching : ppu.fetching = true)
include fetching

theorem tick_background : (ppu.tick cartridge).background = ppu.nextBackground cartridge := by
  obtain ⟨_, _, _, _, _, ticked⟩ := ppu.tick_eq cartridge fetching
  rw [ticked]

theorem tick_v : (ppu.tick cartridge).v = ppu.nextV := by
  obtain ⟨_, _, _, _, _, ticked⟩ := ppu.tick_eq cartridge fetching
  rw [ticked]

theorem tick_objectAddress : (ppu.tick cartridge).objectAddress = ppu.nextObjectAddress := by
  obtain ⟨_, _, _, _, _, ticked⟩ := ppu.tick_eq cartridge fetching
  rw [ticked]

end Fetching

theorem tick_evaluation : (ppu.tick cartridge).evaluation =
    if ppu.fetching then ppu.nextEvaluation else ppu.evaluation := by
  split
  · rename_i fetching
    obtain ⟨_, _, _, _, _, ticked⟩ := ppu.tick_eq cartridge fetching
    rw [ticked]
  · rename_i idle
    obtain ⟨_, _, _, ended⟩ := ppu.endVblank_updates
    obtain ⟨_, _, _, drawn⟩ := (ppu.endVblank.render cartridge).output_updates
    obtain ⟨_, _, _, started⟩ := (ppu.endVblank.render cartridge).output.startVblank_updates
    have stillIdle : ¬ ppu.endVblank.fetching = true := by rwa [endVblank_fetching]
    unfold tick
    rw [started, drawn, render, if_neg stillIdle, ended]

/-! ## Output -/

def onScreen : Prop := ppu.beam.line < 240 ∧ 1 ≤ ppu.beam.dot ∧ ppu.beam.dot ≤ 256

theorem cell_lt (onScreen : ppu.onScreen) :
    ppu.beam.line * 256 + (ppu.beam.dot - 1) < 61440 := by
  obtain ⟨visible, _, last⟩ := onScreen
  omega

def cell (onScreen : ppu.onScreen) : Fin 61440 :=
  ⟨ppu.beam.line * 256 + (ppu.beam.dot - 1), ppu.cell_lt onScreen⟩

def drawnBackground : Nat × Nat :=
  if ppu.mask.backgroundAt (ppu.beam.dot - 1) then
    ((ppu.nextBackground cartridge).pattern.pixel ppu.fineX.val,
      (ppu.nextBackground cartridge).palette.pixel ppu.fineX.val)
  else (0, 0)

def drawnSprite : Option SpritePixel := ppu.spritePixel (ppu.beam.dot - 1)

theorem startVblank_spriteZeroHit :
    ppu.startVblank.status.spriteZeroHit = ppu.status.spriteZeroHit := by
  unfold startVblank
  split <;> rfl

theorem endVblank_spriteZeroHit : ppu.endVblank.status.spriteZeroHit =
    (ppu.status.spriteZeroHit && !decide (ppu.beam.dot = 1 ∧ ppu.beam.line = 261)) := by
  unfold endVblank
  split
  · rename_i top
    have : ppu.beam.dot = 1 ∧ ppu.beam.line = 261 := top
    simp only [this, and_self, decide_true, Bool.not_true, Bool.and_false]
    rfl
  · rename_i other
    have : ¬ (ppu.beam.dot = 1 ∧ ppu.beam.line = 261) := other
    simp only [this, decide_false, Bool.not_false, Bool.and_true]

theorem endVblank_eq_self (line : ppu.beam.line < 240) : ppu.endVblank = ppu := by
  unfold endVblank
  rw [if_neg]
  rintro ⟨_, last⟩
  rw [last] at line
  exact absurd line (by decide)

theorem rendering_of_fetching (fetching : ppu.fetching = true) : ppu.mask.rendering = true := by
  unfold Ppu.fetching at fetching
  exact (Bool.and_eq_true_iff.mp fetching).2

theorem nextSprites_of_onScreen (onScreen : ppu.onScreen) :
    ppu.nextSprites cartridge = ppu.sprites := by
  obtain ⟨_, _, inside⟩ := onScreen
  unfold nextSprites
  dsimp only
  rw [if_neg (by omega)]

theorem tick_onScreen (fetching : ppu.fetching = true) (onScreen : ppu.onScreen) :
    (ppu.tick cartridge).sprites = ppu.sprites.shift ∧
    (ppu.tick cartridge).picture = ppu.picture.write (ppu.cell onScreen)
      (ppu.colour (blend (ppu.drawnBackground cartridge) ppu.drawnSprite)) ∧
    (ppu.tick cartridge).status.spriteZeroHit = (ppu.status.spriteZeroHit ||
      hitsSpriteZero (ppu.drawnBackground cartridge) ppu.drawnSprite (ppu.beam.dot - 1)) := by
  obtain ⟨status, hit, rendered⟩ := ppu.render_eq cartridge fetching
  rw [nextSprites_of_onScreen ppu cartridge onScreen] at rendered
  have drawn : (ppu.render cartridge).output =
      (ppu.render cartridge).drawPixel (ppu.beam.dot - 1) (ppu.cell onScreen) := by
    rw [rendered]
    unfold output
    exact dif_pos onScreen
  obtain ⟨_, _, _, started⟩ := (ppu.render cartridge).output.startVblank_updates
  have put : (ppu.render cartridge).output.sprites = ppu.sprites.shift ∧
      (ppu.render cartridge).output.picture = ppu.picture.write (ppu.cell onScreen)
        (ppu.colour (blend (ppu.drawnBackground cartridge) ppu.drawnSprite)) ∧
      (ppu.render cartridge).output.status.spriteZeroHit = (ppu.status.spriteZeroHit ||
        hitsSpriteZero (ppu.drawnBackground cartridge) ppu.drawnSprite (ppu.beam.dot - 1)) := by
    rw [drawn, rendered]
    unfold drawPixel
    rw [if_pos (ppu.rendering_of_fetching fetching)]
    refine ⟨rfl, rfl, ?_⟩
    rw [← hit]
    rfl
  unfold tick
  rw [endVblank_eq_self _ onScreen.1]
  refine ⟨?_, ?_, ?_⟩
  · rw [← put.1, started]
  · rw [← put.2.1, started]
  · rw [← put.2.2]
    exact startVblank_spriteZeroHit _

theorem tick_offScreen (fetching : ppu.fetching = true) (offScreen : ¬ ppu.onScreen) :
    (ppu.tick cartridge).sprites = ppu.nextSprites cartridge ∧
    (ppu.tick cartridge).picture = ppu.picture ∧
    (ppu.tick cartridge).status.spriteZeroHit = (ppu.status.spriteZeroHit &&
      !decide (ppu.beam.dot = 1 ∧ ppu.beam.line = 261)) := by
  obtain ⟨_, _, _, ended⟩ := ppu.endVblank_updates
  have stillFetching : ppu.endVblank.fetching = true := ppu.endVblank_fetching.trans fetching
  obtain ⟨status, hit, rendered⟩ := ppu.endVblank.render_eq cartridge stillFetching
  have drawn : (ppu.endVblank.render cartridge).output = ppu.endVblank.render cartridge := by
    rw [rendered, ended]
    unfold output
    exact dif_neg offScreen
  obtain ⟨_, _, _, started⟩ := (ppu.endVblank.render cartridge).startVblank_updates
  unfold tick
  rw [drawn]
  refine ⟨?_, ?_, ?_⟩
  · rw [started, rendered, ended]
    rfl
  · rw [started, rendered, ended]
  · rw [← endVblank_spriteZeroHit, ← hit]
    refine (startVblank_spriteZeroHit _).trans ?_
    rw [rendered]

/-! ## Both layers off -/

theorem tick_dark (dark : ppu.mask.rendering = false) : ∃ status nmiLevel nmiEdge picture,
    ppu.tick cartridge = { ppu with
      status, nmiLevel, nmiEdge, picture
      beam := ppu.beam.advance ppu.mask.rendering } := by
  obtain ⟨_, _, _, ended⟩ := ppu.endVblank_updates
  have stillDark : ppu.endVblank.mask.rendering = false := by rw [ended, dark]
  have rendered : ppu.endVblank.render cartridge = ppu.endVblank := by
    simp [render, fetching, stillDark]
  have drawn : ∃ picture, ppu.endVblank.output = { ppu.endVblank with picture } := by
    unfold output drawPixel
    simp only [stillDark, Bool.false_eq_true, if_false]
    split
    · exact ⟨_, rfl⟩
    · exact ⟨_, rfl⟩
  obtain ⟨picture, drawn⟩ := drawn
  obtain ⟨status, nmiLevel, nmiEdge, started⟩ := ppu.endVblank.output.startVblank_updates
  refine ⟨status, nmiLevel, nmiEdge, picture, ?_⟩
  unfold tick
  rw [rendered, started, drawn, ended]

end Famicom.Ppu
