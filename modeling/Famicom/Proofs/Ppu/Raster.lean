import Famicom.Proofs.Bus.Passage
import Famicom.Proofs.Ppu.Status

namespace Famicom

namespace Ppu

variable (ppu : Ppu) (cartridge : Cartridge)

/-! ## Nothing reads the picture -/

section Unread

variable (picture : Memory 61440)

theorem endVblank_picture : endVblank { ppu with picture } = { ppu.endVblank with picture } := by
  unfold endVblank
  dsimp only
  split <;> rfl

theorem startVblank_picture : ppu.startVblank.picture = ppu.picture := by
  obtain ⟨_, _, _, started⟩ := ppu.startVblank_updates
  rw [started]

theorem runBackground_picture :
    runBackground { ppu with picture } cartridge =
      { ppu.runBackground cartridge with picture } := by
  unfold runBackground fetchTile
  dsimp only
  split_ifs
  · split <;> rfl
  · rfl
  · rfl

theorem runScroll_picture : runScroll { ppu with picture } = { ppu.runScroll with picture } := by
  unfold runScroll
  dsimp only
  split_ifs <;> rfl

theorem runSprites_picture :
    runSprites { ppu with picture } cartridge = { ppu.runSprites cartridge with picture } := by
  unfold runSprites fetchSprites
  dsimp only
  split_ifs <;> rfl

theorem render_picture :
    render { ppu with picture } cartridge = { ppu.render cartridge with picture } := by
  unfold render
  rw [runBackground_picture, runScroll_picture, runSprites_picture]
  by_cases fetching : ppu.fetching = true
  · rw [if_pos fetching]
    exact if_pos fetching
  · rw [if_neg fetching]
    exact if_neg fetching

end Unread

theorem and_lt (byte : UInt8) {mask : UInt8} (small : mask < 0x40) : byte &&& mask < 0x40 := by
  rw [UInt8.lt_iff_toNat_lt] at small ⊢
  rw [UInt8.toNat_and]
  exact Nat.lt_of_le_of_lt Nat.and_le_right small

theorem colour_lt (index : Nat) : ppu.colour index < 0x40 := by
  unfold colour
  split
  · exact and_lt _ (by decide)
  · exact and_lt _ (by decide)

theorem drawPixel_picture (column : Nat) (cell : Fin 61440) : ∃ colour < (0x40 : UInt8),
    ∀ picture, (drawPixel { ppu with picture } column cell).picture =
      picture.write cell colour := by
  by_cases rendering : ppu.mask.rendering = true
  · refine ⟨_, ppu.colour_lt (blend (ppu.backgroundPixel column) (ppu.spritePixel column)), ?_⟩
    intro picture
    unfold drawPixel
    rw [if_pos rendering]
    rfl
  · refine ⟨_, ppu.colour_lt ppu.backdropIndex, ?_⟩
    intro picture
    unfold drawPixel
    rw [if_neg rendering]
    rfl

/-! ## The pixel of a dot -/

theorem tick_picture_onScreen (onScreen : ppu.onScreen) : ∃ colour < (0x40 : UInt8),
    ∀ picture, (tick { ppu with picture } cartridge).picture =
      picture.write (ppu.cell onScreen) colour := by
  obtain ⟨_, _, _, ended⟩ := ppu.endVblank_updates
  obtain ⟨_, _, _, _, _, _, rendered⟩ := ppu.endVblank.render_updates cartridge
  have beam : (ppu.endVblank.render cartridge).beam = ppu.beam := by rw [rendered, ended]
  obtain ⟨colour, small, drawn⟩ := (ppu.endVblank.render cartridge).drawPixel_picture
    (ppu.beam.dot - 1) (ppu.cell onScreen)
  refine ⟨colour, small, fun picture => ?_⟩
  have put : output { ppu.endVblank.render cartridge with picture } =
      drawPixel { ppu.endVblank.render cartridge with picture } (ppu.beam.dot - 1)
        (ppu.cell onScreen) := by
    unfold output
    simp only [beam]
    exact dif_pos onScreen
  unfold tick
  rw [endVblank_picture, render_picture, put]
  exact (startVblank_picture _).trans (drawn picture)

theorem tick_picture_offScreen (offScreen : ¬ ppu.onScreen) :
    (ppu.tick cartridge).picture = ppu.picture := by
  obtain ⟨_, _, _, ended⟩ := ppu.endVblank_updates
  obtain ⟨_, _, _, _, _, _, rendered⟩ := ppu.endVblank.render_updates cartridge
  have beam : (ppu.endVblank.render cartridge).beam = ppu.beam := by rw [rendered, ended]
  have kept : (ppu.endVblank.render cartridge).output = ppu.endVblank.render cartridge := by
    unfold output
    simp only [beam]
    exact dif_neg offScreen
  unfold tick
  rw [kept]
  refine (startVblank_picture _).trans ?_
  rw [rendered, ended]

/-! ## Six bits -/

structure SixBits : Prop where
  picture : ∀ cell, ppu.picture.read cell < 0x40
  palettes : ∀ cell, ppu.palettes.read cell < 0x40

theorem sixBits_powerOn : SixBits {} where
  picture cell := by
    rw [Memory.read_fill]
    decide
  palettes cell := by
    rw [Memory.read_fill]
    decide

theorem read_write_lt {size : Nat} {memory : Memory size} {byte : UInt8} (place : Fin size)
    (small : ∀ cell, memory.read cell < 0x40) (smallByte : byte < 0x40) (cell : Fin size) :
    (memory.write place byte).read cell < 0x40 := by
  rw [Memory.read_write]
  split
  · exact smallByte
  · exact small cell

theorem sixBits_tick {ppu : Ppu} (sixBits : ppu.SixBits) (cartridge : Cartridge) :
    (ppu.tick cartridge).SixBits where
  picture := by
    by_cases onScreen : ppu.onScreen
    · obtain ⟨colour, small, drawn⟩ := ppu.tick_picture_onScreen cartridge onScreen
      rw [drawn ppu.picture]
      exact read_write_lt _ sixBits.picture small
    · rw [ppu.tick_picture_offScreen cartridge onScreen]
      exact sixBits.picture
  palettes := by
    obtain ⟨_, _, _, _, _, _, _, _, _, ticked⟩ := ppu.tick_updates cartridge
    rw [ticked]
    exact sixBits.palettes

theorem sixBits_writeVram {ppu : Ppu} (sixBits : ppu.SixBits) (cartridge : Cartridge)
    (data : UInt8) : (ppu.writeVram cartridge data).1.SixBits := by
  unfold writeVram
  dsimp only
  split_ifs
  · exact sixBits
  · exact ⟨sixBits.picture, sixBits.palettes⟩
  · exact ⟨sixBits.picture, read_write_lt _ sixBits.palettes (and_lt data (by decide))⟩

theorem sixBits_write {ppu : Ppu} (sixBits : ppu.SixBits) (cartridge : Cartridge)
    (address : UInt16) (data : UInt8) : (ppu.write cartridge address data).1.SixBits := by
  have latched : SixBits { ppu with ioLatch := data } := ⟨sixBits.picture, sixBits.palettes⟩
  unfold write
  dsimp only
  split
  · exact ⟨sixBits.picture, sixBits.palettes⟩
  · obtain ⟨_, _, masked⟩ := writeMask_updates { ppu with ioLatch := data } data
    rw [masked]
    exact ⟨sixBits.picture, sixBits.palettes⟩
  · exact ⟨sixBits.picture, sixBits.palettes⟩
  · obtain ⟨_, _, stored⟩ := writeObject_updates { ppu with ioLatch := data } data
    rw [stored]
    exact ⟨sixBits.picture, sixBits.palettes⟩
  · obtain ⟨_, _, _, scrolled⟩ := writeScroll_updates { ppu with ioLatch := data } data
    rw [scrolled]
    exact ⟨sixBits.picture, sixBits.palettes⟩
  · obtain ⟨_, _, _, addressed⟩ := writeAddress_updates { ppu with ioLatch := data } data
    rw [addressed]
    exact ⟨sixBits.picture, sixBits.palettes⟩
  · have stored := sixBits_writeVram latched cartridge data
    obtain ⟨_, advanced⟩ :=
      (writeVram { ppu with ioLatch := data } cartridge data).1.advanceAddress_updates
    rw [advanced]
    exact ⟨stored.picture, stored.palettes⟩
  · exact latched

end Ppu

namespace Beam

def AtTop (beam : Beam) : Prop := beam.line = 0 ∧ beam.dot = 0

instance (beam : Beam) : Decidable beam.AtTop := instDecidableAnd

def drawn (beam : Beam) : Nat :=
  if beam.line < 240 then beam.line * 256 + min 256 (beam.dot - 1) else 61440

theorem drawn_of_atTop {beam : Beam} (top : beam.AtTop) : beam.drawn = 0 := by
  simp [drawn, top.1, top.2]

theorem inside_of_atTop {beam : Beam} (top : beam.AtTop) : beam.Inside where
  line_le := top.1 ▸ Nat.zero_le 261
  dot_le := top.2 ▸ Nat.zero_le 340

/-- What is drawn when the beam moves on: one cell more behind a dot of the picture, none when the
next frame begins, and otherwise the same. -/
theorem drawn_advance {beam : Beam} (inside : beam.Inside) (rendering : Bool) :
    ((beam.advance rendering).AtTop ∧ ¬ beam.AtTop ∧ 240 ≤ beam.line) ∨
    (¬ (beam.advance rendering).AtTop ∧
      (beam.line < 240 ∧ 1 ≤ beam.dot ∧ beam.dot ≤ 256) ∧
      beam.drawn = beam.line * 256 + (beam.dot - 1) ∧
      (beam.advance rendering).drawn = beam.drawn + 1) ∨
    (¬ (beam.advance rendering).AtTop ∧
      ¬ (beam.line < 240 ∧ 1 ≤ beam.dot ∧ beam.dot ≤ 256) ∧
      (beam.advance rendering).drawn = beam.drawn) := by
  have moved := advance_cases inside.line_le inside.dot_le rendering
  unfold AtTop drawn
  rcases moved with ⟨line, dot, _⟩ | ⟨line, dot, _, last⟩ | ⟨line, dot, bottom, _⟩
  · rw [line, dot]
    split <;> omega
  · rw [line, dot]
    split <;> split <;> omega
  · rw [line, dot]
    omega

theorem frame_advance {beam : Beam} (inside : beam.Inside) (rendering : Bool) :
    (beam.advance rendering).frame =
      beam.frame + if (beam.advance rendering).AtTop then 1 else 0 := by
  have line_le := inside.line_le
  have dot_le := inside.dot_le
  obtain ⟨length, plain, advanced⟩ := beam.advance_length rendering
  rw [advanced]
  unfold nextLine preRenderLine
  split_ifs with ends bottom top top top
  · rfl
  · exact absurd ⟨rfl, rfl⟩ top
  · exact absurd top.1 (Nat.succ_ne_zero _)
  · rfl
  · exact absurd top.2 (by dsimp only; omega)
  · rfl

end Beam

namespace PpuOperation

theorem apply_picture (state : Ppu × Cartridge) {operation : PpuOperation}
    (notTick : operation ≠ .tick) : (apply state operation).1.picture = state.1.picture :=
  (apply_sameDrawing state notTick).picture

theorem sixBits_apply {state : Ppu × Cartridge} (sixBits : state.1.SixBits)
    (operation : PpuOperation) : (apply state operation).1.SixBits := by
  cases operation with
  | tick => exact Ppu.sixBits_tick sixBits state.2
  | read address =>
      rcases read_cases state.1 state.2 address with ⟨_, shown⟩ | ⟨_, _, _, shown⟩
      · rw [apply, shown]
        exact ⟨sixBits.picture, sixBits.palettes⟩
      · rw [apply, shown]
        exact ⟨sixBits.picture, sixBits.palettes⟩
  | write address data => exact Ppu.sixBits_write sixBits state.2 address data
  | takeNmi => exact ⟨sixBits.picture, sixBits.palettes⟩
  | reset => exact ⟨sixBits.picture, sixBits.palettes⟩
  | board address data => exact sixBits

theorem sixBits_run {state : Ppu × Cartridge} (sixBits : state.1.SixBits)
    (history : List PpuOperation) : (run state history).1.SixBits := by
  induction history generalizing state with
  | nil => exact sixBits
  | cons operation rest continues => exact continues (sixBits_apply sixBits operation)

/-! ## The cells that operations write -/

/-- The operation would change what some picture holds in the cell. A byte that is replaced by an
equal one is written as well. -/
def Writes (state : Ppu × Cartridge) (operation : PpuOperation) (cell : Fin 61440) : Prop :=
  ∃ picture, (apply ({ state.1 with picture }, state.2) operation).1.picture.read cell ≠
    picture.read cell

open Classical in
noncomputable def writtenCells (state : Ppu × Cartridge) (operation : PpuOperation) :
    List (Fin 61440) :=
  (List.finRange 61440).filter fun cell => decide (Writes state operation cell)

noncomputable def writeLog (state : Ppu × Cartridge) : List PpuOperation → List (Fin 61440)
  | [] => []
  | operation :: rest => writtenCells state operation ++ writeLog (apply state operation) rest

def Enters (state : Ppu × Cartridge) (operation : PpuOperation) : Prop :=
  ¬ state.1.beam.AtTop ∧ (apply state operation).1.beam.AtTop

instance (state : Ppu × Cartridge) (operation : PpuOperation) :
    Decidable (Enters state operation) := instDecidableAnd

def entries (state : Ppu × Cartridge) : List PpuOperation → Nat
  | [] => 0
  | operation :: rest =>
      (if Enters state operation then 1 else 0) + entries (apply state operation) rest

theorem inside_apply {state : Ppu × Cartridge} (inside : state.1.beam.Inside)
    (operation : PpuOperation) : (apply state operation).1.beam.Inside :=
  (passed_run state inside [operation]).inside

theorem beam_apply_tick (state : Ppu × Cartridge) :
    (apply state .tick).1.beam = state.1.beam.advance state.1.mask.rendering :=
  state.1.tick_beam state.2

theorem enters_tick_iff {state : Ppu × Cartridge} (inside : state.1.beam.Inside) :
    Enters state .tick ↔ (state.1.beam.advance state.1.mask.rendering).AtTop := by
  rw [Enters, beam_apply_tick]
  refine ⟨And.right, fun top => ⟨?_, top⟩⟩
  rcases Beam.drawn_advance inside state.1.mask.rendering with
    ⟨_, below, _⟩ | ⟨away, _⟩ | ⟨away, _⟩
  · exact below
  · exact absurd top away
  · exact absurd top away

theorem not_enters (state : Ppu × Cartridge) {operation : PpuOperation}
    (notTick : operation ≠ .tick) : ¬ Enters state operation := by
  rw [Enters, apply_beam state notTick]
  exact fun enters => enters.1 enters.2

theorem writes_iff (state : Ppu × Cartridge) (operation : PpuOperation) (cell : Fin 61440) :
    Writes state operation cell ↔
      operation = .tick ∧ ∃ onScreen : state.1.onScreen, state.1.cell onScreen = cell := by
  constructor
  · rintro ⟨picture, changed⟩
    have ticks : operation = .tick := by
      by_contra notTick
      have same := apply_picture ({ state.1 with picture }, state.2) notTick
      exact changed (congrArg (Memory.read · cell) same)
    subst ticks
    refine ⟨rfl, ?_⟩
    by_cases onScreen : state.1.onScreen
    · obtain ⟨colour, _, drawn⟩ := state.1.tick_picture_onScreen state.2 onScreen
      refine ⟨onScreen, ?_⟩
      by_contra apart
      apply changed
      rw [apply, drawn picture, Memory.read_write_of_ne _ _ apart]
    · have same := Ppu.tick_picture_offScreen { state.1 with picture } state.2 onScreen
      exact absurd (congrArg (Memory.read · cell) same) changed
  · rintro ⟨rfl, onScreen, rfl⟩
    obtain ⟨colour, small, drawn⟩ := state.1.tick_picture_onScreen state.2 onScreen
    -- No pixel has the byte $40, so a picture full of it shows every write.
    refine ⟨Memory.fill 61440 0x40, ?_⟩
    rw [apply, drawn, Memory.read_write_self, Memory.read_fill]
    exact UInt8.ne_of_lt small

theorem writtenCells_of_not {state : Ppu × Cartridge} {operation : PpuOperation}
    (nowhere : ¬ (operation = .tick ∧ state.1.onScreen)) : writtenCells state operation = [] := by
  classical
  refine List.filter_eq_nil_iff.mpr fun cell _ writes => ?_
  obtain ⟨ticks, onScreen, _⟩ := (writes_iff state operation cell).mp (of_decide_eq_true writes)
  exact nowhere ⟨ticks, onScreen⟩

theorem writtenCells_tick {state : Ppu × Cartridge} (onScreen : state.1.onScreen) :
    writtenCells state .tick = [state.1.cell onScreen] := by
  classical
  have only (cell : Fin 61440) :
      decide (Writes state .tick cell) = (cell == state.1.cell onScreen) := by
    rw [Bool.eq_iff_iff, decide_eq_true_iff, beq_iff_eq, writes_iff]
    exact ⟨fun ⟨_, _, same⟩ => same.symm, fun same => ⟨rfl, onScreen, same.symm⟩⟩
  have once : (List.finRange 61440).count (state.1.cell onScreen) = 1 :=
    List.count_eq_one_of_mem (List.nodup_finRange 61440) (List.mem_finRange _)
  unfold writtenCells
  rw [List.filter_congr fun cell _ => only cell, List.filter_beq, once]
  rfl

theorem take_finRange_succ {size : Nat} (cell : Fin size) :
    (List.finRange size).take (cell.val + 1) = (List.finRange size).take cell.val ++ [cell] := by
  have listed : (List.finRange size)[cell.val]? = some cell :=
    List.getElem?_eq_some_iff.mpr ⟨by simp, by simp⟩
  rw [List.take_add_one, listed, Option.toList_some]

theorem entries_append (state : Ppu × Cartridge) (before after : List PpuOperation) :
    entries state (before ++ after) = entries state before + entries (run state before) after := by
  induction before generalizing state with
  | nil => exact (Nat.zero_add _).symm
  | cons operation rest continues =>
      rw [List.cons_append, entries, entries, continues, Nat.add_assoc]
      rfl

/-- An operation continues the picture where the beam is: what was drawn of it and what the
operation writes make up what is drawn then, after a whole picture if the beam goes back to the
top. -/
theorem drawn_apply {state : Ppu × Cartridge} (inside : state.1.beam.Inside)
    (operation : PpuOperation) :
    (List.finRange 61440).take state.1.beam.drawn ++ writtenCells state operation =
      (if Enters state operation then List.finRange 61440 else []) ++
        (List.finRange 61440).take (apply state operation).1.beam.drawn := by
  by_cases ticks : operation = .tick
  · subst ticks
    have enters := enters_tick_iff inside
    rcases Beam.drawn_advance inside state.1.mask.rendering with
      ⟨top, _, below⟩ | ⟨away, onScreen, here, further⟩ | ⟨away, offScreen, same⟩
    · -- The beam comes from below the picture, where all of it is drawn.
      have full : state.1.beam.drawn = 61440 := if_neg (Nat.not_lt.mpr below)
      have offScreen : ¬ state.1.onScreen := fun onScreen => absurd onScreen.1 (by omega)
      rw [writtenCells_of_not (fun both => offScreen both.2), if_pos (enters.mpr top),
        beam_apply_tick, Beam.drawn_of_atTop top, full, List.take_zero, List.take_of_length_le]
      exact Nat.le_of_eq List.length_finRange
    · have next : state.1.beam.drawn = (state.1.cell onScreen).val := here
      rw [writtenCells_tick onScreen, if_neg (mt enters.mp away), beam_apply_tick, further, next,
        take_finRange_succ, List.nil_append]
    · rw [writtenCells_of_not (fun both => offScreen both.2), if_neg (mt enters.mp away),
        beam_apply_tick, same, List.append_nil, List.nil_append]
  · rw [writtenCells_of_not (fun both => ticks both.1), if_neg (not_enters state ticks),
      apply_beam state ticks, List.append_nil, List.nil_append]

theorem drawn_run {state : Ppu × Cartridge} (inside : state.1.beam.Inside)
    (history : List PpuOperation) :
    (List.finRange 61440).take state.1.beam.drawn ++ writeLog state history =
      (List.replicate (entries state history) (List.finRange 61440)).flatten ++
        (List.finRange 61440).take (run state history).1.beam.drawn := by
  induction history generalizing state with
  | nil => exact List.append_nil _
  | cons operation rest continues =>
      have later := continues (inside_apply inside operation)
      rw [writeLog, entries, ← List.append_assoc, drawn_apply inside, List.append_assoc, later,
        ← List.append_assoc]
      split
      · rw [Nat.add_comm 1, List.replicate_succ, List.flatten_cons]
        rfl
      · rw [Nat.zero_add]
        rfl

theorem frame_apply {state : Ppu × Cartridge} (inside : state.1.beam.Inside)
    (operation : PpuOperation) : (apply state operation).1.beam.frame =
      state.1.beam.frame + if Enters state operation then 1 else 0 := by
  by_cases ticks : operation = .tick
  · subst ticks
    rw [beam_apply_tick, Beam.frame_advance inside, if_congr (enters_tick_iff inside) rfl rfl]
  · rw [apply_beam state ticks, if_neg (not_enters state ticks)]
    rfl

theorem frame_run {state : Ppu × Cartridge} (inside : state.1.beam.Inside)
    (history : List PpuOperation) :
    (run state history).1.beam.frame = state.1.beam.frame + entries state history := by
  induction history generalizing state with
  | nil => rfl
  | cons operation rest continues =>
      have later := continues (inside_apply inside operation)
      rw [entries, ← Nat.add_assoc, ← frame_apply inside]
      exact later

theorem writeLog_frame {state : Ppu × Cartridge} (top : state.1.beam.AtTop)
    {between : List PpuOperation} {last : PpuOperation} (none : entries state between = 0)
    (enters : Enters (run state between) last) :
    writeLog state (between ++ [last]) = List.finRange 61440 := by
  have drawn := drawn_run (Beam.inside_of_atTop top) (between ++ [last])
  have once : entries state (between ++ [last]) = 1 := by
    rw [entries_append, none, entries, if_pos enters]
    rfl
  rw [Beam.drawn_of_atTop top, once, run_concat, Beam.drawn_of_atTop enters.2] at drawn
  simpa using drawn

/-- What any operations from power-on do to the picture. A cell is written by the dot that has its
place and by nothing else, the frames that are over have written all of them in order, so has every
stretch from one entry into the first dot to the next, and each byte has six bits. -/
theorem picture_drawnInOrder (cartridge : Cartridge) (history : List PpuOperation) :
    let state := run ({}, cartridge) history
    (∀ operation (cell : Fin 61440), Writes state operation cell ↔
      operation = .tick ∧ state.1.beam.line < 240 ∧ 1 ≤ state.1.beam.dot ∧
        state.1.beam.dot ≤ 256 ∧ cell.val = state.1.beam.line * 256 + (state.1.beam.dot - 1)) ∧
    writeLog ({}, cartridge) history =
      (List.replicate state.1.beam.frame (List.finRange 61440)).flatten ++
        (List.finRange 61440).take state.1.beam.drawn ∧
    (∀ entering between last, Enters state entering →
      entries (apply state entering) between = 0 →
      Enters (run (apply state entering) between) last →
      writeLog (apply state entering) (between ++ [last]) = List.finRange 61440) ∧
    (∀ cell, state.1.picture.read cell < 64) ∧ ∀ cell, state.1.palettes.read cell < 64 := by
  intro state
  have fresh : (({}, cartridge) : Ppu × Cartridge).1.beam.AtTop := ⟨rfl, rfl⟩
  have inside := Beam.inside_of_atTop fresh
  have sixBits : state.1.SixBits := sixBits_run Ppu.sixBits_powerOn history
  refine ⟨fun operation cell => ?_, ?_, ?_, sixBits.picture, sixBits.palettes⟩
  · rw [writes_iff]
    constructor
    · rintro ⟨ticks, ⟨line, left, right⟩, rfl⟩
      exact ⟨ticks, line, left, right, rfl⟩
    · rintro ⟨ticks, line, left, right, place⟩
      exact ⟨ticks, ⟨line, left, right⟩, Fin.ext place.symm⟩
  · have drawn := drawn_run inside history
    have frames : state.1.beam.frame = entries ({}, cartridge) history :=
      (frame_run inside history).trans (Nat.zero_add _)
    rw [Beam.drawn_of_atTop fresh, List.take_zero, List.nil_append] at drawn
    rw [frames]
    exact drawn
  · intro entering between last enters none leaves
    exact writeLog_frame enters.2 none leaves

end PpuOperation

end Famicom
