import Famicom.Proofs.Ppu.DataPort
import Mathlib.Data.List.Induction

namespace Famicom

namespace Ppu

variable (ppu : Ppu) (cartridge : Cartridge) (address : UInt16) (data : UInt8)

/-! ## The row that is overwritten -/

theorem read_foldl_copy (objects : Memory 0x100) (row : Fin 32) {source target : Fin 8 → Fin 0x100}
    (source_val : ∀ offset, (source offset).val = offset.val)
    (target_val : ∀ offset, (target offset).val = row.val * 8 + offset.val)
    (offsets : List (Fin 8)) (cell : Fin 0x100) :
    let copied := offsets.foldl (fun objects offset =>
      objects.write (target offset) (objects.read (source offset))) objects
    (cell.val / 8 = row.val ∧ residue 8 cell.val ∈ offsets →
      copied.read cell = objects.read (residue 0x100 (cell.val % 8))) ∧
    (¬ (cell.val / 8 = row.val ∧ residue 8 cell.val ∈ offsets) →
      copied.read cell = objects.read cell) := by
  induction offsets using List.reverseRecOn generalizing cell with
  | nil => exact ⟨fun both => absurd both.2 List.not_mem_nil, fun _ => rfl⟩
  | append_singleton offsets offset earlier =>
      obtain ⟨inside, outside⟩ := earlier cell
      obtain ⟨sourceInside, sourceOutside⟩ := earlier (source offset)
      dsimp only at inside outside sourceInside sourceOutside ⊢
      rw [List.foldl_append, List.foldl_cons, List.foldl_nil, Memory.read_write]
      generalize offsets.foldl _ objects = copied at inside outside sourceInside sourceOutside ⊢
      -- Row 0 is copied onto itself, so the source is as it was there too.
      have kept : copied.read (source offset) = objects.read (source offset) := by
        have same : residue 0x100 ((source offset).val % 8) = source offset := by
          apply Fin.ext
          rw [val_residue, source_val]
          omega
        rw [same] at sourceInside
        exact (Classical.em _).elim sourceInside sourceOutside
      by_cases here : target offset = cell
      · have place := target_val offset
        rw [here] at place
        have line : cell.val / 8 = row.val := by omega
        have column : residue 8 cell.val = offset := by
          apply Fin.ext
          rw [val_residue]
          omega
        have origin : residue 0x100 (cell.val % 8) = source offset := by
          apply Fin.ext
          rw [val_residue, source_val]
          omega
        have listed : residue 8 cell.val ∈ offsets ++ [offset] :=
          List.mem_append_right _ (List.mem_singleton.mpr column)
        rw [if_pos here, origin, kept]
        exact ⟨fun _ => rfl, fun neither => absurd ⟨line, listed⟩ neither⟩
      · have elsewhere (line : cell.val / 8 = row.val) : residue 8 cell.val ≠ offset := by
          rintro rfl
          apply here
          apply Fin.ext
          rw [target_val, val_residue]
          omega
        have same : cell.val / 8 = row.val ∧ residue 8 cell.val ∈ offsets ++ [offset] ↔
            cell.val / 8 = row.val ∧ residue 8 cell.val ∈ offsets := by
          rw [List.mem_append, List.mem_singleton, and_or_left]
          exact or_iff_left fun both => elsewhere both.1 both.2
        rw [if_neg here, same]
        exact ⟨inside, outside⟩

theorem read_corruptObjects (objects : Memory 0x100) (row : Fin 32) (cell : Fin 0x100) :
    (corruptObjects objects row).read cell =
      if cell.val / 8 = row.val then objects.read (residue 0x100 (cell.val % 8))
      else objects.read cell := by
  split
  · rename_i line
    refine (read_foldl_copy objects row ?_ ?_ (List.finRange 8) cell).1
      ⟨line, List.mem_finRange _⟩
    · exact fun _ => rfl
    · exact fun _ => rfl
  · rename_i elsewhere
    refine (read_foldl_copy objects row ?_ ?_ (List.finRange 8) cell).2
      fun both => elsewhere both.1
    · exact fun _ => rfl
    · exact fun _ => rfl

/-! ## Registers -/

theorem writeMask_cases :
    let mask : PpuMask := { byte := data }
    (ppu.mask.rendering = true ∧ mask.rendering = false ∧
      ppu.writeMask data = { ppu with
        mask
        corruptRow :=
          if ppu.beam.onRenderingLine then some ppu.evaluation.row else ppu.corruptRow }) ∨
    (ppu.mask.rendering = false ∧ mask.rendering = true ∧
      ppu.writeMask data = { ppu with
        mask
        corruptRow := none
        objects := ppu.corruptRow.elim ppu.objects (corruptObjects ppu.objects) }) ∨
    (ppu.mask.rendering = mask.rendering ∧ ppu.writeMask data = { ppu with mask }) := by
  intro mask
  unfold writeMask
  dsimp only
  cases before : ppu.mask.rendering with
  | true =>
      cases after : mask.rendering with
      | true => exact .inr (.inr ⟨rfl, rfl⟩)
      | false =>
          refine .inl ⟨rfl, rfl, ?_⟩
          cases ppu.beam.onRenderingLine <;> rfl
  | false =>
      cases after : mask.rendering with
      | true =>
          refine .inr (.inl ⟨rfl, rfl, ?_⟩)
          cases marked : ppu.corruptRow <;> simp only <;> rfl
      | false => exact .inr (.inr ⟨rfl, rfl⟩)

theorem write_toMask (register : address.toNat % 8 = 1) :
    (ppu.write cartridge address data).1 = writeMask { ppu with ioLatch := data } data := by
  unfold write
  simp only [register]

theorem writeObject_objects : (ppu.writeObject data).objects =
    if ppu.fetching then ppu.objects
    else ppu.objects.write ⟨ppu.objectAddress.toNat, ppu.objectAddress.toNat_lt⟩ data := by
  unfold writeObject
  split <;> rfl

theorem write_toObjects (register : address.toNat % 8 = 4) :
    (ppu.write cartridge address data).1.objects =
      if ppu.fetching then ppu.objects
      else ppu.objects.write ⟨ppu.objectAddress.toNat, ppu.objectAddress.toNat_lt⟩ data := by
  unfold write
  simp only [register]
  exact writeObject_objects _ data

theorem write_elsewhere (notMask : address.toNat % 8 ≠ 1) :
    (ppu.write cartridge address data).1.corruptRow = ppu.corruptRow ∧
      (address.toNat % 8 ≠ 4 → (ppu.write cartridge address data).1.objects = ppu.objects) := by
  unfold write
  dsimp only
  split
  · exact ⟨rfl, fun _ => rfl⟩
  · contradiction
  · exact ⟨rfl, fun _ => rfl⟩
  · rename_i register
    obtain ⟨_, _, stored⟩ := writeObject_updates { ppu with ioLatch := data } data
    rw [stored]
    exact ⟨rfl, fun other => absurd register other⟩
  · obtain ⟨_, _, _, scrolled⟩ := writeScroll_updates { ppu with ioLatch := data } data
    rw [scrolled]
    exact ⟨rfl, fun _ => rfl⟩
  · obtain ⟨_, _, _, addressed⟩ := writeAddress_updates { ppu with ioLatch := data } data
    rw [addressed]
    exact ⟨rfl, fun _ => rfl⟩
  · obtain ⟨_, _, _, stored⟩ := writeData_updates { ppu with ioLatch := data } cartridge data
    rw [stored]
    exact ⟨rfl, fun _ => rfl⟩
  · exact ⟨rfl, fun _ => rfl⟩

end Ppu

namespace PpuOperation

/-! ## Switching rendering -/

def setsRendering : PpuOperation → Option Bool
  | write address data =>
      if address.toNat % 8 = 1 then some (PpuMask.rendering { byte := data }) else none
  | _ => none

def SwitchesOff (ppu : Ppu) (operation : PpuOperation) : Prop :=
  ppu.mask.rendering = true ∧ operation.setsRendering = some false

def SwitchesOn (ppu : Ppu) (operation : PpuOperation) : Prop :=
  ppu.mask.rendering = false ∧ operation.setsRendering = some true

theorem notMask_of_setsRendering {address : UInt16} {data : UInt8}
    (sets : setsRendering (.write address data) = none) : address.toNat % 8 ≠ 1 := by
  intro register
  rw [setsRendering, if_pos register] at sets
  cases sets

theorem apply_of_setsRendering (state : Ppu × Cartridge) {operation : PpuOperation}
    {rendering : Bool} (sets : operation.setsRendering = some rendering) :
    ∃ ioLatch data, PpuMask.rendering { byte := data } = rendering ∧
      (apply state operation).1 = Ppu.writeMask { state.1 with ioLatch } data := by
  cases operation with
  | write address data =>
      rw [setsRendering] at sets
      split at sets
      · rename_i register
        exact ⟨data, data, Option.some.inj sets, state.1.write_toMask state.2 address data register⟩
      · cases sets
  | tick => cases sets
  | read address => cases sets
  | takeNmi => cases sets
  | reset => cases sets
  | board address data => cases sets

theorem apply_of_not_setsRendering (state : Ppu × Cartridge) {operation : PpuOperation}
    (notReset : operation ≠ .reset) (sets : operation.setsRendering = none) :
    (apply state operation).1.mask = state.1.mask ∧
      (apply state operation).1.corruptRow = state.1.corruptRow := by
  cases operation with
  | tick =>
      obtain ⟨_, _, _, _, _, _, _, _, _, ticked⟩ := state.1.tick_updates state.2
      rw [apply, ticked]
      exact ⟨rfl, rfl⟩
  | read address =>
      rcases read_cases state.1 state.2 address with ⟨_, shown⟩ | ⟨_, _, _, shown⟩
      · rw [apply, shown]
        exact ⟨rfl, rfl⟩
      · rw [apply, shown]
        exact ⟨rfl, rfl⟩
  | write address data =>
      have notMask := notMask_of_setsRendering sets
      have mask := state.1.write_mask state.2 address data
      rw [if_neg notMask] at mask
      exact ⟨mask, (state.1.write_elsewhere state.2 address data notMask).1⟩
  | takeNmi => exact ⟨rfl, rfl⟩
  | reset => exact absurd rfl notReset
  | board address data => exact ⟨rfl, rfl⟩

theorem rendering_cases (state : Ppu × Cartridge) (operation : PpuOperation) :
    let after := (apply state operation).1
    (SwitchesOff state.1 operation ∧ after.mask.rendering = false ∧
      after.corruptRow = if state.1.beam.onRenderingLine then some state.1.evaluation.row
        else state.1.corruptRow) ∨
    (SwitchesOn state.1 operation ∧ after.mask.rendering = true ∧ after.corruptRow = none) ∨
    (operation = .reset ∧ after.mask.rendering = false ∧ after.corruptRow = none) ∨
    (operation ≠ .reset ∧ ¬ SwitchesOff state.1 operation ∧
      after.mask.rendering = state.1.mask.rendering ∧ after.corruptRow = state.1.corruptRow) := by
  intro after
  by_cases reset : operation = .reset
  · subst reset
    exact .inr (.inr (.inl ⟨rfl, Ppu.rendering_off, rfl⟩))
  cases sets : operation.setsRendering with
  | none =>
      obtain ⟨mask, row⟩ := apply_of_not_setsRendering state reset sets
      have keeps : ¬ SwitchesOff state.1 operation := fun off => nomatch sets.symm.trans off.2
      exact .inr (.inr (.inr ⟨reset, keeps, congrArg PpuMask.rendering mask, row⟩))
  | some rendering =>
      obtain ⟨ioLatch, data, rfl, applied⟩ := apply_of_setsRendering state sets
      rcases Ppu.writeMask_cases { state.1 with ioLatch } data with
        ⟨before, later, written⟩ | ⟨before, later, written⟩ | ⟨same, written⟩
      · have applied : after = _ := applied.trans written
        rw [applied]
        exact .inl ⟨⟨before, sets.trans (congrArg some later)⟩, later, rfl⟩
      · have applied : after = _ := applied.trans written
        rw [applied]
        exact .inr (.inl ⟨⟨before, sets.trans (congrArg some later)⟩, later, rfl⟩)
      · have applied : after = _ := applied.trans written
        have keeps : ¬ SwitchesOff state.1 operation := by
          rintro ⟨before, off⟩
          have later := Option.some.inj (sets.symm.trans off)
          exact Bool.false_ne_true (later.symm.trans (same.symm.trans before))
        rw [applied]
        exact .inr (.inr (.inr ⟨reset, keeps, same.symm, rfl⟩))

/-! ## The marked row -/

/-- The picture unit marks a row when rendering is switched off on a line that is being fetched. -/
def Marks (ppu : Ppu) (operation : PpuOperation) : Prop :=
  SwitchesOff ppu operation ∧ ppu.beam.onRenderingLine = true

def Undisturbed (state : Ppu × Cartridge) : List PpuOperation → Prop
  | [] => True
  | operation :: rest =>
      operation ≠ .reset ∧ ¬ SwitchesOff state.1 operation ∧
        Undisturbed (apply state operation) rest

/-- The last time that rendering was switched off was on a line being fetched, with the pointer of
sprite evaluation in this row, and there was no reset since. -/
def MarkedRow (cartridge : Cartridge) (history : List PpuOperation) (row : Fin 32) : Prop :=
  ∃ before off after, history = before ++ off :: after ∧
    Marks (ppuAfter cartridge before) off ∧
    row.val = (ppuAfter cartridge before).evaluation.pointer % 32 ∧
    Undisturbed (run ({}, cartridge) (before ++ [off])) after

theorem undisturbed_concat (state : Ppu × Cartridge) (history : List PpuOperation)
    (operation : PpuOperation) : Undisturbed state (history ++ [operation]) ↔
      Undisturbed state history ∧ operation ≠ .reset ∧
        ¬ SwitchesOff (run state history).1 operation := by
  induction history generalizing state with
  | nil => simp only [List.nil_append, Undisturbed, run, List.foldl_nil, and_true, true_and]
  | cons first rest continues =>
      rw [List.cons_append, Undisturbed, Undisturbed, continues]
      simp only [run, List.foldl_cons, and_assoc]

theorem not_markedRow_nil (cartridge : Cartridge) (row : Fin 32) :
    ¬ MarkedRow cartridge [] row := by
  rintro ⟨before, off, after, split, _⟩
  cases before <;> cases split

theorem markedRow_concat (cartridge : Cartridge) (history : List PpuOperation)
    (operation : PpuOperation) (row : Fin 32) :
    MarkedRow cartridge (history ++ [operation]) row ↔
      (Marks (ppuAfter cartridge history) operation ∧
        row.val = (ppuAfter cartridge history).evaluation.pointer % 32) ∨
      (operation ≠ .reset ∧ ¬ SwitchesOff (ppuAfter cartridge history) operation ∧
        MarkedRow cartridge history row) := by
  constructor
  · rintro ⟨before, off, after, split, marks, place, undisturbed⟩
    obtain ⟨rfl, rfl, rfl⟩ | ⟨later, rfl, rfl⟩ := List.concat_eq_append_cons split
    · exact .inl ⟨marks, place⟩
    · obtain ⟨earlier, notReset, keeps⟩ := (undisturbed_concat _ _ _).mp undisturbed
      rw [← run_append, List.append_assoc] at keeps
      exact .inr ⟨notReset, keeps, before, off, later, rfl, marks, place, earlier⟩
  · rintro (⟨marks, place⟩ | ⟨notReset, keeps, before, off, after, rfl, marks, place, earlier⟩)
    · exact ⟨history, operation, [], rfl, marks, place, trivial⟩
    · refine ⟨before, off, after ++ [operation], by simp, marks, place, ?_⟩
      refine (undisturbed_concat _ _ _).mpr ⟨earlier, notReset, ?_⟩
      rw [← run_append, List.append_assoc]
      exact keeps

theorem corruptRow_ppuAfter (cartridge : Cartridge) (history : List PpuOperation) (row : Fin 32) :
    (ppuAfter cartridge history).corruptRow = some row ↔
      (ppuAfter cartridge history).mask.rendering = false ∧ MarkedRow cartridge history row := by
  induction history using List.reverseRecOn with
  | nil => exact iff_of_false nofun fun both => not_markedRow_nil cartridge row both.2
  | append_singleton history operation earlier =>
      rw [markedRow_concat]
      have done := ppuAfter_concat cartridge history operation
      rcases rendering_cases (run ({}, cartridge) history) operation with
        ⟨off, dark, marked⟩ | ⟨on, lit, none⟩ | ⟨reset, dark, none⟩ | ⟨notReset, keeps, same, kept⟩
      · rw [done, marked, dark]
        by_cases fetched : (run ({}, cartridge) history).1.beam.onRenderingLine = true
        · rw [if_pos fetched, Option.some.injEq]
          constructor
          · rintro rfl
            exact ⟨rfl, .inl ⟨⟨off, fetched⟩, rfl⟩⟩
          · rintro ⟨_, ⟨_, place⟩ | ⟨_, keeps, _⟩⟩
            · exact Fin.ext place.symm
            · exact absurd off keeps
        · -- Rendering was on before, so no row was pending that could stay.
          rw [if_neg fetched]
          refine earlier.trans (iff_of_false ?_ ?_)
          · rintro ⟨before, _⟩
            exact Bool.false_ne_true (before.symm.trans off.1)
          · rintro ⟨_, ⟨⟨_, line⟩, _⟩ | ⟨_, keeps, _⟩⟩
            · exact fetched line
            · exact keeps off
      · rw [done, none, lit]
        exact iff_of_false nofun fun both => nomatch both.1
      · subst reset
        rw [done, none]
        refine iff_of_false nofun ?_
        rintro ⟨_, ⟨⟨⟨_, sets⟩, _⟩, _⟩ | ⟨notReset, _⟩⟩
        · cases sets
        · exact notReset rfl
      · rw [done, kept, same]
        refine earlier.trans (and_congr_right fun _ => ?_)
        constructor
        · exact fun marked => .inr ⟨notReset, keeps, marked⟩
        · rintro (⟨⟨off, _⟩, _⟩ | ⟨_, _, marked⟩)
          · exact absurd off keeps
          · exact marked

/-! ## What changes object memory -/

def StoresObject (ppu : Ppu) (operation : PpuOperation) : Prop :=
  ppu.fetching = false ∧ ∃ address data, operation = .write address data ∧ address.toNat % 8 = 4

def Corrupts (cartridge : Cartridge) (history : List PpuOperation) (operation : PpuOperation) :
    Prop :=
  SwitchesOn (ppuAfter cartridge history) operation ∧ ∃ row, MarkedRow cartridge history row

theorem apply_of_switchesOn {state : Ppu × Cartridge} {operation : PpuOperation}
    (switchesOn : SwitchesOn state.1 operation) :
    (apply state operation).1.corruptRow = none ∧
      (apply state operation).1.objects =
        state.1.corruptRow.elim state.1.objects (Ppu.corruptObjects state.1.objects) := by
  obtain ⟨dark, sets⟩ := switchesOn
  obtain ⟨ioLatch, data, lit, applied⟩ := apply_of_setsRendering state sets
  rcases Ppu.writeMask_cases { state.1 with ioLatch } data with
    ⟨before, _⟩ | ⟨_, _, written⟩ | ⟨same, _⟩
  · exact absurd (dark.symm.trans before) Bool.false_ne_true
  · rw [applied, written]
    exact ⟨rfl, rfl⟩
  · exact absurd (dark.symm.trans (same.trans lit)) Bool.false_ne_true

theorem objects_of_not_switchesOn {state : Ppu × Cartridge} {operation : PpuOperation}
    (keeps : ¬ SwitchesOn state.1 operation) (stores : ¬ StoresObject state.1 operation) :
    (apply state operation).1.objects = state.1.objects := by
  cases sets : operation.setsRendering with
  | some rendering =>
      obtain ⟨ioLatch, data, rfl, applied⟩ := apply_of_setsRendering state sets
      rcases Ppu.writeMask_cases { state.1 with ioLatch } data with
        ⟨_, _, written⟩ | ⟨dark, lit, _⟩ | ⟨_, written⟩
      · rw [applied, written]
      · exact absurd ⟨dark, sets.trans (congrArg some lit)⟩ keeps
      · rw [applied, written]
  | none =>
      cases operation with
      | tick =>
          obtain ⟨_, _, _, _, _, _, _, _, _, ticked⟩ := state.1.tick_updates state.2
          rw [apply, ticked]
      | read address =>
          rcases read_cases state.1 state.2 address with ⟨_, shown⟩ | ⟨_, _, _, shown⟩
          · rw [apply, shown]
            rfl
          · rw [apply, shown]
      | write address data =>
          by_cases register : address.toNat % 8 = 4
          · have fetching : state.1.fetching = true := by
              refine eq_true_of_ne_false fun idle => ?_
              exact stores ⟨idle, address, data, rfl, register⟩
            rw [apply, Ppu.write_toObjects _ _ _ _ register, if_pos fetching]
          · have notMask := notMask_of_setsRendering sets
            exact (state.1.write_elsewhere state.2 address data notMask).2 register
      | takeNmi => rfl
      | reset => rfl
      | board address data => rfl

theorem exists_marks_of_corruptRow {state : Ppu × Cartridge} {history : List PpuOperation}
    {row : Fin 32} (clear : state.1.corruptRow = none)
    (pending : (run state history).1.corruptRow = some row) :
    ∃ before off after, history = before ++ off :: after ∧ Marks (run state before).1 off := by
  induction history generalizing state with
  | nil => exact nomatch clear.symm.trans pending
  | cons operation rest continues =>
      by_cases marks : Marks state.1 operation
      · exact ⟨[], operation, rest, rfl, marks⟩
      · have stillClear : (apply state operation).1.corruptRow = none := by
          rcases rendering_cases state operation with
            ⟨off, _, marked⟩ | ⟨_, _, none⟩ | ⟨_, _, none⟩ | ⟨_, _, _, kept⟩
          · rw [marked, if_neg fun line => marks ⟨off, line⟩]
            exact clear
          · exact none
          · exact none
          · exact kept.trans clear
        obtain ⟨before, off, after, rfl, marks⟩ := continues stillClear pending
        exact ⟨operation :: before, off, after, rfl, marks⟩

/-- What any operations from power-on do to object memory. Each one leaves it as it is unless it
stores a byte or corrupts a row; a corruption is pending only while rendering is off, and between
two of them a row was marked anew. -/
theorem objects_storedOrCorrupted (cartridge : Cartridge) (history : List PpuOperation) :
    let state := run ({}, cartridge) history
    (∀ operation, ¬ StoresObject state.1 operation → ¬ Corrupts cartridge history operation →
      (apply state operation).1.objects = state.1.objects) ∧
    (∀ address data, StoresObject state.1 (.write address data) →
      (apply state (.write address data)).1.objects = state.1.objects.write
        ⟨state.1.objectAddress.toNat, state.1.objectAddress.toNat_lt⟩ data) ∧
    (∀ operation row, SwitchesOn state.1 operation → MarkedRow cartridge history row →
      ∀ cell, (apply state operation).1.objects.read cell =
        if cell.val / 8 = row.val then state.1.objects.read (residue 0x100 (cell.val % 8))
        else state.1.objects.read cell) ∧
    (∀ row, state.1.corruptRow = some row ↔
      state.1.mask.rendering = false ∧ MarkedRow cartridge history row) ∧
    ∀ first between second, Corrupts cartridge history first →
      Corrupts cartridge (history ++ first :: between) second →
      ∃ before off after, between = before ++ off :: after ∧
        Marks (ppuAfter cartridge (history ++ first :: before)) off := by
  intro state
  have marked : ∀ row, state.1.corruptRow = some row ↔
      state.1.mask.rendering = false ∧ MarkedRow cartridge history row :=
    corruptRow_ppuAfter cartridge history
  refine ⟨fun operation stores corrupts => ?_, ?_, ?_, marked, ?_⟩
  · by_cases switchesOn : SwitchesOn state.1 operation
    · have clear : state.1.corruptRow = none := by
        refine Option.eq_none_iff_forall_ne_some.mpr fun row pending => ?_
        exact corrupts ⟨switchesOn, row, ((marked row).mp pending).2⟩
      rw [(apply_of_switchesOn switchesOn).2, clear]
      rfl
    · exact objects_of_not_switchesOn switchesOn stores
  · rintro address data ⟨idle, _, _, same, register⟩
    cases same
    rw [apply, Ppu.write_toObjects _ _ _ _ register, if_neg (Bool.eq_false_iff.mp idle)]
  · intro operation row switchesOn isMarked cell
    have pending := (marked row).mpr ⟨switchesOn.1, isMarked⟩
    rw [(apply_of_switchesOn switchesOn).2, pending]
    exact Ppu.read_corruptObjects _ row cell
  · rintro first between second ⟨switchesOn, _⟩ ⟨⟨dark, _⟩, row, isMarked⟩
    have longer (rest : List PpuOperation) :
        ppuAfter cartridge (history ++ first :: rest) = (run (apply state first) rest).1 :=
      congrArg Prod.fst (run_append _ history (first :: rest))
    have pending := (corruptRow_ppuAfter cartridge _ row).mpr ⟨dark, isMarked⟩
    rw [longer] at pending
    obtain ⟨before, off, after, split, marks⟩ :=
      exists_marks_of_corruptRow (apply_of_switchesOn switchesOn).1 pending
    refine ⟨before, off, after, split, ?_⟩
    rw [longer]
    exact marks

-- Rendering is switched off while the fifth row of secondary memory is cleared.
set_option maxRecDepth 10000 in
example : (ppuAfter Cartridge.empty
    ([.write 0x2004 7, .write 0x2001 0x18] ++ List.replicate 11 .tick ++
      [.write 0x2001 0, .write 0x2001 0x18])).objects.read 32 = 7 := by decide +kernel

end PpuOperation

end Famicom
