import Famicom.Proofs.Bus.Passage
import Famicom.Proofs.Ppu.CheckedStages

namespace Famicom

namespace Ppu

variable (ppu : Ppu) (cartridge : Cartridge)

/-- What every operation keeps as long as no byte is stored past secondary memory. -/
structure Bounded : Prop where
  inside : ppu.beam.Inside
  pointer_le : ppu.evaluation.pointer ≤ 32
  count_le : ppu.sprites.count ≤ 8

variable {ppu}

theorem Bounded.render_count_le (bounded : ppu.Bounded) :
    (ppu.render cartridge).sprites.count ≤ 8 := by
  unfold render
  split
  · obtain ⟨_, _, fetched⟩ := ppu.runBackground_updates cartridge
    obtain ⟨_, scrolled⟩ := (ppu.runBackground cartridge).runScroll_updates
    rw [runSprites_sprites, scrolled, fetched]
    unfold nextSprites
    dsimp only
    split_ifs
    · exact SpriteLine.fetch_count_le _ _ _ bounded.count_le bounded.pointer_le _ _ _ _
    · exact Nat.zero_le 8
    · exact bounded.count_le
    · exact bounded.count_le
  · exact bounded.count_le

theorem output_count : ppu.output.sprites.count = ppu.sprites.count := by
  unfold output drawPixel
  dsimp only
  split_ifs
  · exact SpriteLine.shift_count _
  · rfl
  · rfl

theorem Bounded.endVblank (bounded : ppu.Bounded) : ppu.endVblank.Bounded := by
  obtain ⟨_, _, _, ended⟩ := ppu.endVblank_updates
  rw [ended]
  exact ⟨bounded.inside, bounded.pointer_le, bounded.count_le⟩

theorem Bounded.tick (bounded : ppu.Bounded)
    (sound : (ppu.tick cartridge).evaluation.overrun = false) : (ppu.tick cartridge).Bounded where
  inside := by
    rw [tick_beam]
    exact (Beam.passed_advance bounded.inside _).inside
  pointer_le := ppu.tick_pointer_le cartridge bounded.pointer_le sound
  count_le := by
    obtain ⟨_, _, _, started⟩ := (ppu.endVblank.render cartridge).output.startVblank_updates
    unfold Ppu.tick
    rw [started]
    exact output_count.trans_le (bounded.endVblank.render_count_le cartridge)

theorem tick_toChecked (bounded : ppu.Bounded) (sound : ppu.evaluation.overrun = false) :
    ppu.toChecked.tick cartridge = (ppu.tick cartridge).outcome := by
  obtain ⟨_, _, _, ended⟩ := ppu.endVblank_updates
  obtain ⟨_, _, _, drawn⟩ := (ppu.endVblank.render cartridge).output_updates
  obtain ⟨_, _, _, started⟩ := (ppu.endVblank.render cartridge).output.startVblank_updates
  have stillSound : ppu.endVblank.evaluation.overrun = false := by
    rw [ended]
    exact sound
  unfold CheckedPpu.tick
  rw [endVblank_toChecked, render_toChecked _ _ stillSound]
  apply outcome_bind
  · unfold tick
    rw [started, drawn]
  · unfold tick
    rw [output_toChecked _ (bounded.endVblank.render_count_le cartridge), PpuFault.ok_bind,
      startVblank_toChecked]
    generalize (ppu.endVblank.render cartridge).output.startVblank = last
    rfl

end Ppu

namespace CheckedPpu

structure Within (ppu : CheckedPpu) : Prop where
  v_lt : ppu.v.bits < 0x8000
  t_lt : ppu.t.bits < 0x8000
  fineX_lt : ppu.fineX < 8
  line_le : ppu.beam.line ≤ 261
  dot_le : ppu.beam.dot ≤ 340
  pointer_le : ppu.evaluation.pointer ≤ 32
  count_le : ppu.sprites.count ≤ 8
  corruptRow_lt : ∀ row ∈ ppu.corruptRow, row < 32

end CheckedPpu

theorem Ppu.Bounded.within {ppu : Ppu} (bounded : ppu.Bounded) : ppu.toChecked.Within where
  v_lt := ppu.v.word_lt
  t_lt := ppu.t.word_lt
  fineX_lt := by
    rw [UInt8.lt_iff_toNat_lt, toChecked_fineX, toNat_fineX]
    exact ppu.fineX.isLt
  line_le := bounded.inside.line_le
  dot_le := bounded.inside.dot_le
  pointer_le := bounded.pointer_le
  count_le := bounded.count_le
  corruptRow_lt := by
    intro row pending
    obtain ⟨marked, _, rfl⟩ := Option.mem_map.mp pending
    exact marked.isLt

namespace PpuOperation

variable {state : Ppu × Cartridge}

theorem bounded_apply (bounded : state.1.Bounded) (operation : PpuOperation)
    (sound : (apply state operation).1.evaluation.overrun = false) :
    (apply state operation).1.Bounded := by
  by_cases ticks : operation = .tick
  · subst ticks
    exact bounded.tick state.2 sound
  · have same := apply_sameDrawing state ticks
    constructor
    · rw [same.beam]
      exact bounded.inside
    · rw [same.evaluation]
      exact bounded.pointer_le
    · rw [same.sprites]
      exact bounded.count_le

theorem overrun_apply (past : state.1.evaluation.overrun = true) (operation : PpuOperation) :
    (apply state operation).1.evaluation.overrun = true := by
  by_cases ticks : operation = .tick
  · subst ticks
    refine (state.1.tick_overrun state.2).trans ?_
    rw [past, Bool.true_or]
  · rw [apply_evaluation state ticks]
    exact past

/-- From any bounded state, in the middle of a line as well, the checks of an operation succeed,
that of the byte that evaluation stores apart. -/
theorem applyChecked_toChecked (bounded : state.1.Bounded)
    (sound : state.1.evaluation.overrun = false) (operation : PpuOperation) :
    applyChecked (state.1.toChecked, state.2) operation =
      CheckedPpu.beside (apply state operation).2 (apply state operation).1.outcome := by
  by_cases ticks : operation = .tick
  · subst ticks
    exact congrArg (CheckedPpu.beside state.2) (Ppu.tick_toChecked state.2 bounded sound)
  · have stillSound : (apply state operation).1.evaluation.overrun = false := by
      rw [apply_evaluation state ticks]
      exact sound
    rw [Ppu.outcome_of_sound _ stillSound]
    cases operation with
    | tick => exact absurd rfl ticks
    | read address =>
        rw [applyChecked, Ppu.read_toChecked]
        rfl
    | write address data => exact state.1.write_toChecked state.2 address data
    | takeNmi => rfl
    | reset => rfl
    | board address data => rfl

/-- Over a run the failed check is the first byte past secondary memory, and until then the state
stays bounded. -/
theorem runChecked_toChecked (bounded : state.1.Bounded)
    (sound : state.1.evaluation.overrun = false) (history : List PpuOperation) :
    runChecked (state.1.toChecked, state.2) history =
        CheckedPpu.beside (run state history).2 (run state history).1.outcome ∧
      ((run state history).1.evaluation.overrun = false → (run state history).1.Bounded) := by
  induction history using List.reverseRecOn with
  | nil =>
      refine ⟨?_, fun _ => bounded⟩
      rw [show run state [] = state from rfl, Ppu.outcome_of_sound _ sound]
      rfl
  | append_singleton history operation earlier =>
      obtain ⟨checked, kept⟩ := earlier
      have last : runChecked (state.1.toChecked, state.2) (history ++ [operation]) =
          (runChecked (state.1.toChecked, state.2) history >>=
            fun reached => applyChecked reached operation) := by
        simp only [runChecked, List.foldlM_append, List.foldlM_cons, List.foldlM_nil, bind_pure]
      rw [last, checked, run_concat]
      cases past : (run state history).1.evaluation.overrun with
      | true =>
          -- The checked run has stopped before, and the flag never falls again.
          have still := overrun_apply past operation
          refine ⟨?_, fun sound => absurd (still.symm.trans sound) nofun⟩
          unfold Ppu.outcome
          rw [if_pos past, if_pos still]
          rfl
      | false =>
          rw [Ppu.outcome_of_sound _ past]
          refine ⟨?_, bounded_apply (kept past) operation⟩
          exact applyChecked_toChecked (kept past) past operation

/-- Whatever operations follow power-on, on whatever dots: until evaluation stores a byte past
secondary memory no check fails, neither of an index nor of a value for a bit field, the unit in
plain numbers is the bounded one, and every number is in its range. A look at a register passes its
checks as well. From that byte on, it alone is the check that failed. -/
theorem representation_kept (cartridge : Cartridge) (history : List PpuOperation) :
    let state := run ({}, cartridge) history
    if state.1.evaluation.overrun then
      runChecked ({}, cartridge) history = .error .secondaryStore
    else
      runChecked ({}, cartridge) history = .ok (state.1.toChecked, state.2) ∧
      state.1.toChecked.Within ∧
      ∀ address, state.1.toChecked.peek state.2 address = .ok (state.1.peek state.2 address) := by
  intro state
  have powerOn : (({}, cartridge) : Ppu × Cartridge).1.Bounded :=
    ⟨⟨Nat.zero_le 261, Nat.zero_le 340⟩, Nat.zero_le 32, Nat.zero_le 8⟩
  obtain ⟨checked, kept⟩ := runChecked_toChecked powerOn rfl history
  rw [Ppu.toChecked_powerOn] at checked
  split
  · rename_i past
    rw [checked, Ppu.outcome, if_pos past]
    rfl
  · rename_i sound
    have sound := Bool.eq_false_iff.mpr sound
    rw [checked, Ppu.outcome_of_sound _ sound]
    exact ⟨rfl, (kept sound).within, state.1.peek_toChecked state.2⟩

-- Rendering is switched off for the last two dots of a clear: six dots later a byte falls past the
-- end of secondary memory.
set_option maxRecDepth 10000 in
example :
    let cut := [.write 0x2001 0x18] ++ List.replicate 63 .tick ++ [.write 0x2001 0] ++
      List.replicate 2 .tick ++ [.write 0x2001 0x18] ++ List.replicate 5 .tick
    (runChecked ({}, Cartridge.empty) cut).isOk = true ∧
      (runChecked ({}, Cartridge.empty) (cut ++ [.tick])).isOk = false := by decide +kernel

end PpuOperation

end Famicom
