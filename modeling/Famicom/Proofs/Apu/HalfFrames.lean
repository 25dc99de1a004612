import Famicom.Apu.Basic
import Mathlib.Logic.Function.Iterate
import Mathlib.Tactic.SplitIfs

namespace Famicom

inductive Channel
  | pulse1
  | pulse2
  | triangle
  | noise
  deriving DecidableEq

def Channel.position : Channel → Nat
  | pulse1 => 0
  | pulse2 => 1
  | triangle => 2
  | noise => 3

namespace LengthCounter

@[simp] theorem clock_halted (counter : LengthCounter) : counter.clock.halted = counter.halted := by
  unfold clock
  split <;> rfl

@[simp] theorem clock_enabled (counter : LengthCounter) :
    counter.clock.enabled = counter.enabled := by
  unfold clock
  split <;> rfl

theorem clock_remaining (counter : LengthCounter) :
    counter.clock.remaining.toNat =
      if counter.halted then counter.remaining.toNat else counter.remaining.toNat - 1 := by
  unfold clock
  cases counter.halted with
  | true => simp
  | false =>
      by_cases empty : counter.remaining = 0
      · simp [empty]
      · have positive : 0 < counter.remaining.toNat :=
          UInt8.lt_iff_toNat_lt.mp (UInt8.pos_iff_ne_zero.mpr empty)
        have least : (1 : UInt8) ≤ counter.remaining := UInt8.le_iff_toNat_le.mpr positive
        simp [empty, UInt8.toNat_sub_of_le _ _ least]

theorem clocks_remaining (counter : LengthCounter) (count : Nat) :
    (clock^[count] counter).remaining.toNat =
      if counter.halted then counter.remaining.toNat else counter.remaining.toNat - count := by
  induction count generalizing counter with
  | zero => simp
  | succ count continues =>
      rw [Function.iterate_succ_apply, continues, clock_halted, clock_remaining]
      split_ifs <;> omega

theorem active_iff (counter : LengthCounter) :
    counter.active = true ↔ 0 < counter.remaining.toNat := by
  unfold active
  rw [bne_iff_ne, ← UInt8.pos_iff_ne_zero, UInt8.lt_iff_toNat_lt]
  rfl

end LengthCounter

/-! ## The sequencer -/

namespace Sequencer

def NearsEnd (sequencer : Sequencer) : Prop :=
  sequencer.fiveStep = false ∧ sequencer.cycles + 1 ∈ [29828, 29829, 29830]

instance : DecidablePred NearsEnd := fun _ => instDecidableAnd

theorem tick_eq (sequencer : Sequencer) :
    sequencer.tick =
      ({ sequencer with
          cycles := if sequencer.cycles = sequencer.lastStep then 0 else sequencer.cycles + 1
          irqLevel := sequencer.irqLevel || (sequencer.irqEnabled && decide sequencer.NearsEnd) },
        decide (sequencer.cycles + 1 ∈ [middleStep, sequencer.lastStep])) := by
  obtain ⟨cycles, fiveStep, irqEnabled, irqLevel⟩ := sequencer
  cases fiveStep with
  | true => simp [tick, NearsEnd, halfFrame, lastStep, Bool.beq_eq_decide_eq]
  | false =>
      have near : (decide (29829 - 1 ≤ cycles + 1) && decide (cycles + 1 ≤ 29829 + 1)) =
          decide (false = false ∧ cycles + 1 ∈ [29828, 29829, 29830]) := by
        rw [Bool.eq_iff_iff]
        simp
        omega
      simp [tick, NearsEnd, halfFrame, lastStep, Bool.beq_eq_decide_eq, Bool.and_assoc] at near ⊢
      rw [near]

def period (fiveStep : Bool) : Nat := if fiveStep then 37282 else 29830

/-- So many cycles after the write a half frame ends: in the middle of a sequence or one cycle before
the next one. -/
def EndsHalf (fiveStep : Bool) (count : Nat) : Prop :=
  count % period fiveStep ∈ [14913, period fiveStep - 1]

instance (fiveStep : Bool) : DecidablePred (EndsHalf fiveStep) :=
  fun _ => inferInstanceAs (Decidable (_ ∈ _))

def afterLoad (sequencer : Sequencer) (data : UInt8) (count : Nat) : Sequencer where
  cycles := count % period (data.bit 7)
  fiveStep := data.bit 7
  irqEnabled := !data.bit 6
  irqLevel := !data.bit 6 && (sequencer.irqLevel || (!data.bit 7 && decide (29828 ≤ count)))

theorem load_eq (sequencer : Sequencer) (data : UInt8) :
    sequencer.load data = (sequencer.afterLoad data 0, data.bit 7) := by
  simp [load, afterLoad, Bool.and_comm]

section AfterLoad

variable (sequencer : Sequencer) (data : UInt8) (count : Nat)

theorem nextPosition_afterLoad :
    (if (sequencer.afterLoad data count).cycles = (sequencer.afterLoad data count).lastStep then 0
      else (sequencer.afterLoad data count).cycles + 1) = (count + 1) % period (data.bit 7) := by
  cases fiveStep : data.bit 7 with
  | true =>
      simp only [afterLoad, lastStep, period, fiveStep, if_true]
      split_ifs <;> omega
  | false =>
      simp only [afterLoad, lastStep, period, fiveStep, Bool.false_eq_true, if_false]
      split_ifs <;> omega

theorem endsHalf_afterLoad :
    (sequencer.afterLoad data count).cycles + 1 ∈
        [middleStep, (sequencer.afterLoad data count).lastStep] ↔
      EndsHalf (data.bit 7) (count + 1) := by
  simp only [EndsHalf, List.mem_cons, List.not_mem_nil, or_false]
  cases fiveStep : data.bit 7 with
  | true =>
      simp only [afterLoad, lastStep, period, middleStep, fiveStep, if_true]
      omega
  | false =>
      simp only [afterLoad, lastStep, period, middleStep, fiveStep, Bool.false_eq_true, if_false]
      omega

theorem nearsEnd_afterLoad :
    (data.bit 7 = false ∧ 29828 ≤ count) ∨ (sequencer.afterLoad data count).NearsEnd ↔
      data.bit 7 = false ∧ 29828 ≤ count + 1 := by
  simp only [NearsEnd, List.mem_cons, List.not_mem_nil, or_false]
  cases fiveStep : data.bit 7 with
  | true => simp [afterLoad, fiveStep]
  | false =>
      simp only [afterLoad, period, fiveStep, true_and, Bool.false_eq_true, if_false]
      omega

theorem irqLevel_afterLoad :
    ((sequencer.afterLoad data count).irqLevel || ((sequencer.afterLoad data count).irqEnabled &&
        decide (sequencer.afterLoad data count).NearsEnd)) =
      (sequencer.afterLoad data (count + 1)).irqLevel := by
  rw [Bool.eq_iff_iff]
  have near := nearsEnd_afterLoad sequencer data count
  have before : (sequencer.afterLoad data count).irqLevel = true ↔ data.bit 6 = false ∧
      (sequencer.irqLevel = true ∨ (data.bit 7 = false ∧ 29828 ≤ count)) := by
    simp [afterLoad]
  have after : (sequencer.afterLoad data (count + 1)).irqLevel = true ↔ data.bit 6 = false ∧
      (sequencer.irqLevel = true ∨ (data.bit 7 = false ∧ 29828 ≤ count + 1)) := by
    simp [afterLoad]
  have enabled : (sequencer.afterLoad data count).irqEnabled = true ↔ data.bit 6 = false := by
    simp [afterLoad]
  rw [Bool.or_eq_true, Bool.and_eq_true, decide_eq_true_eq, before, after, enabled, ← near,
    ← and_or_left, or_assoc]

theorem tick_afterLoad :
    (sequencer.afterLoad data count).tick =
      (sequencer.afterLoad data (count + 1), decide (EndsHalf (data.bit 7) (count + 1))) := by
  rw [tick_eq, nextPosition_afterLoad, irqLevel_afterLoad]
  simp only [endsHalf_afterLoad]
  rfl

end AfterLoad

end Sequencer

/-! ## The channels -/

namespace Apu

def counter (apu : Apu) : Channel → LengthCounter
  | .pulse1 => apu.pulse1
  | .pulse2 => apu.pulse2
  | .triangle => apu.triangle
  | .noise => apu.noise

theorem status_bit (apu : Apu) (channel : Channel) :
    apu.status.bit channel.position = (apu.counter channel).active := by
  unfold status
  generalize apu.irq = irq
  cases channel <;> dsimp only [counter, Channel.position] <;>
    generalize apu.noise.active = noise <;> generalize apu.triangle.active = triangle <;>
    generalize apu.pulse2.active = pulse2 <;> generalize apu.pulse1.active = pulse1 <;>
    revert irq noise triangle pulse2 pulse1 <;> decide

theorem clockLengths_counter (apu : Apu) (halfFrame : Bool) (channel : Channel) :
    (apu.clockLengths halfFrame).counter channel =
      LengthCounter.clock^[halfFrame.toNat] (apu.counter channel) := by
  cases halfFrame with
  | true => cases channel <;> rfl
  | false => rfl

theorem clockLengths_sequencer (apu : Apu) (halfFrame : Bool) :
    (apu.clockLengths halfFrame).sequencer = apu.sequencer := by
  cases halfFrame <;> rfl

theorem tick_sequencer (apu : Apu) : apu.tick.sequencer = apu.sequencer.tick.1 :=
  clockLengths_sequencer _ _

theorem tick_counter (apu : Apu) (channel : Channel) :
    apu.tick.counter channel =
      LengthCounter.clock^[apu.sequencer.tick.2.toNat] (apu.counter channel) := by
  rw [tick, clockLengths_counter]
  cases channel <;> rfl

theorem write_sequencer (apu : Apu) (data : UInt8) :
    (apu.write 0x4017 data).sequencer = (apu.sequencer.load data).1 :=
  clockLengths_sequencer _ _

theorem write_counter (apu : Apu) (data : UInt8) (channel : Channel) :
    (apu.write 0x4017 data).counter channel =
      LengthCounter.clock^[(apu.sequencer.load data).2.toNat] (apu.counter channel) := by
  change (apu.writeSequencer data).counter channel = _
  rw [writeSequencer, clockLengths_counter]
  cases channel <;> rfl

def halfFrames (apu : Apu) (count : Nat) : Nat :=
  (List.range count).countP fun i => (tick^[i] apu).sequencer.tick.2

theorem halfFrames_succ (apu : Apu) (count : Nat) :
    apu.halfFrames (count + 1) =
      apu.halfFrames count + (tick^[count] apu).sequencer.tick.2.toNat := by
  rw [halfFrames, List.range_succ, List.countP_append]
  cases marks : (tick^[count] apu).sequencer.tick.2 <;> simp [halfFrames, marks]

theorem ticks_counter (apu : Apu) (count : Nat) (channel : Channel) :
    (tick^[count] apu).counter channel =
      LengthCounter.clock^[apu.halfFrames count] (apu.counter channel) := by
  induction count with
  | zero => rfl
  | succ count earlier =>
      rw [Function.iterate_succ_apply', tick_counter, earlier, halfFrames_succ, Nat.add_comm,
        Function.iterate_add_apply]

theorem ticks_sequencer (apu : Apu) (data : UInt8) (count : Nat) :
    (tick^[count] (apu.write 0x4017 data)).sequencer = apu.sequencer.afterLoad data count := by
  induction count with
  | zero => rw [Function.iterate_zero_apply, write_sequencer, Sequencer.load_eq]
  | succ count earlier =>
      rw [Function.iterate_succ_apply', tick_sequencer, earlier, Sequencer.tick_afterLoad]

theorem halfFrames_written (apu : Apu) (data : UInt8) (count : Nat) :
    (apu.write 0x4017 data).halfFrames count =
      (List.range' 1 count).countP fun i => Sequencer.EndsHalf (data.bit 7) i := by
  unfold halfFrames
  simp only [ticks_sequencer, Sequencer.tick_afterLoad]
  rw [List.range'_eq_map_range, List.countP_map]
  exact List.countP_congr fun i _ => by rw [Function.comp_apply, Nat.add_comm]

/-- What a write to $4017 and any number of cycles without further accesses leave. The length
counters receive a half frame at once if the write selects the five-step sequence, and then one at
every cycle whose number leaves one of two remainders; a counter that is not halted goes down by as
many. The interrupt line stays high or rises near the end of the first four-step sequence, unless
the write inhibits it. -/
theorem written_sequence (apu : Apu) (data : UInt8) (count : Nat) :
    let written := apu.write 0x4017 data
    let after := tick^[count] written
    let period := if data.bit 7 then 37282 else 29830
    let clocks := (data.bit 7).toNat +
      (List.range' 1 count).countP fun i => i % period ∈ [14913, period - 1]
    (apu.sequencer.load data).2.toNat + written.halfFrames count = clocks ∧
    (∀ channel,
      after.counter channel = LengthCounter.clock^[clocks] (apu.counter channel) ∧
      (after.counter channel).remaining.toNat =
        (if (apu.counter channel).halted then (apu.counter channel).remaining.toNat
          else (apu.counter channel).remaining.toNat - clocks) ∧
      (after.status.bit channel.position = true ↔
        0 < (after.counter channel).remaining.toNat)) ∧
    (after.irq = true ↔
      data.bit 6 = false ∧ (apu.irq = true ∨ (data.bit 7 = false ∧ 29828 ≤ count))) := by
  intro written after period clocks
  have clocked : (apu.sequencer.load data).2.toNat + written.halfFrames count = clocks := by
    rw [halfFrames_written, Sequencer.load_eq]
    rfl
  have counter (channel : Channel) :
      after.counter channel = LengthCounter.clock^[clocks] (apu.counter channel) := by
    rw [ticks_counter, write_counter, ← Function.iterate_add_apply, Nat.add_comm, clocked]
  refine ⟨clocked, fun channel => ⟨counter channel, ?_, ?_⟩, ?_⟩
  · rw [counter, LengthCounter.clocks_remaining]
  · rw [status_bit, LengthCounter.active_iff]
  · have sequencer : after.sequencer = apu.sequencer.afterLoad data count :=
      apu.ticks_sequencer data count
    rw [irq, sequencer]
    simp [Sequencer.afterLoad, irq]

end Apu

end Famicom
