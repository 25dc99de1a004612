import Famicom.Proofs.Apu.HalfFrames
import Mathlib.Data.List.Induction

namespace Famicom

inductive ApuOperation
  | write (address : UInt16) (data : UInt8)
  | tick
  | readStatus
  | reset
  deriving DecidableEq

namespace ApuOperation

def apply (apu : Apu) : ApuOperation → Apu
  | write address data => apu.write address data
  | tick => apu.tick
  | readStatus => apu.acknowledge
  | reset => apu.reset

def apuAfter (history : List ApuOperation) : Apu := history.foldl apply {}

theorem apuAfter_concat (history : List ApuOperation) (operation : ApuOperation) :
    apuAfter (history ++ [operation]) = apply (apuAfter history) operation := by
  rw [apuAfter, List.foldl_append]
  rfl

/-! ## The past -/

def enables? : ApuOperation → Option UInt8
  | write address data => if address = 0x4015 then some data else none
  | reset => some 0
  | tick | readStatus => none

def arranges? : ApuOperation → Option UInt8
  | write address data => if address = 0x4017 then some data else none
  | tick | readStatus | reset => none

def acknowledges : ApuOperation → Bool
  | readStatus | reset => true
  | write _ _ | tick => false

def last? (written? : ApuOperation → Option UInt8) (history : List ApuOperation) : Option UInt8 :=
  history.reverse.findSome? written?

theorem last?_concat (written? : ApuOperation → Option UInt8) (history : List ApuOperation)
    (operation : ApuOperation) :
    last? written? (history ++ [operation]) = (written? operation).or (last? written? history) := by
  rw [last?, List.reverse_append, List.reverse_singleton, List.singleton_append,
    List.findSome?_cons]
  cases written? operation <;> rfl

/-- Since the sequencer was last acknowledged it has passed the end of a four-step sequence. -/
def EndedSinceAcknowledged (history : List ApuOperation) : Prop :=
  ∃ before after, history = before ++ .tick :: after ∧
    (apuAfter before).sequencer.NearsEnd ∧ ∀ operation ∈ after, operation.acknowledges = false

theorem EndedSinceAcknowledged.concat {history : List ApuOperation} {operation : ApuOperation}
    (ended : EndedSinceAcknowledged history) (quiet : operation.acknowledges = false) :
    EndedSinceAcknowledged (history ++ [operation]) := by
  obtain ⟨before, after, rfl, nears, calm⟩ := ended
  refine ⟨before, after ++ [operation], by simp, nears, ?_⟩
  intro later listed
  rcases List.mem_append.mp listed with earlier | last
  · exact calm later earlier
  · rwa [List.mem_singleton.mp last]

end ApuOperation

/-! ## The length counters -/

namespace LengthCounter

def Gated (counter : LengthCounter) : Prop := counter.active = true → counter.enabled = true

theorem gated_setEnabled (counter : LengthCounter) (enabled : Bool) :
    (counter.setEnabled enabled).Gated := by
  cases enabled with
  | true => exact fun _ => rfl
  | false => exact fun active => nomatch active

structure Continues (before after : LengthCounter) : Prop where
  enabled : after.enabled = before.enabled
  gated : before.Gated → after.Gated

namespace Continues

theorem refl (counter : LengthCounter) : Continues counter counter := ⟨rfl, id⟩

theorem clock (counter : LengthCounter) : Continues counter counter.clock where
  enabled := clock_enabled counter
  gated gated active := by
    rw [clock_enabled]
    apply gated
    rw [active_iff, clock_remaining] at active
    rw [active_iff]
    split at active <;> omega

theorem load (counter : LengthCounter) (data : UInt8) : Continues counter (counter.load data) := by
  unfold LengthCounter.load
  split
  · exact ⟨rfl, fun _ _ => ‹_›⟩
  · exact refl counter

theorem halt (counter : LengthCounter) (halted : Bool) :
    Continues counter { counter with halted } := ⟨rfl, id⟩

end Continues

end LengthCounter

namespace Apu

theorem enableChannels_counter (apu : Apu) (data : UInt8) (channel : Channel) :
    (apu.enableChannels data).counter channel =
      (apu.counter channel).setEnabled (data.bit channel.position) := by
  cases channel <;> rfl

theorem writeChannel_continues (apu : Apu) (register : Nat) (data : UInt8) (channel : Channel) :
    (apu.counter channel).Continues ((apu.writeChannel register data).counter channel) := by
  unfold writeChannel
  split <;> cases channel <;> first
    | exact .refl _
    | exact .load _ _
    | exact .halt _ _

theorem clockLengths_continues (apu : Apu) (halfFrame : Bool) (channel : Channel) :
    (apu.counter channel).Continues ((apu.clockLengths halfFrame).counter channel) := by
  rw [clockLengths_counter]
  cases halfFrame with
  | true => exact .clock _
  | false => exact .refl _

@[simp] theorem counter_withSequencer (apu : Apu) (sequencer : Sequencer) (channel : Channel) :
    ({ apu with sequencer } : Apu).counter channel = apu.counter channel := by
  cases channel <;> rfl

@[simp] theorem counter_withRegisters (apu : Apu) (registers : Memory 0x14) (channel : Channel) :
    ({ apu with registers } : Apu).counter channel = apu.counter channel := by
  cases channel <;> rfl

theorem tick_continues (apu : Apu) (channel : Channel) :
    (apu.counter channel).Continues (apu.tick.counter channel) := by
  rw [← counter_withSequencer apu apu.sequencer.tick.1]
  exact clockLengths_continues _ _ _

theorem write_continues (apu : Apu) {address : UInt16} (data : UInt8) (channel : Channel)
    (elsewhere : address ≠ 0x4015) :
    (apu.counter channel).Continues ((apu.write address data).counter channel) := by
  unfold write
  split_ifs with inChannel
  · rw [← counter_withRegisters]
    exact writeChannel_continues _ _ _ _
  · rw [← counter_withSequencer apu (apu.sequencer.load data).1]
    exact clockLengths_continues _ _ _
  · exact .refl _

theorem writeChannel_sequencer (apu : Apu) (register : Nat) (data : UInt8) :
    (apu.writeChannel register data).sequencer = apu.sequencer := by
  unfold writeChannel
  split <;> rfl

theorem write_sequencer_of_ne (apu : Apu) {address : UInt16} (data : UInt8)
    (elsewhere : address ≠ 0x4017) : (apu.write address data).sequencer = apu.sequencer := by
  simp only [write, elsewhere, if_false]
  split
  · rw [writeChannel_sequencer]
  · split <;> rfl

end Apu

theorem Sequencer.tick_position_le {sequencer : Sequencer}
    (within : sequencer.cycles ≤ sequencer.lastStep) :
    sequencer.tick.1.cycles ≤ sequencer.tick.1.lastStep := by
  rw [tick_eq]
  change (if sequencer.cycles = sequencer.lastStep then 0 else sequencer.cycles + 1) ≤
    sequencer.lastStep
  split_ifs <;> omega

/-! ## One operation -/

namespace ApuOperation

theorem apply_counter (apu : Apu) (operation : ApuOperation) (channel : Channel) :
    match operation.enables? with
    | some data => (apply apu operation).counter channel =
        (apu.counter channel).setEnabled (data.bit channel.position)
    | none => (apu.counter channel).Continues ((apply apu operation).counter channel) := by
  cases operation with
  | write address data =>
      by_cases enable : address = 0x4015
      · simp only [enables?, enable, if_true]
        exact apu.enableChannels_counter data channel
      · simp only [enables?, enable, if_false]
        exact apu.write_continues data channel enable
  | tick => exact apu.tick_continues channel
  | readStatus => cases channel <;> exact .refl _
  | reset => cases channel <;> rfl

theorem apply_sequencer (apu : Apu) (operation : ApuOperation) :
    (apply apu operation).sequencer =
      match operation with
      | write address data =>
          if address = 0x4017 then (apu.sequencer.load data).1 else apu.sequencer
      | tick => apu.sequencer.tick.1
      | readStatus | reset => apu.sequencer.acknowledge := by
  cases operation with
  | write address data =>
      dsimp only
      split_ifs with arrange
      · subst arrange
        exact apu.write_sequencer data
      · exact apu.write_sequencer_of_ne data arrange
  | tick => exact apu.tick_sequencer
  | readStatus => rfl
  | reset => rfl

/-! ## Every history -/

theorem enabled_apuAfter (history : List ApuOperation) (channel : Channel) :
    ((apuAfter history).counter channel).Gated ∧
      ((apuAfter history).counter channel).enabled =
        ((last? enables? history).getD 0).bit channel.position := by
  induction history using List.reverseRecOn with
  | nil => cases channel <;> exact ⟨nofun, rfl⟩
  | append_singleton history operation earlier =>
      obtain ⟨gated, enabled⟩ := earlier
      have counter := apply_counter (apuAfter history) operation channel
      rw [apuAfter_concat, last?_concat]
      cases enables : operation.enables? with
      | some data =>
          rw [enables] at counter
          rw [counter]
          exact ⟨LengthCounter.gated_setEnabled _ _, rfl⟩
      | none =>
          rw [enables] at counter
          exact ⟨counter.gated gated, by rw [counter.enabled, enabled, Option.none_or]⟩

theorem arranged_apuAfter (history : List ApuOperation) :
    let arrangement := (last? arranges? history).getD 0
    (apuAfter history).sequencer.fiveStep = arrangement.bit 7 ∧
      (apuAfter history).sequencer.irqEnabled = !arrangement.bit 6 := by
  induction history using List.reverseRecOn with
  | nil => exact ⟨rfl, rfl⟩
  | append_singleton history operation earlier =>
      rw [apuAfter_concat, last?_concat, apply_sequencer]
      cases operation with
      | write address data =>
          by_cases arrange : address = 0x4017
          · simp [arranges?, arrange, Sequencer.load]
          · simpa [arranges?, arrange] using earlier
      | tick => simpa [arranges?, Sequencer.tick_eq] using earlier
      | readStatus => exact earlier
      | reset => exact earlier

theorem position_apuAfter_le (history : List ApuOperation) :
    (apuAfter history).sequencer.cycles ≤ (apuAfter history).sequencer.lastStep := by
  induction history using List.reverseRecOn with
  | nil => exact Nat.zero_le _
  | append_singleton history operation earlier =>
      rw [apuAfter_concat, apply_sequencer]
      cases operation with
      | write address data =>
          dsimp only
          split
          · exact Nat.zero_le _
          · exact earlier
      | tick => exact Sequencer.tick_position_le earlier
      | readStatus => exact earlier
      | reset => exact earlier

theorem irqLevel_apuAfter (history : List ApuOperation)
    (high : (apuAfter history).sequencer.irqLevel = true) :
    (apuAfter history).sequencer.irqEnabled = true ∧ EndedSinceAcknowledged history := by
  induction history using List.reverseRecOn with
  | nil => cases high
  | append_singleton history operation earlier =>
      rw [apuAfter_concat, apply_sequencer] at high ⊢
      cases operation with
      | write address data =>
          dsimp only at high ⊢
          split at high
          · rename_i arrange
            simp only [Sequencer.load, Bool.and_eq_true, arrange, if_true] at high ⊢
            exact ⟨high.2, (earlier high.1).2.concat rfl⟩
          · rename_i elsewhere
            obtain ⟨enabled, ended⟩ := earlier high
            rw [if_neg elsewhere]
            exact ⟨enabled, ended.concat rfl⟩
      | tick =>
          simp only [Sequencer.tick_eq, Bool.or_eq_true, Bool.and_eq_true,
            decide_eq_true_eq] at high ⊢
          rcases high with before | ⟨enabled, nears⟩
          · obtain ⟨enabled, ended⟩ := earlier before
            exact ⟨enabled, ended.concat rfl⟩
          · exact ⟨enabled, history, [], rfl, nears, fun _ listed => absurd listed List.not_mem_nil⟩
      | readStatus => cases high
      | reset => cases high

/-- What holds after any history from power-on. A channel is reported active only if the last value
given to the enable bits, zero at power-on and by a reset, has its bit set. The interrupt line is
high only if the last write to $4017 did not inhibit it and the end of a four-step sequence was
passed since the last acknowledgement. The position stays within the sequence, so the count of
cycles never outgrows its 32 bits. -/
theorem apuAfter_ruled (history : List ApuOperation) :
    let apu := apuAfter history
    (∀ channel : Channel, apu.status.bit channel.position = true →
      ((last? enables? history).getD 0).bit channel.position = true) ∧
    (apu.irq = true →
      (∀ data, last? arranges? history = some data → data.bit 6 = false) ∧
      ∃ before after, history = before ++ .tick :: after ∧
        (apuAfter before).sequencer.fiveStep = false ∧
        (apuAfter before).sequencer.cycles + 1 ∈ [29828, 29829, 29830] ∧
        ∀ operation ∈ after, operation ≠ .readStatus ∧ operation ≠ .reset) ∧
    (apu.sequencer.fiveStep = ((last? arranges? history).getD 0).bit 7 ∧
      apu.sequencer.cycles ≤ (if apu.sequencer.fiveStep then 37281 else 29829) ∧
      apu.sequencer.cycles + 1 < UInt32.size) := by
  intro apu
  obtain ⟨fiveStep, irqEnabled⟩ := arranged_apuAfter history
  have position := position_apuAfter_le history
  refine ⟨fun channel active => ?_, fun high => ?_, fiveStep, position, ?_⟩
  · obtain ⟨gated, enabled⟩ := enabled_apuAfter history channel
    rw [Apu.status_bit] at active
    rw [← enabled]
    exact gated active
  · obtain ⟨uninhibited, before, after, split, nears, calm⟩ := irqLevel_apuAfter history high
    refine ⟨fun data last => ?_, before, after, split, nears.1, nears.2, fun operation listed => ?_⟩
    · simpa [irqEnabled, last] using uninhibited
    · have quiet := calm operation listed
      constructor <;> rintro rfl <;> cases quiet
  · have short : apu.sequencer.lastStep ≤ 37281 := by
      unfold Sequencer.lastStep
      split <;> decide
    exact Nat.lt_of_le_of_lt (Nat.succ_le_succ (Nat.le_trans position short)) (by decide)

end ApuOperation

end Famicom
