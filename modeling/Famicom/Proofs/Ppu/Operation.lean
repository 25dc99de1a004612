import Famicom.Ppu.Access
import Famicom.Proofs.Ppu.Dot

theorem List.concat_eq_append_cons {Item : Type} {history before after : List Item}
    {last pivot : Item} (splits : history ++ [last] = before ++ pivot :: after) :
    (history = before ∧ last = pivot ∧ after = []) ∨
      ∃ later, after = later ++ [last] ∧ history = before ++ pivot :: later := by
  rcases eq_nil_or_concat after with rfl | ⟨later, final, rfl⟩
  · obtain ⟨same, ends⟩ := append_inj' splits rfl
    exact .inl ⟨same, singleton_inj.mp ends, rfl⟩
  · rw [concat_eq_append, ← cons_append, ← append_assoc] at splits
    obtain ⟨same, ends⟩ := append_inj' splits rfl
    obtain rfl := singleton_inj.mp ends
    exact .inr ⟨later, concat_eq_append, same⟩

namespace Famicom

namespace Ppu

variable (ppu : Ppu) (cartridge : Cartridge) (data : UInt8)

theorem writeMask_updates : ∃ objects corruptRow,
    ppu.writeMask data = { ppu with mask := { byte := data }, objects, corruptRow } := by
  unfold writeMask
  dsimp only
  split_ifs
  · exact ⟨_, _, rfl⟩
  · split <;> exact ⟨_, _, rfl⟩
  · exact ⟨_, _, rfl⟩

theorem writeObject_updates : ∃ objects objectAddress,
    ppu.writeObject data = { ppu with objects, objectAddress } := by
  unfold writeObject
  split <;> exact ⟨_, _, rfl⟩

theorem writeScroll_updates : ∃ t fineX secondWrite,
    ppu.writeScroll data = { ppu with t, fineX, secondWrite } := by
  unfold writeScroll
  dsimp only
  split <;> exact ⟨_, _, _, rfl⟩

theorem writeAddress_updates : ∃ v t secondWrite,
    ppu.writeAddress data = { ppu with v, t, secondWrite } := by
  unfold writeAddress
  dsimp only
  split <;> exact ⟨_, _, _, rfl⟩

theorem advanceAddress_updates : ∃ v, ppu.advanceAddress = { ppu with v } := by
  unfold advanceAddress
  split <;> exact ⟨_, rfl⟩

theorem writeVram_updates : ∃ nametables palettes,
    (ppu.writeVram cartridge data).1 = { ppu with nametables, palettes } := by
  unfold writeVram
  dsimp only
  split_ifs <;> exact ⟨_, _, rfl⟩

theorem writeData_updates : ∃ nametables palettes v,
    (ppu.writeVram cartridge data).1.advanceAddress = { ppu with nametables, palettes, v } := by
  obtain ⟨nametables, palettes, stored⟩ := ppu.writeVram_updates cartridge data
  obtain ⟨_, advanced⟩ := Ppu.advanceAddress_updates { ppu with nametables, palettes }
  rw [stored]
  exact ⟨_, _, _, advanced⟩

structure SameDrawing (before after : Ppu) : Prop where
  beam : after.beam = before.beam
  evaluation : after.evaluation = before.evaluation
  sprites : after.sprites = before.sprites
  picture : after.picture = before.picture

end Ppu

inductive PpuOperation
  | tick
  | read (address : UInt16)
  | write (address : UInt16) (data : UInt8)
  | takeNmi
  | reset
  | board (address : UInt16) (data : UInt8)
  deriving DecidableEq

namespace PpuOperation

def apply (state : Ppu × Cartridge) : PpuOperation → Ppu × Cartridge
  | tick => (state.1.tick state.2, state.2)
  | read address => ((state.1.read state.2 address).2, state.2)
  | write address data => state.1.write state.2 address data
  | takeNmi => (state.1.takeNmi.2, state.2)
  | reset => (state.1.reset, state.2)
  | board address data => (state.1, state.2.cpuWrite address data)

def run (state : Ppu × Cartridge) (operations : List PpuOperation) : Ppu × Cartridge :=
  operations.foldl apply state

def ppuAfter (cartridge : Cartridge) (operations : List PpuOperation) : Ppu :=
  (run ({}, cartridge) operations).1

theorem run_append (state : Ppu × Cartridge) (before after : List PpuOperation) :
    run state (before ++ after) = run (run state before) after :=
  List.foldl_append

theorem run_concat (state : Ppu × Cartridge) (history : List PpuOperation)
    (operation : PpuOperation) :
    run state (history ++ [operation]) = apply (run state history) operation :=
  run_append state history [operation]

theorem ppuAfter_concat (cartridge : Cartridge) (history : List PpuOperation)
    (operation : PpuOperation) :
    ppuAfter cartridge (history ++ [operation]) =
      (apply (run ({}, cartridge) history) operation).1 :=
  congrArg Prod.fst (run_concat _ history operation)

theorem ppuAfter_tick (cartridge : Cartridge) (history : List PpuOperation) :
    ppuAfter cartridge (history ++ [.tick]) =
      (ppuAfter cartridge history).tick (run ({}, cartridge) history).2 := by
  unfold ppuAfter
  rw [run_append]
  rfl

theorem write_cases (ppu : Ppu) (cartridge : Cartridge) (address : UInt16) (data : UInt8) :
    (ppu.write cartridge address data).1 =
        Ppu.writeControl { ppu with ioLatch := data } data ∨
      ∃ nametables palettes objects mask objectAddress ioLatch v t fineX secondWrite corruptRow,
        (ppu.write cartridge address data).1 =
          { ppu with
            nametables, palettes, objects, mask, objectAddress, ioLatch, v, t, fineX, secondWrite
            corruptRow } := by
  unfold Ppu.write
  dsimp only
  split
  · exact .inl rfl
  · obtain ⟨_, _, masked⟩ := Ppu.writeMask_updates { ppu with ioLatch := data } data
    exact .inr ⟨_, _, _, _, _, _, _, _, _, _, _, masked⟩
  · exact .inr ⟨_, _, _, _, _, _, _, _, _, _, _, rfl⟩
  · obtain ⟨_, _, stored⟩ := Ppu.writeObject_updates { ppu with ioLatch := data } data
    exact .inr ⟨_, _, _, _, _, _, _, _, _, _, _, stored⟩
  · obtain ⟨_, _, _, scrolled⟩ := Ppu.writeScroll_updates { ppu with ioLatch := data } data
    exact .inr ⟨_, _, _, _, _, _, _, _, _, _, _, scrolled⟩
  · obtain ⟨_, _, _, addressed⟩ := Ppu.writeAddress_updates { ppu with ioLatch := data } data
    exact .inr ⟨_, _, _, _, _, _, _, _, _, _, _, addressed⟩
  · obtain ⟨_, _, _, stored⟩ := Ppu.writeData_updates { ppu with ioLatch := data } cartridge data
    exact .inr ⟨_, _, _, _, _, _, _, _, _, _, _, stored⟩
  · exact .inr ⟨_, _, _, _, _, _, _, _, _, _, _, rfl⟩

theorem read_cases (ppu : Ppu) (cartridge : Cartridge) (address : UInt16) :
    (∃ ioLatch, (ppu.read cartridge address).2 = { ppu.acknowledgeVblank with ioLatch }) ∨
      ∃ readBuffer v ioLatch,
        (ppu.read cartridge address).2 = { ppu with readBuffer, v, ioLatch } := by
  unfold Ppu.read Ppu.readRegister
  dsimp only
  split
  · exact .inl ⟨_, rfl⟩
  · exact .inr ⟨_, _, _, rfl⟩
  · obtain ⟨_, advanced⟩ := (ppu.refillBuffer cartridge).advanceAddress_updates
    simp only [Ppu.readData, advanced]
    exact .inr ⟨_, _, _, rfl⟩
  · exact .inr ⟨_, _, _, rfl⟩

theorem write_sameDrawing (ppu : Ppu) (cartridge : Cartridge) (address : UInt16)
    (data : UInt8) : ppu.SameDrawing (ppu.write cartridge address data).1 := by
  rcases write_cases ppu cartridge address data with
    written | ⟨_, _, _, _, _, _, _, _, _, _, _, written⟩
  · rw [written]
    exact ⟨rfl, rfl, rfl, rfl⟩
  · rw [written]
    exact ⟨rfl, rfl, rfl, rfl⟩

theorem read_sameDrawing (ppu : Ppu) (cartridge : Cartridge) (address : UInt16) :
    ppu.SameDrawing (ppu.read cartridge address).2 := by
  rcases read_cases ppu cartridge address with ⟨_, shown⟩ | ⟨_, _, _, shown⟩
  · rw [shown]
    exact ⟨rfl, rfl, rfl, rfl⟩
  · rw [shown]
    exact ⟨rfl, rfl, rfl, rfl⟩

theorem write_beam (ppu : Ppu) (cartridge : Cartridge) (address : UInt16) (data : UInt8) :
    (ppu.write cartridge address data).1.beam = ppu.beam :=
  (write_sameDrawing ppu cartridge address data).beam

theorem read_beam (ppu : Ppu) (cartridge : Cartridge) (address : UInt16) :
    (ppu.read cartridge address).2.beam = ppu.beam :=
  (read_sameDrawing ppu cartridge address).beam

theorem apply_sameDrawing (state : Ppu × Cartridge) {operation : PpuOperation}
    (notTick : operation ≠ .tick) : state.1.SameDrawing (apply state operation).1 := by
  cases operation with
  | tick => exact absurd rfl notTick
  | read address => exact read_sameDrawing _ _ address
  | write address data => exact write_sameDrawing _ _ address data
  | takeNmi => exact ⟨rfl, rfl, rfl, rfl⟩
  | reset => exact ⟨rfl, rfl, rfl, rfl⟩
  | board address data => exact ⟨rfl, rfl, rfl, rfl⟩

theorem apply_evaluation (state : Ppu × Cartridge) {operation : PpuOperation}
    (notTick : operation ≠ .tick) :
    (apply state operation).1.evaluation = state.1.evaluation :=
  (apply_sameDrawing state notTick).evaluation

theorem apply_beam (state : Ppu × Cartridge) {operation : PpuOperation}
    (notTick : operation ≠ .tick) : (apply state operation).1.beam = state.1.beam :=
  (apply_sameDrawing state notTick).beam

theorem ppuAfter_evaluation (cartridge : Cartridge) (history : List PpuOperation)
    {operation : PpuOperation} (notTick : operation ≠ .tick) :
    (ppuAfter cartridge (history ++ [operation])).evaluation =
      (ppuAfter cartridge history).evaluation := by
  unfold ppuAfter
  rw [run_append]
  exact apply_evaluation _ notTick

end PpuOperation

end Famicom
