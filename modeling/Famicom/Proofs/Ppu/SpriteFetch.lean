import Famicom.Proofs.Ppu.Evaluation
import Famicom.Proofs.Ppu.FetchedSlots

namespace Famicom.Scene

variable (scene : Scene) (cartridge : Cartridge)

def objectStart (object : Fin 64) : UInt8 := UInt8.ofNat (object.val * 4)

theorem look_objectStart (object : Fin 64) (offset : Fin 4) :
    Evaluation.look scene.objects (objectStart object + UInt8.ofNat offset.val) =
      scene.objectByte object offset := by
  unfold Evaluation.look objectByte objectStart
  congr 1
  apply Fin.ext
  rw [← UInt8.ofNat_add]
  exact Nat.mod_eq_of_lt (by omega)

theorem candidates_zero : Evaluation.candidates 0 64 = (List.finRange 64).map objectStart := by
  decide

theorem onLine_eq_covers (object : Fin 64) (line : Nat) :
    Evaluation.onLine (Evaluation.look scene.objects (objectStart object)) line
      scene.control.spriteHeight = scene.covers object (line + 1) := by
  have top := scene.look_objectStart object 0
  rw [show UInt8.ofNat (0 : Fin 4).val = 0 from rfl, UInt8.add_zero] at top
  rw [top]
  unfold Evaluation.onLine covers
  rw [← Bool.decide_and, decide_eq_decide]
  show (scene.entry object).top.toNat ≤ line ∧ line < (scene.entry object).top.toNat + _ ↔ _
  omega

theorem found_candidates (line : Nat) :
    (Evaluation.found scene.objects line scene.control.spriteHeight
      (Evaluation.candidates 0 64)).take 8 = (scene.objectsOn (line + 1)).map objectStart := by
  unfold Evaluation.found objectsOn
  rw [candidates_zero, List.filter_map, ← List.map_take]
  congr 2
  apply List.filter_congr
  intro object _
  exact scene.onLine_eq_covers object line

structure Evaluated (line : Nat) (evaluation : Evaluation) : Prop where
  pointer : evaluation.pointer = 4 * (scene.objectsOn line).length
  zeroFound : evaluation.zeroFound = scene.covers 0 line
  candidate : ∀ index (inside : index < (scene.objectsOn line).length) (room : index < 8),
    SpriteLine.candidate evaluation ⟨index, room⟩ = scene.entry (scene.objectsOn line)[index]

theorem exists_evaluated (evaluation : Evaluation) (line : Nat) : ∃ after next,
    Evaluation.afterDots scene.objects line scene.control.spriteHeight (evaluation.restart, 0) 192 =
      (after, next) ∧ scene.Evaluated (line + 1) after ∧ after.overrun = evaluation.overrun := by
  obtain ⟨after, next, ran, selected⟩ :=
    Evaluation.restart_selected scene.objects line scene.control.spriteHeight evaluation 0
  have found := selected.collected
  rw [show (0xff - (0 : UInt8).toNat) / 4 + 1 = 64 from rfl, found_candidates] at found
  refine ⟨after, next, ran, ⟨?_, ?_, ?_⟩, selected.overrun⟩
  · rw [found.pointer, List.length_map]
  · rw [selected.zeroFound]
    exact scene.onLine_eq_covers 0 line
  · intro index inside room
    have listed : index < ((scene.objectsOn (line + 1)).map objectStart).length := by
      rw [List.length_map]
      exact inside
    have bytes (offset : Fin 4) := found.bytes index listed room offset
    simp only [List.getElem_map, look_objectStart] at bytes
    unfold SpriteLine.candidate entry
    simp only [bytes]

structure Arriving (line fetched : Nat) (sprites : SpriteLine) : Prop where
  count : 0 < fetched → sprites.count = (scene.objectsOn line).length
  zeroOnLine : 0 < fetched → sprites.zeroOnLine = scene.covers 0 line
  slots : ∀ index (inside : index < (scene.objectsOn line).length) (room : index < 8),
    index < fetched →
      sprites.slots[index] = scene.objectSlot cartridge (scene.objectsOn line)[index] line

theorem arriving_zero (line : Nat) (sprites : SpriteLine) :
    scene.Arriving cartridge line 0 sprites where
  count := by omega
  zeroOnLine := by omega
  slots := by omega

variable {scene cartridge} {line : Nat} {sprites : SpriteLine} {evaluation : Evaluation}

theorem Evaluated.arriving_iff (evaluated : scene.Evaluated (line + 1) evaluation) {fetched : Nat} :
    scene.Arriving cartridge (line + 1) fetched sprites ↔
      SpriteLine.Filled cartridge evaluation line scene.control.spriteHeight
        scene.control.spriteTable fetched sprites := by
  have occupied : evaluation.pointer / 4 = (scene.objectsOn (line + 1)).length := by
    rw [evaluated.pointer]
    omega
  have slot (index : Nat) (inside : index < (scene.objectsOn (line + 1)).length)
      (room : index < 8) : SpriteLine.entrySlot cartridge
        (SpriteLine.candidate evaluation ⟨index, room⟩) line scene.control.spriteHeight
        scene.control.spriteTable =
      scene.objectSlot cartridge (scene.objectsOn (line + 1))[index] (line + 1) := by
    rw [evaluated.candidate index inside room]
    rfl
  constructor
  · intro arriving
    refine ⟨fun some => ?_, fun some => ?_, fun index room fetched inside => ?_⟩
    · rw [arriving.count some, occupied]
    · rw [arriving.zeroOnLine some, evaluated.zeroFound]
    · rw [occupied] at inside
      rw [arriving.slots index inside room fetched, slot index inside room]
  · intro filled
    refine ⟨fun some => ?_, fun some => ?_, fun index inside room fetched => ?_⟩
    · rw [filled.count some, occupied]
    · rw [filled.zeroOnLine some, evaluated.zeroFound]
    · rw [filled.slots index room fetched (occupied ▸ inside), slot index inside room]

theorem Arriving.next {slot : Fin 8}
    (arriving : scene.Arriving cartridge (line + 1) slot.val sprites)
    (evaluated : scene.Evaluated (line + 1) evaluation) :
    scene.Arriving cartridge (line + 1) (slot.val + 1)
      (sprites.fetch cartridge evaluation slot line scene.control.spriteHeight
        scene.control.spriteTable) :=
  evaluated.arriving_iff.mpr (evaluated.arriving_iff.mp arriving).next

theorem Arriving.shown (arriving : scene.Arriving cartridge line 8 sprites) :
    scene.Shown cartridge line 0 sprites where
  count := arriving.count (by decide)
  zeroOnLine := arriving.zeroOnLine (by decide)
  slots := fun index inside room => arriving.slots index inside room room

end Famicom.Scene
