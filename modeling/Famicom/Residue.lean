namespace Famicom

def residue (size value : Nat) (positive : decide (0 < size) = true := by exact Eq.refl true) :
    Fin size :=
  ⟨value % size, Nat.mod_lt _ (of_decide_eq_true positive)⟩

@[simp] theorem val_residue (size value : Nat) (positive : decide (0 < size) = true) :
    (residue size value positive).val = value % size := rfl

end Famicom
