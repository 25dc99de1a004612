import Famicom.Pattern.Meaning
import Famicom.Pattern.Size

namespace Famicom.Pattern

inductive Refusal
  | faulty (fault : Fault)
  | tooLarge (limit : Nat)
  | unsearchable
  deriving DecidableEq

def Refusal.message (text : String) : Refusal → String
  | faulty fault => fault.report text
  | tooLarge limit => s!"Compiled regex exceeds size limit of {limit} bytes."
  | unsearchable => "error building NFA"

def read (text : String) : Except Refusal Pattern :=
  match Expression.parse text >>= (·.meaning {}) with
  | .error fault => .error (.faulty fault)
  | .ok (pattern, _) =>
      if pattern.isFewTexts then .ok pattern
      else if Size.limit < pattern.machineSize false then .error (.tooLarge Size.limit)
      else if !pattern.isSearchable then .error .unsearchable
      else if Size.limit < pattern.machineSize true then .error (.tooLarge Size.limit)
      else .ok pattern

/-- What is accepted is a few texts, or can be searched for by machines that are not too large. -/
theorem read_ok {text : String} {pattern : Pattern} (accepted : read text = .ok pattern) :
    pattern.isFewTexts = true ∨
      pattern.isSearchable = true ∧ ∀ backward, pattern.machineSize backward ≤ Size.limit := by
  unfold read at accepted
  split at accepted
  · cases accepted
  · split at accepted
    · next few =>
        cases accepted
        exact .inl few
    · split at accepted
      · cases accepted
      · split at accepted
        · cases accepted
        · split at accepted
          · cases accepted
          · cases accepted
            refine .inr ⟨by simp_all, fun backward => ?_⟩
            cases backward <;> omega

end Famicom.Pattern
