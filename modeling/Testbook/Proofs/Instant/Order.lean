import Testbook.Instant.Basic

/-! Instants are in one order: of two that differ, one is before the other. -/

set_option autoImplicit false

namespace Testbook.Instant

variable {a b c : Instant}

theorem before_iff :
    a.before b = true ↔ a.seconds < b.seconds ∨ a.seconds = b.seconds ∧ a.nanos < b.nanos := by
  simp [before]

theorem notAfter_iff : a.notAfter b = true ↔ ¬b.before a = true := by simp [notAfter]

theorem notAfter_refl (a : Instant) : a.notAfter a = true := by
  rw [notAfter_iff, before_iff]
  omega

theorem notAfter_trans (first : a.notAfter b = true) (second : b.notAfter c = true) :
    a.notAfter c = true := by
  rw [notAfter_iff, before_iff] at *
  omega

theorem notAfter_of_before (first : a.before b = true) : a.notAfter b = true := by
  rw [notAfter_iff, before_iff]
  rw [before_iff] at first
  omega

theorem notAfter_of_not (first : ¬a.notAfter b = true) : b.notAfter a = true :=
  notAfter_of_before (by simpa [notAfter_iff] using first)

theorem before_trans (first : a.before b = true) (second : b.before c = true) :
    a.before c = true := by
  rw [before_iff] at *
  omega

theorem before_irrefl (a : Instant) : ¬a.before a = true := by
  rw [before_iff]
  omega

theorem notAfter_antisymm (first : a.notAfter b = true) (second : b.notAfter a = true) : a = b := by
  obtain ⟨seconds, nanos, valid⟩ := a
  obtain ⟨seconds', nanos', valid'⟩ := b
  simp only [notAfter_iff, before_iff] at first second
  obtain ⟨rfl, rfl⟩ : seconds = seconds' ∧ nanos = nanos' := by omega
  rfl

theorem before_trichotomy (a b : Instant) : a.before b = true ∨ a = b ∨ b.before a = true := by
  by_cases first : a.before b = true
  · exact Or.inl first
  · by_cases second : b.before a = true
    · exact Or.inr (Or.inr second)
    · exact Or.inr (Or.inl (notAfter_antisymm (notAfter_iff.mpr second) (notAfter_iff.mpr first)))

end Testbook.Instant
