import Testbook.Text.Blank

/-! Where a text stands in another: at its beginning, at its end, or anywhere. -/

set_option autoImplicit false

namespace Testbook.Text

variable {part cs : List Char}

theorem afterLead?_eq (lead cs : List Char) :
    afterLead? lead cs = if lead.isPrefixOf cs then some (cs.drop lead.length) else none := by
  induction lead generalizing cs with
  | nil => rfl
  | cons l lead ih =>
    cases cs with
    | nil => rfl
    | cons c cs =>
      by_cases same : l = c
      · simp [afterLead?, same, ih]
      · simp [afterLead?, same]

theorem startsWith_iff : startsWith part cs = true ↔ part <+: cs := by
  rw [startsWith, afterLead?_eq, ← List.isPrefixOf_iff_prefix]
  cases part.isPrefixOf cs <;> simp

theorem endsWith_iff : endsWith part cs = true ↔ part <:+ cs := by
  rw [endsWith, startsWith_iff, List.reverse_prefix]

theorem contains_iff : contains part cs = true ↔ part <:+: cs := by
  induction cs with
  | nil => simp [contains]
  | cons c cs ih => rw [contains, Bool.or_eq_true, startsWith_iff, ih, List.infix_cons_iff]

end Testbook.Text
