import Mathlib.Data.List.Induction
import Mathlib.Data.List.TakeWhile
import Testbook.Text.Blank

/-! What is trimmed is not trimmed any further, and something is left of a text that is not blank. -/

set_option autoImplicit false

namespace Testbook.Text

theorem dropWhile_head {p : Char → Bool} {c : Char} {cs rest : List Char}
    (left : cs.dropWhile p = c :: rest) : p c = false := by
  have := List.head_dropWhile_not p (l := cs) (by simp [left])
  simpa [left] using this

/-- Dropping at the end keeps the first character where it is not dropped itself. -/
theorem trimEnd_cons {c : Char} (solid : isBlank c = false) (cs : List Char) :
    ∃ rest, trimEnd (c :: cs) = c :: rest := by
  induction cs using List.reverseRecOn with
  | nil => exact ⟨[], by simp [trimEnd, solid]⟩
  | append_singleton cs last ih =>
    by_cases blank : isBlank last
    · obtain ⟨rest, trimmed⟩ := ih
      exact ⟨rest, by rw [← trimmed]; simp [trimEnd, blank]⟩
    · exact ⟨cs ++ [last], by simp [trimEnd, blank]⟩

-- The end is trimmed after the start, and might have bared new blanks at the start.
theorem trimStart_trimChars (cs : List Char) : trimStart (trimChars cs) = trimChars cs := by
  unfold trimChars
  cases left : trimStart cs with
  | nil => rfl
  | cons c rest =>
    have solid : isBlank c = false := dropWhile_head left
    obtain ⟨rest', trimmed⟩ := trimEnd_cons solid rest
    rw [trimmed]
    simp [trimStart, solid]

theorem trimEnd_trimEnd (cs : List Char) : trimEnd (trimEnd cs) = trimEnd cs := by
  unfold trimEnd
  rw [List.reverse_reverse]
  congr 1
  cases left : cs.reverse.dropWhile isBlank with
  | nil => rfl
  | cons c rest => simp [dropWhile_head left]

theorem trimChars_trimChars (cs : List Char) : trimChars (trimChars cs) = trimChars cs := by
  calc trimChars (trimChars cs)
      = trimEnd (trimStart (trimChars cs)) := rfl
    _ = trimEnd (trimChars cs) := by rw [trimStart_trimChars]
    _ = trimChars cs := trimEnd_trimEnd (trimStart cs)

theorem trim_trim (s : String) : trim (trim s) = trim s := by
  simp [trim, trimChars_trimChars]

theorem trimChars_eq_nil (cs : List Char) : trimChars cs = [] ↔ cs.all isBlank := by
  constructor
  · intro nothing
    rw [trimChars] at nothing
    cases left : trimStart cs with
    | nil => exact List.all_eq_true.mpr (List.dropWhile_eq_nil_iff.mp left)
    | cons c rest =>
      obtain ⟨rest', trimmed⟩ := trimEnd_cons (dropWhile_head left) rest
      rw [left, trimmed] at nothing
      exact absurd nothing (List.cons_ne_nil c rest')
  · intro all
    have : trimStart cs = [] := List.dropWhile_eq_nil_iff.mpr (List.all_eq_true.mp all)
    simp [trimChars, this, trimEnd]

theorem trimmed?_spec {s t : String} (trimmed : trimmed? s = some t) :
    t ≠ "" ∧ trim t = t ∧ trimmed? t = some t := by
  unfold trimmed? at trimmed
  split at trimmed
  · cases trimmed
  rename_i visible
  cases trimmed
  have some_left : trimChars s.toList ≠ [] := by
    rw [ne_eq, trimChars_eq_nil]
    exact visible
  have still_visible : allBlank (trim s) = false := by
    rw [← Bool.not_eq_true]
    intro blank
    apply some_left
    rw [← trimChars_trimChars, trimChars_eq_nil]
    simpa [allBlank, trim] using blank
  refine ⟨?_, trim_trim s, ?_⟩
  · intro empty
    rw [empty] at still_visible
    exact absurd still_visible (by decide)
  · simp [trimmed?, still_visible, trim_trim]

theorem trim_eq_empty (s : String) : trim s = "" ↔ allBlank s = true := by
  rw [allBlank, ← trimChars_eq_nil, trim, ← String.toList_inj]
  simp

theorem trimmed?_eq_some {s t : String} : trimmed? s = some t ↔ trim s ≠ "" ∧ trim s = t := by
  rw [trimmed?, ne_eq, trim_eq_empty]
  split <;> simp [*]

/-! ### Margins and leads -/

theorem trimStart_append {before : List Char} (blank : ∀ c ∈ before, isBlank c = true)
    (cs : List Char) : trimStart (before ++ cs) = trimStart cs :=
  List.dropWhile_append_of_pos blank

theorem trimEnd_append {after : List Char} (blank : ∀ c ∈ after, isBlank c = true)
    (cs : List Char) : trimEnd (cs ++ after) = trimEnd cs := by
  have reversed : ∀ c ∈ after.reverse, isBlank c = true := by simpa using blank
  rw [trimEnd, List.reverse_append, List.dropWhile_append_of_pos reversed, trimEnd]

theorem trimChars_margins {before after : List Char} (front : ∀ c ∈ before, isBlank c = true)
    (back : ∀ c ∈ after, isBlank c = true) (cs : List Char) :
    trimChars (before ++ cs ++ after) = trimChars cs := by
  rw [trimChars, List.append_assoc, trimStart_append front, trimChars]
  by_cases empty : trimStart cs = []
  · have nothing : trimStart (cs ++ after) = [] := by
      rw [trimStart, List.dropWhile_eq_nil_iff] at empty ⊢
      intro c member
      exact (List.mem_append.mp member).elim (empty c) (back c)
    rw [nothing, empty]
  · have same : trimStart (cs ++ after) = trimStart cs ++ after := by
      rw [trimStart, List.dropWhile_append, ← trimStart, if_neg (mt List.isEmpty_iff.mp empty)]
    rw [same, trimEnd_append back]

theorem trimEnd_append_solid {cs : List Char} (some_left : trimEnd cs ≠ []) (front : List Char) :
    trimEnd (front ++ cs) = front ++ trimEnd cs := by
  have some_left' : cs.reverse.dropWhile isBlank ≠ [] := by simpa [trimEnd] using some_left
  rw [trimEnd, List.reverse_append, List.dropWhile_append,
    if_neg (mt List.isEmpty_iff.mp some_left'), List.reverse_append, List.reverse_reverse, trimEnd]

/-- What stands before a text and is not blank at its own ends is not trimmed. -/
theorem trimChars_lead {lead : List Char} (solid : trimChars lead = lead) (some_lead : lead ≠ [])
    (cs : List Char) : trimChars (lead ++ cs) = lead ++ trimEnd cs := by
  have start : trimStart lead = lead := by rw [← solid, trimStart_trimChars]
  have ending : trimEnd lead = lead := by rw [← solid, trimChars, trimEnd_trimEnd]
  have kept : trimStart (lead ++ cs) = lead ++ cs := by
    rw [trimStart, List.dropWhile_append, ← trimStart, start, if_neg (mt List.isEmpty_iff.mp some_lead)]
  rw [trimChars, kept]
  by_cases empty : trimEnd cs = []
  · have blank : ∀ c ∈ cs, isBlank c = true := by
      rw [trimEnd, List.reverse_eq_nil_iff, List.dropWhile_eq_nil_iff] at empty
      exact fun c member => empty c (List.mem_reverse.mpr member)
    rw [trimEnd_append blank, ending, empty, List.append_nil]
  · exact trimEnd_append_solid empty lead

theorem trimChars_trimEnd (cs : List Char) : trimChars (trimEnd cs) = trimChars cs := by
  have whole : trimEnd cs ++ (cs.reverse.takeWhile isBlank).reverse = cs := by
    rw [trimEnd, ← List.reverse_append, List.takeWhile_append_dropWhile, List.reverse_reverse]
  have blank : ∀ c ∈ (cs.reverse.takeWhile isBlank).reverse, isBlank c = true :=
    fun c member => List.mem_takeWhile_imp (List.mem_reverse.mp member)
  have nothing : ∀ c ∈ ([] : List Char), isBlank c = true := by simp
  calc trimChars (trimEnd cs)
      = trimChars ([] ++ trimEnd cs ++ (cs.reverse.takeWhile isBlank).reverse) :=
        (trimChars_margins nothing blank (trimEnd cs)).symm
    _ = trimChars cs := by rw [List.nil_append, whole]

end Testbook.Text
