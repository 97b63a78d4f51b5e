import Mathlib.Data.List.Induction
import Testbook.Proofs.Instant.Order
import Testbook.Report.Comparison

/-! The newest of some runs. There may be several, which were created at the same time. A comparison takes
the last of them. -/

set_option autoImplicit false

namespace Testbook

namespace Report

/-- Those of the runs that no other was created after, in their order. -/
def latest (runs : List Run) : List Run :=
  runs.filter fun run => runs.all (·.createdAt.notAfter run.createdAt)

variable {runs : List Run} {run new best : Run}

theorem mem_latest : run ∈ latest runs ↔
    run ∈ runs ∧ ∀ other ∈ runs, other.createdAt.notAfter run.createdAt = true := by
  simp [latest]

@[simp] theorem latest_one (run : Run) : latest [run] = [run] := by
  simp [latest, Instant.notAfter_refl]

/-- One of the newest is enough to tell which the others are. -/
theorem latest_eq_filter (stands : best ∈ latest runs) :
    latest runs = runs.filter (best.createdAt.notAfter ·.createdAt) := by
  obtain ⟨member, newest⟩ := mem_latest.mp stands
  refine List.filter_congr fun run _ => ?_
  rw [Bool.eq_iff_iff, List.all_eq_true]
  exact ⟨fun all => all best member,
    fun first other stood => Instant.notAfter_trans (newest other stood) first⟩

theorem mem_latest_concat : run ∈ latest (runs ++ [new]) ↔
    (run ∈ runs ∨ run = new) ∧ (∀ other ∈ runs, other.createdAt.notAfter run.createdAt = true) ∧
      new.createdAt.notAfter run.createdAt = true := by
  simp [mem_latest, or_imp, forall_and]

/-- A run that is not newer joins the newest if it is as new. -/
theorem latest_concat_behind (stands : best ∈ latest runs)
    (behind : new.createdAt.notAfter best.createdAt = true) :
    latest (runs ++ [new]) = latest runs ++ [new].filter (best.createdAt.notAfter ·.createdAt) := by
  obtain ⟨member, newest⟩ := mem_latest.mp stands
  have stays : best ∈ latest (runs ++ [new]) :=
    mem_latest_concat.mpr ⟨Or.inl member, newest, behind⟩
  rw [latest_eq_filter stays, latest_eq_filter stands, List.filter_append]

theorem latest_concat_ahead (stands : best ∈ latest runs)
    (ahead : ¬new.createdAt.notAfter best.createdAt = true) : latest (runs ++ [new]) = [new] := by
  obtain ⟨-, newest⟩ := mem_latest.mp stands
  have above : best.createdAt.notAfter new.createdAt = true := Instant.notAfter_of_not ahead
  have leads : new ∈ latest (runs ++ [new]) :=
    mem_latest_concat.mpr ⟨Or.inr rfl,
      fun other stood => Instant.notAfter_trans (newest other stood) above, Instant.notAfter_refl _⟩
  rw [latest_eq_filter leads, List.filter_append, List.filter_eq_nil_iff.mpr]
  · simp [Instant.notAfter_refl]
  · exact fun run stood first => ahead (Instant.notAfter_trans first (newest run stood))

-- By induction from the end: a run that comes to others leaves one of them newest, or is newest itself.
theorem latest_eq_nil : latest runs = [] ↔ runs = [] := by
  constructor
  · intro none_newest
    induction runs using List.reverseRecOn with
    | nil => rfl
    | append_singleton runs new ih =>
      cases held : latest runs with
      | nil =>
        rw [ih held] at none_newest
        simp at none_newest
      | cons best others =>
        have stands : best ∈ latest runs := by simp [held]
        by_cases behind : new.createdAt.notAfter best.createdAt = true
        · simp [latest_concat_behind stands behind, held] at none_newest
        · simp [latest_concat_ahead stands behind] at none_newest
  · rintro rfl
    rfl

theorem head?_latest_concat (runs : List Run) (new : Run) : (latest (runs ++ [new])).head? =
    ((latest runs).head?.filter (new.createdAt.notAfter ·.createdAt)).or (some new) := by
  cases first : (latest runs).head? with
  | none =>
    obtain rfl : runs = [] := latest_eq_nil.mp (List.head?_eq_none_iff.mp first)
    simp
  | some best =>
    have stands : best ∈ latest runs := List.mem_of_head? first
    by_cases behind : new.createdAt.notAfter best.createdAt = true
    · simp [latest_concat_behind stands behind, first, Option.filter, behind]
    · simp [latest_concat_ahead stands behind, Option.filter, behind]

theorem getLast?_latest_concat (runs : List Run) (new : Run) : (latest (runs ++ [new])).getLast? =
    ((latest runs).getLast?.filter (!·.createdAt.notAfter new.createdAt)).or (some new) := by
  cases last : (latest runs).getLast? with
  | none =>
    obtain rfl : runs = [] := latest_eq_nil.mp (List.getLast?_eq_none_iff.mp last)
    simp
  | some best =>
    have stands : best ∈ latest runs := List.mem_of_getLast? last
    by_cases behind : new.createdAt.notAfter best.createdAt = true
    · by_cases level : best.createdAt.notAfter new.createdAt = true
      · simp [latest_concat_behind stands behind, Option.filter, level]
      · simp [latest_concat_behind stands behind, last, Option.filter, level]
    · have above : best.createdAt.notAfter new.createdAt = true := Instant.notAfter_of_not behind
      simp [latest_concat_ahead stands behind, Option.filter, above]

/-- A comparison takes the last. -/
theorem newest?_eq_getLast? (runs : List Run) :
    Comparison.newest? runs = (latest runs).getLast? := by
  induction runs using List.reverseRecOn with
  | nil => rfl
  | append_singleton runs new ih =>
    rw [getLast?_latest_concat, ← ih]
    cases runs with
    | nil => rfl
    | cons first runs =>
      simp only [Comparison.newest?, List.cons_append, List.foldl_append, List.foldl_cons,
        List.foldl_nil]
      split <;> rename_i level <;> simp [Option.filter, level]

end Report

end Testbook
