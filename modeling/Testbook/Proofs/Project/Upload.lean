import Testbook.Proofs.Project.Runs

/-! What becomes of a project that a feature is offered to. The first feature of the same name decides: there
is none, or it has the same content, or it gives up its place. -/

set_option autoImplicit false

namespace Testbook.Project

inductive Settles (p : Project) (feature : Feature) : Upload → Project → Prop where
  | added (new : ∀ other ∈ p.features, other.name ≠ feature.name) :
      Settles p feature (.added feature.id) { p with features := p.features ++ [feature] }
  | unchanged {front back : List Feature} {old : Feature}
      (features : p.features = front ++ old :: back)
      (first : ∀ other ∈ front, other.name ≠ feature.name) (name : old.name = feature.name)
      (same : old.source.hash = feature.source.hash) : Settles p feature (.unchanged old.id) p
  | replaced {front back : List Feature} {old : Feature} {purged : Nat}
      (features : p.features = front ++ old :: back)
      (first : ∀ other ∈ front, other.name ≠ feature.name) (name : old.name = feature.name)
      (differs : old.source.hash ≠ feature.source.hash)
      (counted : (p.runs.filter (·.featureId ≠ old.id)).length + purged = p.runs.length) :
      Settles p feature (.replaced feature.id old.id purged)
        { p with
          features := front ++ feature :: back
          runs := p.runs.filter (·.featureId ≠ old.id) }

variable {p later : Project} {feature old : Feature} {upload : Upload}
  {front back : List Feature}

theorem find?_first (features : p.features = front ++ old :: back)
    (first : ∀ other ∈ front, other.name ≠ feature.name) (name : old.name = feature.name) :
    p.features.find? (·.name = feature.name) = some old := by
  rw [features, List.find?_eq_some_iff_append]
  exact ⟨by simp [name], front, back, rfl, fun other member => by simp [first other member]⟩

theorem kept_add_purged (runs : List Run) (previous : String) :
    (runs.filter (·.featureId ≠ previous)).length + runs.countP (·.featureId = previous) =
      runs.length := by
  rw [← List.countP_eq_length_filter, Nat.add_comm,
    runs.length_eq_countP_add_countP (·.featureId = previous)]
  simp

theorem addFeature_settles (p : Project) (feature : Feature) :
    p.Settles feature (p.addFeature feature).1 ((p.addFeature feature).2.getD p) := by
  unfold addFeature
  cases known : p.features.find? (·.name = feature.name) with
  | none =>
    refine .added ?_
    intro other member
    simpa using List.find?_eq_none.mp known other member
  | some old =>
    obtain ⟨name, front, back, features, others⟩ := List.find?_eq_some_iff_append.mp known
    have name : old.name = feature.name := by simpa using name
    have first : ∀ other ∈ front, other.name ≠ feature.name :=
      fun other member => by simpa using others other member
    by_cases same : old.source.hash = feature.source.hash
    · simp only [same, if_true]
      exact .unchanged features first name same
    · have replaced : replaceOrAppend (·.name = feature.name) feature (front ++ old :: back) =
          front ++ feature :: back :=
        replaceOrAppend_first (fun other member => by simpa using first other member)
          (by simpa using name) feature
      simp only [same, if_false, Option.getD_some, replaceFeature, features, replaced]
      exact .replaced features first name same (kept_add_purged p.runs old.id)

/-- There is nothing to store exactly where the feature is known with the same content. -/
theorem addFeature_eq_none {changed? : Option Project}
    (taken : p.addFeature feature = (upload, changed?)) :
    changed? = none ↔ ∃ old, upload = .unchanged old := by
  unfold addFeature at taken
  split at taken
  · cases taken
    simp
  · split at taken <;> cases taken <;> simp

theorem Settles.stands (settles : p.Settles feature upload later) :
    ∃ found, later.getFeature upload.feature = .ok found := by
  have named {stands : Feature} (member : stands ∈ later.features) (id : stands.id = upload.feature) :
      ∃ found, later.getFeature upload.feature = .ok found :=
    id ▸ getFeature_of_mem member
  cases settles with
  | added new => exact named (List.mem_append_right _ (List.mem_singleton_self _)) rfl
  | @unchanged front back old features => exact named (by simp [features]) rfl
  | replaced => exact named (List.mem_append_right _ List.mem_cons_self) rfl

/-- Whatever became of a feature, it stands under its name now, and the same content is not taken again. -/
theorem Settles.again {again : Feature} (settles : p.Settles feature upload later)
    (name : again.name = feature.name) (hash : again.source.hash = feature.source.hash) :
    later.addFeature again = (.unchanged upload.feature, none) := by
  have unchanged {later : Project} {old : Feature} {front back : List Feature}
      (features : later.features = front ++ old :: back)
      (first : ∀ other ∈ front, other.name ≠ feature.name) (old_name : old.name = feature.name)
      (same : old.source.hash = feature.source.hash) :
      later.addFeature again = (.unchanged old.id, none) := by
    rw [addFeature, name, find?_first features first old_name]
    simp [same, hash]
  cases settles with
  | added new =>
    have last : p.features ++ [feature] = p.features ++ feature :: [] := rfl
    exact unchanged last new rfl rfl
  | unchanged features first name same => exact unchanged features first name same
  | replaced _ first => exact unchanged rfl first rfl rfl

end Testbook.Project
