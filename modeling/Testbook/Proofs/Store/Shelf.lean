import Mathlib.Data.String.Basic
import Testbook.Proofs.First
import Testbook.Proofs.Sorted
import Testbook.Store.Shelf

/-! A shelf is known by what it has under each id. In which order it was filled does not matter, not
even for its list. -/

set_option autoImplicit false

namespace Testbook.Shelf

variable {shelf other : List Project} {project : Project} {id : String}

def Distinct (shelf : List Project) : Prop := (shelf.map (·.id)).Nodup

theorem distinct_nil : Distinct [] := List.nodup_nil

theorem Distinct.put (distinct : Distinct shelf) (project : Project) :
    Distinct (put shelf project) :=
  nodup_replaceOrAppend distinct

theorem Distinct.remove (distinct : Distinct shelf) (id : String) : Distinct (remove shelf id) :=
  List.Nodup.sublist (List.filter_sublist.map _) distinct

theorem Distinct.perm (distinct : Distinct shelf) (perm : shelf.Perm other) : Distinct other :=
  (perm.map _).nodup_iff.mp distinct

/-! ### Under an id -/

theorem mem_of_get? (found : get? shelf id = some project) : project ∈ shelf ∧ project.id = id :=
  mem_of_find?_key found

theorem get?_put (shelf : List Project) (project : Project) (id : String) :
    get? (put shelf project) id = if id = project.id then some project else get? shelf id := by
  split
  · rename_i same
    subst same
    exact find?_replaceOrAppend_same
  · rename_i apart
    exact find?_replaceOrAppend_other apart

theorem get?_remove (shelf : List Project) (gone id : String) :
    get? (remove shelf gone) id = if id = gone then none else get? shelf id := by
  unfold get? remove
  rw [List.find?_filter]
  split
  · rename_i same
    subst same
    simp
  · rename_i apart
    congr 1
    funext p
    by_cases hit : p.id = id
    · simp [hit, apart]
    · simp [hit]

theorem get?_of_mem (distinct : Distinct shelf) (member : project ∈ shelf) :
    get? shelf project.id = some project :=
  find?_key_of_mem distinct member

theorem mem_put {stored : Project} (member : stored ∈ put shelf project) :
    stored = project ∨ stored ∈ shelf :=
  mem_replaceOrAppend member

theorem mem_put_self (shelf : List Project) (project : Project) : project ∈ put shelf project :=
  mem_replaceOrAppend_self _ project shelf

theorem put_fresh (fresh : ∀ p ∈ shelf, p.id ≠ project.id) :
    put shelf project = shelf ++ [project] := by
  unfold put
  induction shelf with
  | nil => rfl
  | cons first shelf ih =>
    have apart : first.id ≠ project.id := fresh first List.mem_cons_self
    have others := ih fun p member => fresh p (List.mem_cons_of_mem first member)
    simp [replaceOrAppend, apart, others]

/-! ### In any order -/

theorem get?_perm (distinct : Distinct shelf) (perm : shelf.Perm other) (id : String) :
    get? shelf id = get? other id :=
  find?_perm distinct perm id

theorem put_perm (distinct : Distinct shelf) (perm : shelf.Perm other) (project : Project) :
    (put shelf project).Perm (put other project) :=
  ((replaceOrAppend_perm distinct).trans ((perm.filter _).cons project)).trans
    (replaceOrAppend_perm (distinct.perm perm)).symm

theorem remove_perm (perm : shelf.Perm other) (id : String) :
    (remove shelf id).Perm (remove other id) :=
  perm.filter _

/-! ### The list -/

def Before (a b : Project) : Prop := a.name < b.name ∨ (a.name = b.name ∧ a.id < b.id)

theorem comesFirst_iff (a b : Project) :
    comesFirst a b = true ↔ a.name < b.name ∨ (a.name = b.name ∧ a.id ≤ b.id) := by
  unfold comesFirst
  split
  · rename_i same
    simp [same]
  · rename_i apart
    simp [apart, le_iff_lt_or_eq]

theorem comesFirst_trans (a b c : Project) (first : comesFirst a b) (second : comesFirst b c) :
    comesFirst a c := by
  rw [comesFirst_iff] at *
  rcases first with less | ⟨same, least⟩
  · rcases second with less' | ⟨same', _⟩
    · exact Or.inl (less.trans less')
    · exact Or.inl (same' ▸ less)
  · rcases second with less' | ⟨same', least'⟩
    · exact Or.inl (same ▸ less')
    · exact Or.inr ⟨same.trans same', least.trans least'⟩

theorem comesFirst_total (a b : Project) : comesFirst a b || comesFirst b a := by
  rw [Bool.or_eq_true, comesFirst_iff, comesFirst_iff]
  rcases lt_trichotomy a.name b.name with less | same | more
  · exact Or.inl (Or.inl less)
  · rcases le_total a.id b.id with least | least
    · exact Or.inl (Or.inr ⟨same, least⟩)
    · exact Or.inr (Or.inr ⟨same.symm, least⟩)
  · exact Or.inr (Or.inl more)

theorem listed_perm_self (shelf : List Project) : (listed shelf).Perm shelf :=
  List.mergeSort_perm shelf comesFirst

theorem before_asymm (a b : Project) (first : Before a b) : ¬Before b a := by
  rintro (less | ⟨same, less⟩)
  · rcases first with less' | ⟨same', _⟩
    · exact lt_asymm less less'
    · exact less.ne same'.symm
  · rcases first with less' | ⟨_, less'⟩
    · exact less'.ne same.symm
    · exact lt_asymm less less'

theorem sorts : Sorts comesFirst Before (·.id) where
  trans := comesFirst_trans
  total := comesFirst_total
  strict a b first different :=
    ((comesFirst_iff a b).mp first).imp_right fun ⟨same, least⟩ =>
      ⟨same, lt_of_le_of_ne least different⟩
  asymm := before_asymm

theorem listed_sorted (distinct : Distinct shelf) : (listed shelf).Pairwise Before :=
  sorts.pairwise distinct

/-- One list only is in order and has these projects. -/
theorem listed_perm (distinct : Distinct shelf) (perm : shelf.Perm other) :
    listed shelf = listed other :=
  sorts.eq_of_perm distinct perm

theorem mem_listed_iff (distinct : Distinct shelf) :
    project ∈ listed shelf ↔ get? shelf project.id = some project := by
  rw [(listed_perm_self shelf).mem_iff]
  exact ⟨get?_of_mem distinct, fun found => (mem_of_get? found).1⟩

end Testbook.Shelf
