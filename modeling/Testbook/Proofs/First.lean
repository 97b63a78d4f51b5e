import Mathlib.Data.List.Forall2
import Mathlib.Data.List.Nodup
import Testbook.First

/-! Entries that are told apart by a key. Replacing the entry of a key touches no other key, and keys
that were distinct stay so. -/

set_option autoImplicit false

namespace Testbook

variable {α β κ : Type}

/-! ### The first entry changed -/

theorem mem_modifyFirst {p : α → Bool} {f : α → α} {xs : List α} {y : α}
    (member : y ∈ modifyFirst p f xs) : y ∈ xs ∨ ∃ x ∈ xs, p x ∧ y = f x := by
  induction xs with
  | nil => simp [modifyFirst] at member
  | cons x xs ih =>
    unfold modifyFirst at member
    split at member
    · rename_i holds
      rcases List.mem_cons.mp member with rfl | later
      · exact Or.inr ⟨x, List.mem_cons_self, holds, rfl⟩
      · exact Or.inl (List.mem_cons_of_mem x later)
    · rcases List.mem_cons.mp member with rfl | later
      · exact Or.inl List.mem_cons_self
      · rcases ih later with stays | ⟨x', found, holds, rfl⟩
        · exact Or.inl (List.mem_cons_of_mem x stays)
        · exact Or.inr ⟨x', List.mem_cons_of_mem x found, holds, rfl⟩

theorem modifyFirst?_eq (p : α → Bool) (f : α → α) (xs : List α) :
    modifyFirst? p f xs = if xs.any p then some (modifyFirst p f xs) else none := by
  induction xs with
  | nil => rfl
  | cons x xs ih =>
    rw [modifyFirst?, modifyFirst, List.any_cons, ih]
    cases p x with
    | true => rfl
    | false => cases xs.any p <;> rfl

theorem modifyFirst_first {p : α → Bool} {before after : List α} {x : α}
    (others : ∀ y ∈ before, p y = false) (hit : p x = true) (f : α → α) :
    modifyFirst p f (before ++ x :: after) = before ++ f x :: after := by
  induction before with
  | nil => simp [modifyFirst, hit]
  | cons y before ih =>
    simp only [List.mem_cons, forall_eq_or_imp] at others
    simp [modifyFirst, others.1, ih others.2]

/-- The entry that is found first is the one that is changed, in its place. -/
theorem modifyFirst_split {p : α → Bool} (f : α → α) {xs : List α} {x : α}
    (found : xs.find? p = some x) :
    ∃ before after, xs = before ++ x :: after ∧ modifyFirst p f xs = before ++ f x :: after := by
  obtain ⟨hit, before, after, rfl, others⟩ := List.find?_eq_some_iff_append.mp found
  refine ⟨before, after, rfl, modifyFirst_first ?_ hit f⟩
  intro y member
  simpa using others y member

theorem modifyFirst_absent {p : α → Bool} (f : α → α) {xs : List α} (absent : xs.find? p = none) :
    modifyFirst p f xs = xs := by
  induction xs with
  | nil => rfl
  | cons x xs ih =>
    obtain ⟨miss, others⟩ : p x ≠ true ∧ xs.find? p = none := by simpa using absent
    simp [modifyFirst, miss, ih others]

@[simp] theorem length_modifyFirst (p : α → Bool) (f : α → α) (xs : List α) :
    (modifyFirst p f xs).length = xs.length := by
  induction xs with
  | nil => rfl
  | cons x xs ih => unfold modifyFirst; split <;> simp [ih]

theorem map_modifyFirst {g : α → β} {f : α → α} (kept : ∀ x, g (f x) = g x) (p : α → Bool)
    (xs : List α) : (modifyFirst p f xs).map g = xs.map g := by
  induction xs with
  | nil => rfl
  | cons x xs ih =>
    unfold modifyFirst
    split
    · simp [kept]
    · simp [ih]

/-- A relation that holds between each entry and what it is changed to, and of each entry alone. -/
theorem forall₂_modifyFirst {R : α → α → Prop} {p : α → Bool} {f : α → α} (same : ∀ x, R x x)
    (changed : ∀ x, R x (f x)) (xs : List α) : List.Forall₂ R xs (modifyFirst p f xs) := by
  induction xs with
  | nil => exact .nil
  | cons x xs ih =>
    unfold modifyFirst
    split
    · exact .cons (changed x) (List.forall₂_same.mpr fun y _ => same y)
    · exact .cons (same x) ih

theorem any_modifyFirst {q : α → Bool} {f : α → α} (unseen : ∀ x, q (f x) = q x) (p : α → Bool)
    (xs : List α) : (modifyFirst p f xs).any q = xs.any q := by
  have same := congrArg (List.any · id) (map_modifyFirst unseen p xs)
  simpa [List.any_map] using same

/-- What is done to all entries may be done before or after. -/
theorem modifyFirst_map {p : α → Bool} {f g : α → α} (unseen : ∀ x, p (g x) = p x)
    (comm : ∀ x, f (g x) = g (f x)) (xs : List α) :
    modifyFirst p f (xs.map g) = (modifyFirst p f xs).map g := by
  induction xs with
  | nil => rfl
  | cons x xs ih =>
    by_cases hit : p x = true
    · simp [modifyFirst, unseen, hit, comm]
    · simp [modifyFirst, unseen, hit, ih]

/-- Two changes that do not see each other may be made in either order. -/
theorem modifyFirst_comm {p q : α → Bool} {f g : α → α} (unseen : ∀ x, p (g x) = p x)
    (unseen' : ∀ x, q (f x) = q x) (comm : ∀ x, f (g x) = g (f x)) (xs : List α) :
    modifyFirst p f (modifyFirst q g xs) = modifyFirst q g (modifyFirst p f xs) := by
  induction xs with
  | nil => rfl
  | cons x xs ih =>
    by_cases hit : p x = true <;> by_cases hit' : q x = true
    · simp [modifyFirst, unseen, unseen', hit, hit', comm]
    · simp [modifyFirst, unseen', hit, hit']
    · simp [modifyFirst, unseen, hit, hit']
    · simp [modifyFirst, hit, hit', ih]

variable [DecidableEq κ] {key : α → κ} {new : α} {xs : List α}

theorem mem_of_find?_key {k : κ} {x : α} (found : xs.find? (fun x => key x = k) = some x) :
    x ∈ xs ∧ key x = k :=
  ⟨List.mem_of_find?_eq_some found, by simpa using List.find?_some found⟩

theorem find?_key_of_mem (distinct : (xs.map key).Nodup) {x : α} (member : x ∈ xs) :
    xs.find? (fun y => key y = key x) = some x := by
  cases found : xs.find? (fun y => key y = key x) with
  | none => simpa using List.find?_eq_none.mp found x member
  | some first =>
    obtain ⟨stands, same⟩ := mem_of_find?_key found
    rw [List.inj_on_of_nodup_map distinct stands member same]

/-- With distinct keys the first entry of a key is the only one. -/
theorem modifyFirst_eq_map (distinct : (xs.map key).Nodup) (k : κ) (f : α → α) :
    modifyFirst (fun x => key x = k) f xs = xs.map fun x => if key x = k then f x else x := by
  induction xs with
  | nil => rfl
  | cons x xs ih =>
    rw [List.map_cons, List.nodup_cons] at distinct
    unfold modifyFirst
    by_cases hit : key x = k
    · subst hit
      have others : (xs.map fun y => if key y = key x then f y else y) = xs := by
        refine (List.map_congr_left ?_).trans (List.map_id xs)
        intro y later
        have apart : key y ≠ key x := fun same => distinct.1 (List.mem_map.mpr ⟨y, later, same⟩)
        rw [if_neg apart, id]
      simp [others]
    · simp [hit, ih distinct.2]

theorem find?_modifyFirst_same {old : α} (found : xs.find? (fun x => key x = key new) = some old) :
    (modifyFirst (fun x => key x = key new) (fun _ => new) xs).find? (fun x => key x = key new) =
      some new := by
  induction xs with
  | nil => simp at found
  | cons x xs ih =>
    unfold modifyFirst
    by_cases hit : key x = key new
    · simp [hit]
    · simp only [hit, decide_false, Bool.false_eq_true, if_false, List.find?_cons] at found ⊢
      exact ih found

theorem find?_modifyFirst_other {k : κ} (other : k ≠ key new) :
    (modifyFirst (fun x => key x = key new) (fun _ => new) xs).find? (fun x => key x = k) =
      xs.find? (fun x => key x = k) := by
  induction xs with
  | nil => rfl
  | cons x xs ih =>
    unfold modifyFirst
    by_cases hit : key x = key new
    · simp [hit, other.symm]
    · simp [hit, List.find?_cons, ih]

/-! ### An entry put in the place of the one with its key -/

theorem mem_replaceOrAppend {p : α → Bool} {y : α} (member : y ∈ replaceOrAppend p new xs) :
    y = new ∨ y ∈ xs := by
  induction xs with
  | nil => exact Or.inl (List.mem_singleton.mp member)
  | cons x xs ih =>
    unfold replaceOrAppend at member
    split at member
    · rcases List.mem_cons.mp member with rfl | later
      · exact Or.inl rfl
      · exact Or.inr (List.mem_cons_of_mem x later)
    · rcases List.mem_cons.mp member with rfl | later
      · exact Or.inr List.mem_cons_self
      · exact (ih later).imp_right (List.mem_cons_of_mem x)

theorem mem_replaceOrAppend_self (p : α → Bool) (new : α) (xs : List α) :
    new ∈ replaceOrAppend p new xs := by
  induction xs with
  | nil => exact List.mem_singleton_self new
  | cons x xs ih =>
    unfold replaceOrAppend
    split
    · exact List.mem_cons_self
    · exact List.mem_cons_of_mem x ih

theorem replaceOrAppend_first {p : α → Bool} {before after : List α} {x : α}
    (others : ∀ y ∈ before, p y = false) (hit : p x = true) (new : α) :
    replaceOrAppend p new (before ++ x :: after) = before ++ new :: after := by
  induction before with
  | nil => simp [replaceOrAppend, hit]
  | cons y before ih =>
    simp only [List.mem_cons, forall_eq_or_imp] at others
    simp [replaceOrAppend, others.1, ih others.2]

theorem replaceOrAppend_split {p : α → Bool} (y : α) {x : α} (found : xs.find? p = some x) :
    ∃ before after, xs = before ++ x :: after ∧ replaceOrAppend p y xs = before ++ y :: after := by
  obtain ⟨hit, before, after, rfl, others⟩ := List.find?_eq_some_iff_append.mp found
  refine ⟨before, after, rfl, replaceOrAppend_first ?_ hit y⟩
  intro z member
  simpa using others z member

theorem replaceOrAppend_absent {p : α → Bool} (absent : xs.find? p = none) :
    replaceOrAppend p new xs = xs ++ [new] := by
  induction xs with
  | nil => rfl
  | cons x xs ih =>
    obtain ⟨miss, others⟩ : p x ≠ true ∧ xs.find? p = none := by simpa using absent
    simp [replaceOrAppend, miss, ih others]

theorem replaceOrAppend_found {p : α → Bool} {x : α} (found : xs.find? p = some x) :
    replaceOrAppend p new xs = modifyFirst p (fun _ => new) xs := by
  induction xs with
  | nil => cases found
  | cons first xs ih =>
    unfold replaceOrAppend modifyFirst
    by_cases hit : p first = true
    · simp [hit]
    · rw [List.find?_cons_of_neg hit] at found
      simp [hit, ih found]

theorem map_replaceOrAppend (f : α → β) (p : β → Bool) :
    replaceOrAppend p (f new) (xs.map f) = (replaceOrAppend (fun x => p (f x)) new xs).map f := by
  induction xs with
  | nil => rfl
  | cons x xs ih =>
    simp only [List.map_cons, replaceOrAppend]
    split <;> simp [ih]

theorem find?_replaceOrAppend_same :
    (replaceOrAppend (fun x => key x = key new) new xs).find? (fun x => key x = key new) =
      some new := by
  induction xs with
  | nil => simp [replaceOrAppend]
  | cons x xs ih =>
    unfold replaceOrAppend
    by_cases hit : key x = key new
    · simp [hit]
    · simp [hit, ih]

theorem find?_replaceOrAppend_other {k : κ} (other : k ≠ key new) :
    (replaceOrAppend (fun x => key x = key new) new xs).find? (fun x => key x = k) =
      xs.find? (fun x => key x = k) := by
  induction xs with
  | nil => simp [replaceOrAppend, other.symm]
  | cons x xs ih =>
    unfold replaceOrAppend
    by_cases hit : key x = key new
    · simp [hit, other.symm]
    · simp [hit, List.find?_cons, ih]

/-- Up to the order, the entry of the key goes and the new one comes. -/
theorem replaceOrAppend_perm (distinct : (xs.map key).Nodup) :
    (replaceOrAppend (fun x => key x = key new) new xs).Perm
      (new :: xs.filter fun x => key x ≠ key new) := by
  induction xs with
  | nil => exact List.Perm.refl [new]
  | cons x xs ih =>
    simp only [List.map_cons, List.nodup_cons, List.mem_map, not_exists, not_and] at distinct
    unfold replaceOrAppend
    by_cases hit : key x = key new
    · have others : (xs.filter fun x => key x ≠ key new) = xs :=
        List.filter_eq_self.mpr fun y later => by simpa [← hit] using distinct.1 y later
      simp only [hit, decide_true, if_true, ne_eq, not_true_eq_false, decide_false,
        Bool.false_eq_true, not_false_eq_true, List.filter_cons_of_neg]
      rw [others]
    · simp only [hit, decide_false, Bool.false_eq_true, if_false, ne_eq, not_false_eq_true,
        decide_true, List.filter_cons_of_pos]
      exact ((ih distinct.2).cons x).trans (List.Perm.swap new x _)

theorem nodup_replaceOrAppend (distinct : (xs.map key).Nodup) :
    ((replaceOrAppend (fun x => key x = key new) new xs).map key).Nodup := by
  refine ((replaceOrAppend_perm distinct).map key).nodup_iff.mpr ?_
  rw [List.map_cons, List.nodup_cons]
  refine ⟨?_, distinct.sublist (List.filter_sublist.map key)⟩
  simp

theorem find?_perm {ys : List α} (distinct : (xs.map key).Nodup) (perm : xs.Perm ys) (k : κ) :
    xs.find? (fun x => key x = k) = ys.find? (fun x => key x = k) := by
  induction perm with
  | nil => rfl
  | cons x _ ih =>
    rw [List.map_cons, List.nodup_cons] at distinct
    rw [List.find?_cons, List.find?_cons, ih distinct.2]
  | swap x y xs =>
    simp only [List.map_cons, List.nodup_cons, List.mem_cons, not_or] at distinct
    have apart : key y ≠ key x := distinct.1.1
    by_cases hit : key x = k
    · have miss : ¬key y = k := hit ▸ apart
      simp [hit, miss]
    · simp [List.find?_cons, hit]
  | trans first _ ihFirst ihSecond =>
    rw [ihFirst distinct, ihSecond ((first.map key).nodup_iff.mp distinct)]

end Testbook
