import Testbook.Proofs.Directory
import Testbook.Proofs.Except
import Testbook.Proofs.FilePath

/-! The places on the way along a path. A path can lead to one place only, whatever stands there; and to
make the folder of a path leaves everything alone that does not stand on the way. -/

set_option autoImplicit false

namespace Testbook.Directory

open FilePath

variable {d made later last : Directory} {here place : Place} {entry : Entry} {names : List String}
  {path folder name : String}

/-! ### Where a path leads -/

def goal (path : String) : Place := (steps path).foldl enter []

def way (path : String) : List Place := along [] (steps path)

theorem walk_goal (leads : d.walk here names = .ok place) : place = names.foldl enter here := by
  induction names generalizing here with
  | nil =>
    cases leads
    rfl
  | cons name names ih =>
    unfold walk at leads
    split at leads
    · split at leads
      · cases leads
      · exact ih leads
    · cases leads
    · cases leads

theorem place_goal (leads : d.place path = .ok place) : place = goal path := by
  unfold Directory.place at leads
  split at leads
  · cases leads
  · have reached := walk_goal leads
    split at reached
    · simpa [goal, enter] using reached
    · simpa [goal] using reached

theorem goal_join (folder : String) (named : IsFileName name) :
    goal (join folder name) = goal folder ++ [name] := by
  simp [goal, steps_join folder named.toIsName, enter, named.noDot, named.noDots]

theorem goal_join_not_fixed (folder : String) (named : IsFileName name) :
    ¬IsFixed (goal (join folder name)) := by
  rw [goal_join folder named]
  rintro (root | up)
  · have last : name = "/" := by simpa using congrArg List.getLast? root
    exact named.plain (last ▸ by decide)
  · have last : name = ".." := And.right (by simpa using up)
    exact named.noDots last

/-! ### On the way -/

theorem along_append (here : Place) (names rest : List String) :
    along here (names ++ rest) = along here names ++ along (names.foldl enter here) rest := by
  induction names generalizing here with
  | nil => rfl
  | cons name names ih => simp [along, ih]

theorem along_take_subset (here : Place) (first names : List String) (n : Nat) :
    along here (first ++ names.take n) ⊆ along here (first ++ names) := by
  calc along here (first ++ names.take n)
      ⊆ along here ((first ++ names.take n) ++ names.drop n) := by
        rw [along_append here (first ++ names.take n)]
        exact List.subset_append_left _ _
    _ = along here (first ++ names) := by rw [List.append_assoc, List.take_append_drop]

-- A dot leads from a place to that place.
theorem along_noDots_subset (here : Place) (names : List String) :
    along here (names.filter (· ≠ ".")) ⊆ along here names := by
  induction names generalizing here with
  | nil => exact List.Subset.refl _
  | cons name names ih =>
    by_cases dot : name = "."
    · subst dot
      exact fun place on => List.mem_cons_of_mem _ (ih here on)
    · rw [List.filter_cons_of_pos (by simpa using dot)]
      exact List.cons_subset_cons _ (ih _)

theorem along_subset_noDots (here : Place) (names : List String) :
    along here names ⊆ here :: along here (names.filter (· ≠ ".")) := by
  induction names generalizing here with
  | nil => simp [along]
  | cons name names ih =>
    by_cases dot : name = "."
    · subst dot
      exact List.cons_subset.mpr ⟨List.mem_cons_self, ih here⟩
    · rw [List.filter_cons_of_pos (by simpa using dot)]
      exact fun place on => List.mem_cons_of_mem here (by
        rcases List.mem_cons.mp on with rfl | later
        · exact List.mem_cons_self
        · exact ih _ later)

theorem goal_mem_along (some_names : names ≠ []) (here : Place) :
    names.foldl enter here ∈ along here names := by
  induction names generalizing here with
  | nil => exact absurd rfl some_names
  | cons name names ih =>
    cases names with
    | nil => exact List.mem_cons_self
    | cons second names => exact List.mem_cons_of_mem _ (ih (by simp) _)

theorem walk_folders (leads : d.walk here names = .ok place) (first : d.entry? here = some .folder)
    (stands : d.entry? place = some .folder) : ∀ p ∈ along here names, d.entry? p = some .folder := by
  induction names generalizing here with
  | nil => exact fun p on => absurd on List.not_mem_nil
  | cons name names ih =>
    unfold walk at leads
    split at leads
    case h_1 folder =>
      split at leads
      · cases leads
      have second : d.entry? (enter here name) = some .folder := by
        cases names with
        | nil =>
          cases leads
          exact stands
        | cons =>
          unfold walk at leads
          split at leads
          · assumption
          · cases leads
          · cases leads
      intro p on
      rcases List.mem_cons.mp on with rfl | later
      · exact second
      · exact ih leads second p later
    all_goals cases leads

theorem entry?_start (d : Directory) : d.entry? [] = some .folder := entry?_fixed (Or.inr rfl)

theorem HasFolder.folders (has : d.HasFolder path) : ∀ p ∈ way path, d.entry? p = some .folder := by
  rcases has with rfl | ⟨_, folder⟩
  · exact fun p on => absurd on List.not_mem_nil
  · obtain ⟨place, leads, stands⟩ := isFolder_iff.mp folder
    exact walk_folders leads d.entry?_start stands

/-! ### Folders that were made -/

/-- At some of these places, where nothing stood, there are folders now. Nothing else has changed. -/
def Grown (places : List Place) (d later : Directory) : Prop :=
  ∀ p, later.entry? p = d.entry? p ∨
    (p ∈ places ∧ d.entry? p = none ∧ later.entry? p = some .folder)

namespace Grown

variable {places more : List Place}

theorem refl (places : List Place) (d : Directory) : Grown places d d := fun _ => Or.inl rfl

theorem trans (first : Grown places d later) (second : Grown places later last) :
    Grown places d last := by
  intro p
  rcases second p with same | ⟨on, nothing, folder⟩
  · rw [same]
    exact first p
  · rcases first p with same' | ⟨_, _, folder'⟩
    · exact Or.inr ⟨on, same'.symm.trans nothing, folder⟩
    · rw [folder'] at nothing
      cases nothing

theorem file_iff (grown : Grown places d later) {bytes : ByteArray} :
    later.entry? place = some (.file bytes) ↔ d.entry? place = some (.file bytes) := by
  rcases grown place with same | ⟨_, nothing, folder⟩
  · rw [same]
  · simp [nothing, folder]

theorem mono (grown : Grown places d later) (within : places ⊆ more) : Grown more d later :=
  fun p => (grown p).imp_right fun ⟨on, rest⟩ => ⟨within on, rest⟩

end Grown

theorem makeFolder_grown (made : d.makeFolder names = .ok later) : Grown (along [] names) d later := by
  obtain ⟨place, leads, put⟩ := bind_eq_ok.mp made
  split at put
  · cases put
  rename_i nothing
  cases put
  have free : d.entry? place ≠ some .folder := by simp [nothing]
  have some_names : names ≠ [] := by
    rintro rfl
    cases leads
    exact free d.entry?_start
  intro p
  rw [entry?_put (not_fixed free)]
  split
  · rename_i here
    subst here
    exact Or.inr ⟨walk_goal leads ▸ goal_mem_along some_names [], nothing, rfl⟩
  · exact Or.inl rfl

theorem makeNested_grown {places : List Place} (d : Directory) {around : List (List String)}
    (within : ∀ names ∈ around, along [] names ⊆ places) :
    Grown places d (d.makeNested around).2 := by
  induction around with
  | nil => exact .refl places d
  | cons names around ih =>
    have own := within names List.mem_cons_self
    have before := ih fun other stands => within other (List.mem_cons_of_mem names stands)
    unfold makeNested
    dsimp only
    split
    · rename_i made
      exact (makeFolder_grown made).mono own
    · split
      · rename_i first
        exact (congrArg Prod.snd first) ▸ before
      · rename_i first
        have nested : Grown places d _ := (congrArg Prod.snd first) ▸ before
        split
        · rename_i made
          exact nested.trans ((makeFolder_grown made).mono own)
        · exact nested
    · exact .refl places d

theorem around_within (path : String) :
    ∀ names ∈ steps path :: around path, along [] names ⊆ way path := by
  intro names stands
  rcases List.mem_cons.mp stands with rfl | above
  · exact List.Subset.refl _
  · obtain ⟨n, _, rfl⟩ := List.mem_map.mp above
    rw [← rootSteps, way, steps_eq]
    refine List.Subset.trans (along_take_subset [] _ _ _) ?_
    rw [along_append, along_append, names_eq]
    exact List.append_subset.mpr ⟨List.subset_append_left _ _,
      List.Subset.trans (along_noDots_subset _ _) (List.subset_append_right _ _)⟩

theorem makeFolders_grown (d : Directory) (path : String) :
    Grown (way path) d (d.makeFolders path).2 := by
  unfold makeFolders
  split
  · exact .refl _ d
  · split
    · exact .refl _ d
    · exact makeNested_grown d (around_within path)

end Testbook.Directory
