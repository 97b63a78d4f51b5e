import Testbook.Proofs.Directory.Way

/-! Where folders can be made: just where nothing but folders stands on the way. -/

set_option autoImplicit false

namespace Testbook.Directory

open FilePath

variable {d later : Directory} {here place : Place} {names : List String} {path name : String}

def Short (names : List String) : Prop := ∀ name ∈ names, name.utf8ByteSize ≤ longestName

def Clear (d : Directory) (places : List Place) : Prop :=
  ∀ p ∈ places, d.entry? p = none ∨ d.entry? p = some .folder

theorem walk_short (leads : d.walk here names = .ok place) : Short names := by
  induction names generalizing here with
  | nil => exact fun name stands => absurd stands List.not_mem_nil
  | cons name names ih =>
    unfold walk at leads
    split at leads
    · split at leads
      · cases leads
      rename_i short
      exact List.forall_mem_cons.mpr ⟨Nat.le_of_not_lt short, ih leads⟩
    · cases leads
    · cases leads

-- The folders on the way are those before its last place.
theorem walk_of_folders (short : Short (names ++ [name])) (first : d.entry? here = some .folder)
    (folders : ∀ p ∈ along here names, d.entry? p = some .folder) :
    d.walk here (names ++ [name]) = .ok ((names ++ [name]).foldl enter here) := by
  induction names generalizing here with
  | nil =>
    have own : name.utf8ByteSize ≤ longestName := short name List.mem_cons_self
    simp [walk, first, Nat.not_lt.mpr own]
  | cons second names ih =>
    obtain ⟨own, others⟩ := List.forall_mem_cons.mp short
    obtain ⟨next, later⟩ := List.forall_mem_cons.mp folders
    simp only [List.cons_append, walk, first, Nat.not_lt.mpr own, if_false]
    exact ih others next later

/-- Where nothing stands but folders, a way can only end too early. -/
theorem walk_of_clear (short : Short names) (clear : d.Clear (here :: along here names)) :
    d.walk here names = .ok (names.foldl enter here) ∨ d.walk here names = .error .missing := by
  induction names generalizing here with
  | nil => exact Or.inl rfl
  | cons name names ih =>
    obtain ⟨own, others⟩ := List.forall_mem_cons.mp short
    obtain ⟨first, later⟩ := List.forall_mem_cons.mp clear
    unfold walk
    rcases first with nothing | folder
    · exact Or.inr (by rw [nothing])
    · simp only [folder, Nat.not_lt.mpr own, if_false]
      exact ih others later

theorem makeFolder_of_clear (short : Short names) (some_names : names ≠ [])
    (clear : d.Clear (along [] names)) :
    (∃ made, d.makeFolder names = .ok made) ∨
      (d.makeFolder names = .error .exists ∧ d.isFolder names = true) ∨
        (d.makeFolder names = .error .missing ∧ d.walk [] names = .error .missing) := by
  have all : d.Clear ([] :: along [] names) :=
    List.forall_mem_cons.mpr ⟨Or.inr d.entry?_start, clear⟩
  rcases walk_of_clear short all with leads | missing
  · rcases clear _ (goal_mem_along some_names []) with nothing | folder
    · exact Or.inl ⟨_, by simp [makeFolder, leads, bind, Except.bind, nothing]; rfl⟩
    · refine Or.inr (Or.inl ⟨by simp [makeFolder, leads, bind, Except.bind, folder], ?_⟩)
      exact isFolder_iff.mpr ⟨_, leads, folder⟩
  · exact Or.inr (Or.inr ⟨by simp [makeFolder, missing, bind, Except.bind], missing⟩)

def upward (root names : List String) (n : Nat) : List (List String) :=
  (List.range n).reverse.map fun k => root ++ names.take (k + 1)

theorem upward_succ (root names : List String) (n : Nat) :
    upward root names (n + 1) = (root ++ names.take (n + 1)) :: upward root names n := by
  simp [upward, List.range_succ]

theorem Grown.clear {places more : List Place} (grown : Grown places d later) (clear : d.Clear more) :
    later.Clear more := by
  intro p on
  rcases grown p with same | ⟨_, _, folder⟩
  · rw [same]
    exact clear p on
  · exact Or.inr folder

theorem isFolder_folders (folder : d.isFolder names = true) :
    ∀ p ∈ along [] names, d.entry? p = some .folder := by
  obtain ⟨place, leads, stands⟩ := isFolder_iff.mp folder
  exact walk_folders leads d.entry?_start stands

/-- A folder is made where the folders before it have been made, if that was needed. -/
theorem makeNested_of_clear {around : List (List String)} (short : Short (names ++ [name]))
    (clear : d.Clear (along [] (names ++ [name])))
    (nested : ∃ before, d.makeNested around = (.ok (), before) ∧
      before.Clear (along [] (names ++ [name])) ∧
      ∀ p ∈ along [] names, before.entry? p = some .folder) :
    ∃ made, d.makeNested ((names ++ [name]) :: around) = (.ok (), made) := by
  obtain ⟨before, nested, still, folders⟩ := nested
  have some_names : names ++ [name] ≠ [] := by simp
  unfold makeNested
  rcases makeFolder_of_clear short some_names clear with ⟨made, done⟩ | ⟨stands, folder⟩ | ⟨missing, _⟩
  · exact ⟨made, by rw [done]⟩
  · exact ⟨d, by simp [stands, folder]⟩
  · rcases makeFolder_of_clear short some_names still with
      ⟨made, done⟩ | ⟨stands, folder⟩ | ⟨_, missing'⟩
    · exact ⟨made, by simp [missing, nested, done]⟩
    · exact ⟨before, by simp [missing, nested, stands, folder]⟩
    · rw [walk_of_folders short before.entry?_start folders] at missing'
      cases missing'

-- By induction on how far the way goes.
theorem makeNested_upward {root names : List String} (top : d.isFolder root = true)
    (short : Short (root ++ names)) (clear : d.Clear (along [] (root ++ names))) {n : Nat}
    (within : n ≤ names.length) :
    ∃ made, d.makeNested (upward root names n) = (.ok (), made) ∧
      ∀ p ∈ along [] (root ++ names.take n), made.entry? p = some .folder := by
  induction n with
  | zero =>
    refine ⟨d, rfl, ?_⟩
    rw [List.take_zero, List.append_nil]
    exact isFolder_folders top
  | succ n ih =>
    obtain ⟨before, nested, folders⟩ := ih (Nat.le_of_succ_le within)
    have longer : names.take (n + 1) = names.take n ++ [names[n]] :=
      List.take_succ_eq_append_getElem within
    have short' : Short (root ++ names.take (n + 1)) := by
      intro name stands
      refine short name ?_
      rcases List.mem_append.mp stands with first | later
      · exact List.mem_append_left _ first
      · exact List.mem_append_right _ (List.mem_of_mem_take later)
    have clear' : d.Clear (along [] (root ++ names.take (n + 1))) :=
      fun p on => clear p (along_take_subset [] root names (n + 1) on)
    have before_within : ∀ steps ∈ upward root names n, along [] steps ⊆ along [] (root ++ names) := by
      intro steps stands
      obtain ⟨k, _, rfl⟩ := List.mem_map.mp stands
      exact along_take_subset [] root names (k + 1)
    have grown : Grown (along [] (root ++ names)) d before := by
      simpa [nested] using makeNested_grown d before_within
    rw [upward_succ]
    rw [longer, ← List.append_assoc] at short' clear' ⊢
    obtain ⟨made, done⟩ :=
      makeNested_of_clear short' clear' ⟨before, nested, grown.clear clear', folders⟩
    exact ⟨made, done, isFolder_folders (makeNested_isFolder done)⟩

theorem isFolder_rootSteps (d : Directory) (path : String) : d.isFolder (rootSteps path) = true := by
  unfold rootSteps
  split
  · have top : d.entry? ["/"] = some .folder := entry?_fixed (Or.inl rfl)
    have leads : d.walk [] ["/"] = .ok ["/"] := by
      simp [walk, d.entry?_start, enter]
      decide
    exact isFolder_iff.mpr ⟨["/"], leads, top⟩
  · exact isFolder_iff.mpr ⟨[], rfl, d.entry?_start⟩

theorem clear_of_makeFolders (done : (d.makeFolders path).1 = .ok ()) :
    (path = "" ∨ pathFault? path = none) ∧ Short (steps path) ∧ d.Clear (way path) := by
  have has := makeFolders_hasFolder (Prod.ext done rfl)
  refine ⟨has.imp_right And.left, ?_, ?_⟩
  · rcases has with rfl | ⟨_, folder⟩
    · exact fun name stands => absurd stands List.not_mem_nil
    · obtain ⟨place, leads, _⟩ := isFolder_iff.mp folder
      exact walk_short leads
  · intro p on
    rcases makeFolders_grown d path p with same | ⟨_, nothing, _⟩
    · exact Or.inr (same.symm.trans (has.folders p on))
    · exact Or.inl nothing

theorem makeFolders_of_clear (noDots : filled path = FilePath.names path)
    (sound : path = "" ∨ pathFault? path = none) (short : Short (steps path))
    (clear : d.Clear (way path)) : (d.makeFolders path).1 = .ok () := by
  unfold makeFolders
  split
  · rfl
  rename_i some_path
  simp only [sound.resolve_left some_path]
  cases count : (FilePath.names path).length with
  | zero =>
    have only_root : steps path = rootSteps path := by
      rw [steps_eq, noDots, List.length_eq_zero_iff.mp count, List.append_nil]
    rw [only_root, makeNested_of_isFolder (d.isFolder_rootSteps path)]
  | succ n =>
    rw [way, steps_eq, noDots] at clear
    rw [steps_eq, noDots] at short
    obtain ⟨made, done, _⟩ :=
      makeNested_upward (d.isFolder_rootSteps path) short clear (Nat.le_refl _)
    have whole : steps path :: around path =
        upward (rootSteps path) (FilePath.names path) (n + 1) := by
      rw [upward_succ, ← count, List.take_length, steps_eq, noDots, around, count]
      rfl
    rw [whole, ← count, done]

/-- The folder of a path without dots can be made just when the path is sound and nothing but folders
stands on the way. -/
theorem makeFolders_ok_iff (noDots : filled path = FilePath.names path) :
    (d.makeFolders path).1 = .ok () ↔
      (path = "" ∨ pathFault? path = none) ∧ Short (steps path) ∧ d.Clear (way path) :=
  ⟨clear_of_makeFolders, fun ⟨sound, short, clear⟩ => makeFolders_of_clear noDots sound short clear⟩

end Testbook.Directory
