import Testbook.Directory
import Testbook.Proofs.Except

/-! As long as folders stay folders, a way that leads somewhere leads there still. Writing to a place
where no folder stands therefore moves no other place, and making folders that are there does nothing. -/

set_option autoImplicit false

namespace Testbook.Directory

variable {d later : Directory} {here place : Place} {entry : Entry} {names : List String}
  {path : String}

def IsFixed (place : Place) : Prop := place = ["/"] ∨ place.all (· = "..") = true

theorem entry?_fixed (fixed : IsFixed place) : d.entry? place = some .folder :=
  if_pos fixed

theorem lookup_replaceOrAppend (entries : List (Place × Entry)) (place other : Place) :
    (replaceOrAppend (·.1 = place) (place, entry) entries).lookup other =
      if other = place then some entry else entries.lookup other := by
  induction entries with
  | nil =>
    by_cases hit : other = place
    · simp [replaceOrAppend, hit]
    · simp [replaceOrAppend, List.lookup_cons, hit, beq_false_of_ne hit]
  | cons first entries ih =>
    obtain ⟨place', entry'⟩ := first
    unfold replaceOrAppend
    by_cases hit : place' = place
    · subst hit
      by_cases same : other = place'
      · simp [same]
      · simp [List.lookup_cons, same, beq_false_of_ne same]
    · by_cases same : other = place'
      · subst same
        simp [hit]
      · simp [hit, List.lookup_cons, beq_false_of_ne same, ih]

theorem replaceOrAppend_lookup {entries : List (Place × Entry)}
    (found : entries.lookup place = some entry) :
    replaceOrAppend (·.1 = place) (place, entry) entries = entries := by
  induction entries with
  | nil => cases found
  | cons first entries ih =>
    obtain ⟨place', entry'⟩ := first
    unfold replaceOrAppend
    by_cases hit : place' = place
    · subst hit
      simpa using found.symm
    · have others : entries.lookup place = some entry := by
        simpa [List.lookup_cons, beq_false_of_ne (Ne.symm hit)] using found
      simp [hit, ih others]

theorem entry?_put (movable : ¬IsFixed place) (other : Place) :
    entry? (d.put place entry) other = if other = place then some entry else d.entry? other := by
  by_cases fixed : IsFixed other
  · have apart : other ≠ place := by
      rintro rfl
      exact movable fixed
    rw [if_neg apart, entry?_fixed fixed, entry?_fixed fixed]
  · have plain (d : Directory) : d.entry? other = d.entries.lookup other := if_neg fixed
    rw [plain, plain, put, lookup_replaceOrAppend]

theorem not_fixed (noFolder : d.entry? place ≠ some .folder) : ¬IsFixed place :=
  fun fixed => noFolder (entry?_fixed fixed)

/-! ### Folders that stay -/

def FoldersStay (d later : Directory) : Prop :=
  ∀ place, d.entry? place = some .folder → later.entry? place = some .folder

theorem foldersStay_put (noFolder : d.entry? place ≠ some .folder) (entry : Entry) :
    FoldersStay d (d.put place entry) := by
  intro other folder
  have apart : other ≠ place := by
    rintro rfl
    exact noFolder folder
  rw [entry?_put (not_fixed noFolder), if_neg apart, folder]

-- A walk asks of the directory only which places are folders, and of its last place not even that.
theorem FoldersStay.walk (stay : FoldersStay d later) (leads : d.walk here names = .ok place) :
    later.walk here names = .ok place := by
  induction names generalizing here with
  | nil => exact leads
  | cons name names ih =>
    unfold Directory.walk at leads ⊢
    split at leads
    · rename_i folder
      rw [stay here folder]
      split at leads
      · cases leads
      · rename_i short
        simp only [short, if_false]
        exact ih leads
    · cases leads
    · cases leads

theorem FoldersStay.leads (stay : FoldersStay d later) (leads : d.place path = .ok place) :
    later.place path = .ok place := by
  unfold Directory.place at leads ⊢
  split at leads
  · cases leads
  · exact stay.walk leads

theorem isFolder_iff :
    d.isFolder names = true ↔ ∃ place, d.walk [] names = .ok place ∧ d.entry? place = some .folder := by
  unfold isFolder
  cases walked : d.walk [] names with
  | error fault => simp [Except.map]
  | ok place =>
    cases found : d.entry? place with
    | none => simp [Except.map, found]
    | some entry => cases entry <;> simp [Except.map, found]

theorem FoldersStay.isFolder (stay : FoldersStay d later) (folder : d.isFolder names = true) :
    later.isFolder names = true := by
  obtain ⟨place, leads, stands⟩ := isFolder_iff.mp folder
  exact isFolder_iff.mpr ⟨place, stay.walk leads, stay place stands⟩

/-! ### Making folders -/

theorem makeFolder_isFolder (made : d.makeFolder names = .ok later) : later.isFolder names = true := by
  unfold makeFolder at made
  cases leads : d.walk [] names with
  | error fault => simp [leads, bind, Except.bind] at made
  | ok place =>
    simp only [leads, bind, Except.bind] at made
    cases found : d.entry? place with
    | some entry => simp [found] at made
    | none =>
      simp only [found, Except.ok.injEq] at made
      subst made
      have noFolder : d.entry? place ≠ some .folder := by simp [found]
      refine isFolder_iff.mpr ⟨place, (foldersStay_put noFolder .folder).walk leads, ?_⟩
      rw [entry?_put (not_fixed noFolder), if_pos rfl]

-- In each way to succeed the first folder has been made last, or has been found standing.
/-- Where the folders have been made, the first of them stands. -/
theorem makeNested_isFolder {around : List (List String)}
    (made : d.makeNested (names :: around) = (.ok (), later)) : later.isFolder names = true := by
  unfold makeNested at made
  dsimp only at made
  split at made
  · rename_i first
    cases made
    exact makeFolder_isFolder first
  · split at made
    · cases made
    · split at made
      · rename_i second
        cases made
        exact makeFolder_isFolder second
      · split at made
        · rename_i stands
          cases made
          exact stands
        · cases made
  · split at made
    · rename_i stands
      cases made
      exact stands
    · cases made

/-- The folder of a path is there, or none is asked for. -/
def HasFolder (d : Directory) (path : String) : Prop :=
  path = "" ∨ (pathFault? path = none ∧ d.isFolder (steps path) = true)

theorem FoldersStay.hasFolder (stay : FoldersStay d later) (has : d.HasFolder path) :
    later.HasFolder path :=
  has.imp_right fun asked => ⟨asked.1, stay.isFolder asked.2⟩

theorem makeFolders_hasFolder (made : d.makeFolders path = (.ok (), later)) : later.HasFolder path := by
  unfold makeFolders at made
  split at made
  · rename_i nothing
    exact Or.inl nothing
  · split at made
    · cases made
    · rename_i plain
      exact Or.inr ⟨plain, makeNested_isFolder made⟩

theorem makeNested_of_isFolder (folder : d.isFolder names = true) (around : List (List String)) :
    d.makeNested (names :: around) = (.ok (), d) := by
  obtain ⟨place, leads, stands⟩ := isFolder_iff.mp folder
  have exists_ : d.makeFolder names = .error .exists := by
    simp [makeFolder, leads, bind, Except.bind, stands]
  simp [makeNested, exists_, folder]

theorem makeFolders_of_hasFolder (has : d.HasFolder path) : d.makeFolders path = (.ok (), d) := by
  unfold makeFolders
  rcases has with nothing | ⟨plain, folder⟩
  · rw [if_pos nothing]
  · split
    · rfl
    · rw [plain]
      exact makeNested_of_isFolder folder _

/-! ### What stands at a path -/

structure Stands (d : Directory) (path : String) (place : Place) (entry : Entry) : Prop where
  leads : d.place path = .ok place
  holds : d.entry? place = some entry
  noFolder : entry ≠ .folder

theorem Stands.find (stands : d.Stands path place entry) : d.find path = .ok entry := by
  simp [Directory.find, stands.leads, stands.holds, bind, Except.bind]

theorem Stands.free (stands : d.Stands path place entry) : d.entry? place ≠ some .folder := by
  rw [stands.holds]
  exact fun same => stands.noFolder (Option.some.inj same)

theorem textOf_toByteArray (text : String) : textOf text.toByteArray = .ok text := by
  have read : String.fromUTF8? text.toByteArray = some text := by
    rw [String.fromUTF8?, dif_pos text.isValidUTF8]
    rfl
  rw [textOf, read]

theorem Stands.readText {text : String} (stands : d.Stands path place (.file text.toByteArray)) :
    d.readText path = .ok text := by
  simp [Directory.readText, readBytes, stands.find, Entry.bytes, textOf_toByteArray, bind, Except.bind]

theorem Stands.put_same (stands : d.Stands path place entry) : d.put place entry = d := by
  have found : d.entries.lookup place = some entry :=
    (if_neg (not_fixed stands.free)).symm.trans stands.holds
  have same := replaceOrAppend_lookup found
  rw [Directory.put, same]

theorem Stands.put (stands : d.Stands path place entry) {new : Entry} (noFolder : new ≠ .folder) :
    (d.put place new).Stands path place new where
  leads := (foldersStay_put stands.free new).leads stands.leads
  holds := by rw [entry?_put (not_fixed stands.free), if_pos rfl]
  noFolder := noFolder

theorem stands_put_new (leads : d.place path = .ok place) (nothing : d.entry? place = none)
    {new : Entry} (noFolder : new ≠ .folder) : (d.put place new).Stands path place new := by
  have free : d.entry? place ≠ some .folder := by simp [nothing]
  refine ⟨(foldersStay_put free new).leads leads, ?_, noFolder⟩
  rw [entry?_put (not_fixed free), if_pos rfl]

theorem filePlace_eq_ok :
    d.filePlace path = .ok place ↔
      pathFault? path = none ∧ asksFolder path = false ∧ d.walk [] (steps path) = .ok place ∧
        d.entry? place ≠ some .folder := by
  unfold filePlace
  split
  · rename_i fault
    simp [fault]
  rename_i plain
  split
  · rename_i slash
    cases walked : d.walk [] ((steps path).dropLast ++ ["."]) <;> simp [slash, Except.bind]
  rename_i noSlash
  rw [bind_eq_ok]
  constructor
  · rintro ⟨reached, leads, result⟩
    split at result
    · cases result
    · rename_i free
      cases result
      exact ⟨plain, by simpa using noSlash, leads, free⟩
  · rintro ⟨-, -, leads, free⟩
    refine ⟨place, leads, ?_⟩
    split
    · rename_i stands
      exact absurd stands free
    · rfl

/-- A file that is put there stands at the path. -/
theorem stands_put_file (reached : d.filePlace path = .ok place) (bytes : ByteArray) :
    (d.put place (.file bytes)).Stands path place (.file bytes) := by
  obtain ⟨plain, noSlash, leads, free⟩ := filePlace_eq_ok.mp reached
  have found : d.place path = .ok place := by
    simp [Directory.place, plain, noSlash, leads]
  refine ⟨(foldersStay_put free _).leads found, ?_, by simp⟩
  rw [entry?_put (not_fixed free), if_pos rfl]

theorem filePlace_put_file (reached : d.filePlace path = .ok place) (bytes : ByteArray) :
    (d.put place (.file bytes)).filePlace path = .ok place := by
  obtain ⟨plain, noSlash, leads, free⟩ := filePlace_eq_ok.mp reached
  exact filePlace_eq_ok.mpr
    ⟨plain, noSlash, (foldersStay_put free _).walk leads, (stands_put_file reached bytes).free⟩

theorem write_stands {bytes : ByteArray} (written : d.write path bytes = .ok later) :
    ∃ place, later.Stands path place (.file bytes) ∧ FoldersStay d later := by
  obtain ⟨place, reached, rfl⟩ := map_eq_ok.mp written
  obtain ⟨_, _, _, free⟩ := filePlace_eq_ok.mp reached
  exact ⟨place, stands_put_file reached bytes, foldersStay_put free _⟩

/-! ### What is found -/

theorem find_eq_ok (found : d.find path = .ok entry) :
    ∃ place, d.place path = .ok place ∧ d.entry? place = some entry := by
  obtain ⟨place, leads, found⟩ := bind_eq_ok.mp found
  refine ⟨place, leads, ?_⟩
  split at found
  · cases found
    assumption
  · cases found

theorem readText_eq_ok {text : String} (read : d.readText path = .ok text) :
    ∃ entry, d.find path = .ok entry ∧ entry.bytes = .ok text.toByteArray := by
  obtain ⟨bytes, found, isText⟩ := bind_eq_ok.mp read
  obtain ⟨entry, found, bytes_eq⟩ := bind_eq_ok.mp found
  refine ⟨entry, found, ?_⟩
  unfold textOf String.fromUTF8? at isText
  split at isText
  · rename_i text' valid
    split at valid
    · cases valid
      cases isText
      exact bytes_eq
    · cases valid
  · cases isText

theorem holds_of_find (found : d.find path = .ok entry) : d.holds path = true := by
  rw [holds, found]
  rfl

end Testbook.Directory
