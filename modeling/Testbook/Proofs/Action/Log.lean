import Testbook.Action.Log
import Testbook.Proofs.Directory.Clear
import Testbook.Proofs.Json.Line

/-! The action log in its folder. Where the folder can be made and the log written there, an action is
added as one line at its end, and that stays so whatever is added. -/

set_option autoImplicit false

namespace Testbook.ActionLog

open Directory FilePath

variable {d later last : Directory} {folder : String} {action : Action}

/-! ### Lines of bytes -/

def feed : UInt8 := 10

def lines (bytes : ByteArray) : List (List UInt8) := (bytes.data.toList.splitOn feed).dropLast

def Ended (bytes : ByteArray) : Prop := bytes.data.toList.getLast?.all (· = feed) = true

-- Of a character of several bytes each byte is 128 at least.
theorem feed_mem_encoded {c : Char} (stands : feed ∈ String.utf8EncodeChar c) : c = '\n' := by
  have value (n : Nat) (same : feed = UInt8.ofNat n) : n % 256 = 10 := by
    simpa [feed] using (congrArg UInt8.toNat same).symm
  unfold String.utf8EncodeChar at stands
  dsimp only at stands
  split at stands
  · rename_i small
    have code := value _ (List.mem_singleton.mp stands)
    have small' : c.val.toNat ≤ 127 := small
    exact Char.ext (UInt32.toNat_inj.mp (by simpa using (by omega : c.val.toNat = 10)))
  all_goals exfalso
  split at stands
  · simp only [List.mem_cons, List.not_mem_nil, or_false] at stands
    rcases stands with same | same
    all_goals
      have code := value _ same
      omega
  split at stands
  · simp only [List.mem_cons, List.not_mem_nil, or_false] at stands
    rcases stands with same | same | same
    all_goals
      have code := value _ same
      omega
  · simp only [List.mem_cons, List.not_mem_nil, or_false] at stands
    rcases stands with same | same | same | same
    all_goals
      have code := value _ same
      omega

theorem bytes_toByteArray (text : String) :
    text.toByteArray.data.toList = text.toList.flatMap String.utf8EncodeChar := by
  rw [← String.utf8Encode_toList, List.utf8Encode, List.data_toByteArray, List.toList_toArray]

theorem feed_not_mem {text : String} (noFeed : '\n' ∉ text.toList) :
    feed ∉ text.toByteArray.data.toList := by
  rw [bytes_toByteArray]
  intro stands
  obtain ⟨c, member, encoded⟩ := List.mem_flatMap.mp stands
  exact noFeed (feed_mem_encoded encoded ▸ member)

theorem bytes_append_line (bytes : ByteArray) (body : String) :
    (bytes ++ (body ++ "\n").toUTF8).data.toList =
      bytes.data.toList ++ (body.toByteArray.data.toList ++ [feed]) := by
  have end_ : "\n".toByteArray.data.toList = [feed] := by
    rw [bytes_toByteArray]
    decide
  rw [String.toUTF8_eq_toByteArray, String.toByteArray_append, ByteArray.toList_data_append,
    ByteArray.toList_data_append, end_]

theorem ended_append_line (bytes : ByteArray) (body : String) :
    Ended (bytes ++ (body ++ "\n").toUTF8) := by
  rw [Ended, bytes_append_line, ← List.append_assoc, List.getLast?_concat]
  rfl

theorem lines_append_line {bytes : ByteArray} (ended : Ended bytes) {body : String}
    (noFeed : '\n' ∉ body.toList) :
    lines (bytes ++ (body ++ "\n").toUTF8) = lines bytes ++ [body.toByteArray.data.toList] := by
  have one : (body.toByteArray.data.toList ++ [feed]).splitOn feed =
      [body.toByteArray.data.toList, []] := by
    rw [List.splitOn_append_cons_self_of_not_mem (feed_not_mem noFeed)]
    rfl
  rw [lines, bytes_append_line, lines]
  rcases List.eq_nil_or_concat bytes.data.toList with nothing | ⟨front, last, whole⟩
  · rw [nothing, List.nil_append, one]
    rfl
  · rw [List.concat_eq_append] at whole
    obtain rfl : last = feed := by simpa [Ended, whole] using ended
    rw [whole, List.append_assoc, List.singleton_append, List.splitOn_append_cons_self front,
      List.splitOn_append_cons_self front [], one]
    simp

/-! ### Where the log can be written -/

theorem fileName_isFileName : IsFileName fileName :=
  ⟨⟨by decide, by decide⟩, by decide, by decide⟩

def place (folder : String) : Place := goal (path folder)

theorem place_eq (folder : String) : place folder = goal folder ++ [fileName] :=
  goal_join folder fileName_isFileName

def written (d : Directory) (folder : String) : ByteArray :=
  match d.entry? (place folder) with
  | some (.file bytes) => bytes
  | _ => .empty

def IsLog : Option Entry → Prop
  | none => True
  | some (.file bytes) => Ended bytes
  | some _ => False

/-- The folder can be made, the log can then be written there, and its last line, if there is one, is
ended. -/
structure Writable (d : Directory) (folder : String) : Prop where
  made : (d.makeFolders (FilePath.parent (path folder))).1 = .ok ()
  reached : ∃ place, (d.makeFolders (FilePath.parent (path folder))).2.filePlace (path folder) = .ok place
  log : IsLog (d.entry? (place folder))

structure Sound (folder : String) : Prop where
  within : FilePath.parent (path folder) = "" ∨ pathFault? (FilePath.parent (path folder)) = none
  plain : pathFault? (path folder) = none
  noSlash : asksFolder (path folder) = false
  short : Short (steps (path folder))

theorem steps_parent (folder : String) :
    steps (FilePath.parent (path folder)) = rootSteps folder ++ FilePath.names folder ∧
      FilePath.names (FilePath.parent (path folder)) = FilePath.names folder :=
  steps_parent_join folder fileName_isFileName

theorem parent_noDots (folder : String) :
    filled (FilePath.parent (path folder)) = FilePath.names (FilePath.parent (path folder)) := by
  rw [(steps_parent folder).2, filled_parent, path, names_eq (join folder fileName),
    filled_join folder fileName_isFileName.toIsName, List.filter_append, names_eq]
  simp [fileName]

-- The dots of the path make the only difference, and they lead nowhere else.
theorem way_parent_subset (folder : String) : way (FilePath.parent (path folder)) ⊆ way folder := by
  rw [way, way, (steps_parent folder).1, steps_eq, along_append, along_append, names_eq]
  exact List.append_subset.mpr ⟨List.subset_append_left _ _,
    List.Subset.trans (along_noDots_subset _ _) (List.subset_append_right _ _)⟩

theorem way_subset_parent (folder : String) :
    way folder ⊆ [] :: way (FilePath.parent (path folder)) := by
  have noDots : (steps folder).filter (· ≠ ".") = rootSteps folder ++ FilePath.names folder := by
    rw [steps_eq, List.filter_append, names_eq, rootSteps]
    split <;> rfl
  rw [way, way, (steps_parent folder).1, ← noDots]
  exact along_subset_noDots [] (steps folder)

theorem HasFolder.log_folders (has : d.HasFolder (FilePath.parent (path folder))) :
    ∀ p ∈ way folder, d.entry? p = some .folder := by
  intro p on
  rcases List.mem_cons.mp (way_subset_parent folder on) with rfl | on'
  · exact d.entry?_start
  · exact has.folders p on'

theorem steps_path (folder : String) : steps (path folder) = steps folder ++ [fileName] :=
  steps_join folder fileName_isFileName.toIsName

theorem Sound.short_parent (sound : Sound folder) : Short (steps (FilePath.parent (path folder))) := by
  intro name stands
  refine sound.short name ?_
  rw [(steps_parent folder).1] at stands
  rw [steps_path, steps_eq]
  refine List.mem_append_left _ ?_
  rcases List.mem_append.mp stands with root | named
  · exact List.mem_append_left _ root
  · rw [names_eq] at named
    exact List.mem_append_right _ (List.mem_filter.mp named).1

/-- What can be written to is told by what stands on the way and at the end of it. -/
theorem writable_iff : Writable d folder ↔
    Sound folder ∧ d.Clear (way folder) ∧ place folder ∉ way folder ∧
      IsLog (d.entry? (place folder)) := by
  have grown := makeFolders_grown d (FilePath.parent (path folder))
  constructor
  · intro writable
    obtain ⟨within, _, clear⟩ := (makeFolders_ok_iff (parent_noDots folder)).mp writable.made
    have folders := HasFolder.log_folders (makeFolders_hasFolder (Prod.ext writable.made rfl))
    obtain ⟨there, written⟩ := writable.reached
    obtain ⟨plain, noSlash, leads, free⟩ := filePlace_eq_ok.mp written
    obtain rfl : there = place folder := walk_goal leads
    refine ⟨⟨within, plain, noSlash, walk_short leads⟩, ?_, fun on => free (folders _ on), writable.log⟩
    intro p on
    rcases List.mem_cons.mp (way_subset_parent folder on) with rfl | on'
    · exact Or.inr d.entry?_start
    · exact clear p on'
  · rintro ⟨sound, clear, apart, log⟩
    have made : (d.makeFolders (FilePath.parent (path folder))).1 = .ok () :=
      (makeFolders_ok_iff (parent_noDots folder)).mpr
        ⟨sound.within, sound.short_parent, fun p on => clear p (way_parent_subset folder on)⟩
    have folders := HasFolder.log_folders (makeFolders_hasFolder (Prod.ext made rfl))
    have leads : (d.makeFolders (FilePath.parent (path folder))).2.walk [] (steps (path folder)) =
        .ok (place folder) := by
      rw [place, goal, steps_path]
      exact walk_of_folders (steps_path folder ▸ sound.short) (entry?_start _) folders
    have free : Directory.entry? (d.makeFolders (FilePath.parent (path folder))).2 (place folder) ≠
        some .folder := by
      rcases grown (place folder) with same | ⟨on, _, _⟩
      · intro stands
        rw [same.symm.trans stands] at log
        exact log
      · exact absurd (way_parent_subset folder on) apart
    exact ⟨made, ⟨place folder, filePlace_eq_ok.mpr ⟨sound.plain, sound.noSlash, leads, free⟩⟩, log⟩

/-! ### What leaves the log alone -/

def Passes (folder : String) (d later : Directory) : Prop :=
  ∀ p ∈ way folder, later.entry? p = d.entry? p ∨
    (d.entry? p = none ∧ later.entry? p = some .folder)

structure Spares (folder : String) (d later : Directory) : Prop where
  log : later.entry? (place folder) = d.entry? (place folder)
  passes : Passes folder d later

/-- Whatever is done to the log itself, as long as it is one. -/
theorem Writable.carry (writable : Writable d folder) (passes : Passes folder d later)
    (log : IsLog (later.entry? (place folder))) : Writable later folder := by
  obtain ⟨sound, clear, apart, _⟩ := writable_iff.mp writable
  refine writable_iff.mpr ⟨sound, ?_, apart, log⟩
  intro p on
  rcases passes p on with same | ⟨_, folder⟩
  · rw [same]
    exact clear p on
  · exact Or.inr folder

theorem Writable.spared (writable : Writable d folder) (spares : Spares folder d later) :
    Writable later folder :=
  writable.carry spares.passes (spares.log ▸ writable.log)

theorem Passes.trans (first : Passes folder d later) (second : Passes folder later last) :
    Passes folder d last := by
  intro p on
  rcases second p on with same | ⟨nothing, stands⟩
  · rw [same]
    exact first p on
  · rcases first p on with same' | ⟨_, stands'⟩
    · exact Or.inr ⟨same'.symm.trans nothing, stands⟩
    · rw [stands'] at nothing
      cases nothing

theorem Passes.of_grown {places : List Place} (grown : Grown places d later) : Passes folder d later :=
  fun p _ => (grown p).imp_right And.right

namespace Spares

theorem refl (folder : String) (d : Directory) : Spares folder d d := ⟨rfl, fun _ _ => Or.inl rfl⟩

theorem trans (first : Spares folder d later) (second : Spares folder later last) :
    Spares folder d last :=
  ⟨second.log.trans first.log, first.passes.trans second.passes⟩

theorem of_grown {places : List Place} (grown : Grown places d later)
    (apart : place folder ∉ places) : Spares folder d later where
  log := (grown (place folder)).resolve_right fun ⟨on, _⟩ => apart on
  passes := .of_grown grown

theorem put {there : Place} (movable : ¬IsFixed there) (entry : Entry) (apart : there ≠ place folder)
    (off : there ∉ way folder) : Spares folder d (d.put there entry) where
  log := by rw [entry?_put movable, if_neg apart.symm]
  passes := by
    intro p on
    have other : p ≠ there := ne_of_mem_of_not_mem on off
    exact Or.inl (by rw [entry?_put movable, if_neg other])

end Spares

/-! ### Adding an action -/

theorem add_eq (writable : Writable d folder) (action : Action) :
    ∃ made, Grown (way folder) d made ∧ made.entry? (place folder) = d.entry? (place folder) ∧
      (∀ p ∈ way folder, made.entry? p = some .folder) ∧
      add d folder action =
        made.put (place folder) (.file (written d folder ++ (line action).toUTF8)) := by
  obtain ⟨_, _, apart, log⟩ := writable_iff.mp writable
  obtain ⟨there, reached⟩ := writable.reached
  have grown := makeFolders_grown d (FilePath.parent (path folder))
  rcases done : d.makeFolders (FilePath.parent (path folder)) with ⟨answer, made⟩
  obtain rfl : answer = .ok () := by simpa [done] using writable.made
  rw [done] at reached grown
  obtain rfl : there = place folder := walk_goal (filePlace_eq_ok.mp reached).2.2.1
  have same : made.entry? (place folder) = d.entry? (place folder) := by
    rcases grown (place folder) with same | ⟨on, _, _⟩
    · exact same
    · exact absurd (way_parent_subset folder on) apart
  have folders := HasFolder.log_folders (makeFolders_hasFolder done)
  refine ⟨made, grown.mono (way_parent_subset folder), same, folders, ?_⟩
  have appended : made.append (path folder) (line action).toUTF8 =
      .ok (made.put (place folder) (.file (written d folder ++ (line action).toUTF8))) := by
    simp only [append, reached, same, written, bind, Except.bind]
    cases stands : d.entry? (place folder) with
    | none => simp
    | some entry =>
      rw [stands] at log
      cases entry with
      | file bytes => rfl
      | table => exact absurd log id
      | folder => exact absurd log id
  rw [add, done]
  simp only [appended]
  rfl

theorem written_add (writable : Writable d folder) (action : Action) :
    written (add d folder action) folder = written d folder ++ (line action).toUTF8 := by
  obtain ⟨made, _, same, _, added⟩ := add_eq writable action
  have free : made.entry? (place folder) ≠ some .folder := by
    intro stands
    have log := writable.log
    rw [same.symm.trans stands] at log
    exact log
  rw [added, written, entry?_put (not_fixed free), if_pos rfl]

theorem Writable.ended (writable : Writable d folder) : Ended (written d folder) := by
  have log := writable.log
  unfold written
  split
  · rename_i stands
    rw [stands] at log
    exact log
  · rfl

theorem lines_add (writable : Writable d folder) (action : Action) :
    lines (written (add d folder action) folder) =
      lines (written d folder) ++ [action.json.compact.toByteArray.data.toList] := by
  have noFeed : '\n' ∉ action.json.compact.toList := by
    rw [Json.compact, String.toList_ofList]
    exact (Json.compactChars_isLine action.json).noFeed
  rw [written_add writable action]
  exact lines_append_line writable.ended noFeed

/-- Adding an action to any log changes nothing but this log, apart from folders on the way to it. -/
theorem add_cases (d : Directory) (folder : String) (action : Action) :
    ∃ made, Grown (way folder) d made ∧
      (add d folder action = made ∨
        ∃ bytes, (∀ p ∈ way folder, made.entry? p = some .folder) ∧
          made.entry? (place folder) ≠ some .folder ∧
          add d folder action =
            made.put (place folder) (.file (bytes ++ (line action).toUTF8))) := by
  rcases done : d.makeFolders (FilePath.parent (path folder)) with ⟨answer, made⟩
  have grown : Grown (way folder) d made := by
    have small := makeFolders_grown d (FilePath.parent (path folder))
    rw [done] at small
    exact small.mono (way_parent_subset folder)
  refine ⟨made, grown, ?_⟩
  cases answer with
  | error fault => exact Or.inl (by rw [add, done])
  | ok =>
    have folders := HasFolder.log_folders (makeFolders_hasFolder done)
    cases appended : made.append (path folder) (line action).toUTF8 with
    | error fault =>
      refine Or.inl ?_
      rw [add, done]
      simp only [appended]
      rfl
    | ok after =>
      have added : add d folder action = after := by
        rw [add, done]
        simp only [appended]
        rfl
      obtain ⟨there, reached, put⟩ := bind_eq_ok.mp appended
      obtain ⟨_, _, leads, free⟩ := filePlace_eq_ok.mp reached
      obtain rfl : there = place folder := walk_goal leads
      refine Or.inr ?_
      rw [added]
      split at put
      · obtain ⟨bytes, _, same⟩ := bind_eq_ok.mp put
        cases same
        exact ⟨bytes, folders, free, rfl⟩
      · cases put
        exact ⟨.empty, folders, free, by rw [ByteArray.empty_append]⟩

/-- A log can be written to after an action was added to it, or to another log that is kept apart. -/
theorem Writable.add (writable : Writable d folder) {other : String} (apart : place folder ∉ way other)
    (own : place other ∈ way folder → place other ∈ way other) (action : Action) :
    Writable (add d other action) folder := by
  obtain ⟨made, grown, added | ⟨bytes, folders, free, added⟩⟩ := add_cases d other action
  · rw [added]
    exact writable.spared (.of_grown grown apart)
  have still := writable.spared (.of_grown grown apart)
  have off : place other ∉ way folder := fun on => free (folders _ (own on))
  rw [added]
  by_cases same : place other = place folder
  · refine still.carry ?_ ?_
    · intro p on
      have elsewhere : p ≠ place other := ne_of_mem_of_not_mem on off
      exact Or.inl (by rw [entry?_put (not_fixed free), if_neg elsewhere])
    · rw [entry?_put (not_fixed free), if_pos same.symm]
      exact ended_append_line bytes action.json.compact
  · exact still.spared (.put (not_fixed free) _ same off)

end Testbook.ActionLog
