import Testbook.Answer.Written
import Testbook.Proofs.Action.Log
import Testbook.Proofs.Action.Sanitized
import Testbook.Proofs.Document.RoundTrip
import Testbook.Proofs.Json.Value
import Testbook.Request.Performed

/-! What is logged is read back: after the entries that were read before, and in the order in which it was
logged. Lines that cannot be read stay where they are and hide no other line. -/

set_option autoImplicit false

namespace Testbook

/-! ### One action -/

namespace Json

-- By induction on the depth: within a value stand values that are less deep.
theorem Regular.sanitized {deepest : Nat} {args : Json} (regular : Regular deepest args) :
    Regular deepest (Action.sanitized args) := by
  induction deepest using Nat.strongRecOn generalizing args with
  | ind deepest ih =>
    cases args with
    | list items =>
      rw [Action.sanitized]
      split
      · exact regular_text _ _
      obtain ⟨inner, less, each⟩ := regular_list.mp regular
      rw [Action.sanitizedItems_eq]
      exact regular_list.mpr ⟨inner, less, List.forall_mem_map.mpr fun item stands =>
        ih inner less (each item stands)⟩
    | record members =>
      obtain ⟨ascend, inner, less, each⟩ := regular_record.mp regular
      rw [Action.sanitized, Action.sanitizedMembers_eq]
      refine regular_record.mpr ⟨ascend.map _, inner, less, List.forall_mem_map.mpr ?_⟩
      intro member stands
      dsimp only
      split
      · exact regular_text _ _
      · exact ih inner less (each member stands)
    | text s => exact regular_text _ _
    | null => exact regular
    | bool b => exact regular
    | int n => exact regular
    | real x => exact regular

end Json

namespace Action

open Json

/-- An entry as the program makes one: of any command with any outcome, at any time and by anyone. Its
arguments hold no other numbers than whole ones of 64 bits and are nested a hundred levels deep at most, and
its duration has 64 bits. -/
inductive Recorded : Action → Prop where
  | record {args : Json} {duration : Nat} (now : Instant) (env : Variables) (command : String)
      (success : Bool) (error : Option String) (regular : args.Regular 100) (short : duration < 2 ^ 64) :
      Recorded (Action.record now env command args success error duration)

/-- What can be read back of an entry: arguments that are read whole within it, and a duration of 64 bits. -/
structure Legible (action : Action) : Prop where
  args : action.args.Regular (Tree.depthLimit - 1)
  short : action.duration < wordLimit

theorem Recorded.legible {action : Action} (recorded : Recorded action) : Legible action := by
  cases recorded with
  | record _ _ _ _ _ regular short =>
    have clean := regular.sanitized
    exact ⟨⟨clean.exact, clean.inOrder, Nat.le_trans clean.depth (by decide)⟩, short⟩

theorem argsOfTree?_tree {args : Json} (regular : args.Regular (Tree.depthLimit - 1)) :
    argsOfTree? args.tree = some args := by
  have depth := regular.depth
  have within : args.tree.depth + 1 ≤ Tree.depthLimit := by
    simp only [Tree.depthLimit] at depth ⊢
    omega
  rw [argsOfTree?, if_pos within, value?_tree args regular.exact regular.inOrder]

theorem Legible.ofTree?_json {action : Action} (legible : Legible action) :
    Action.ofTree? action.json.tree = some action := by
  have args := argsOfTree?_tree legible.args
  have duration := Document.nat?_ofInt legible.short
  obtain ⟨timestamp, command, _, success, error, _, user⟩ := action
  cases error <;>
    simp [Action.ofTree?, Action.json, Json.optional, Json.nat, tree, memberTrees, isWhole, args, duration]

theorem Legible.json_isExact {action : Action} (legible : Legible action) : action.json.isExact := by
  have args := legible.args.exact
  have duration : (Json.nat action.duration).isExact := by
    have short := legible.short
    simp only [Json.nat, isExact, Bool.and_eq_true, decide_eq_true_eq]
    omega
  cases error : action.error <;>
    simp [Action.json, isExact, membersExact, Json.optional, error, args, duration]

end Action

namespace ActionLog

open Directory FilePath

variable {d : Directory} {folder content : String} {action : Action}

theorem actions_append_line (ended : Text.Ended content.toList) (legible : action.Legible) :
    actions (content ++ line action) = actions content ++ [action] := by
  have lines : Text.records (content ++ line action).toList =
      Text.records content.toList ++ [Json.compactChars action.json] := by
    have isLine := Json.compactChars_isLine action.json
    rw [← Text.records_append_line ended isLine, line, Json.compact, String.toList_append,
      String.toList_append, String.toList_ofList]
    rfl
  have read : (Json.Tree.ofChars? (Json.compactChars action.json)).bind Action.ofTree? = some action := by
    rw [Json.compactChars_eq 0, Json.Tree.ofChars?_chars Json.Layout.compact 0 _ legible.json_isExact,
      Option.bind_some, legible.ofTree?_json]
  simp only [actions, lines, List.filterMap_append, List.filterMap_cons, List.filterMap_nil, read]

/-! ### The log in its folder -/

/-- The log of a folder can be written to, and it holds this text; no text without a log. -/
structure Contains (d : Directory) (folder content : String) : Prop where
  writable : Writable d folder
  content : (d.entry? (place folder) = none ∧ content = "") ∨ d.readText (path folder) = .ok content

namespace Contains

theorem cases (contains : Contains d folder content) :
    (d.entry? (place folder) = none ∧ content = "") ∨
      d.Stands (path folder) (place folder) (.file content.toByteArray) := by
  refine contains.content.imp_right fun read => ?_
  obtain ⟨entry, found, bytes⟩ := readText_eq_ok read
  obtain ⟨there, leads, holds⟩ := find_eq_ok found
  obtain rfl : there = place folder := place_goal leads
  have log := contains.writable.log
  rw [holds] at log
  cases entry with
  | file there =>
    cases bytes
    exact ⟨leads, holds, by simp⟩
  | table => exact absurd log id
  | folder => exact absurd log id

theorem written_eq (contains : Contains d folder content) : written d folder = content.toByteArray := by
  rcases contains.cases with ⟨nothing, rfl⟩ | stands
  · rw [written, nothing]
    rfl
  · rw [written, stands.holds]

theorem read_eq (contains : Contains d folder content) : read d folder = .ok (actions content) := by
  rcases contains.cases with ⟨nothing, rfl⟩ | stands
  · have missing : d.holds (path folder) = false := by
      unfold holds
      cases found : d.find (path folder) with
      | error fault => rfl
      | ok entry =>
        obtain ⟨there, leads, holds⟩ := find_eq_ok found
        obtain rfl : there = place folder := place_goal leads
        cases nothing.symm.trans holds
    simp [read, missing]
    rfl
  · simp [read, holds_of_find stands.find, stands.readText, Except.map]

-- The last byte is a line feed, and so the last character is one.
theorem ended (contains : Contains d folder content) : Text.Ended content.toList := by
  have bytes := contains.writable.ended
  rw [contains.written_eq, ActionLog.Ended, bytes_toByteArray] at bytes
  rcases List.eq_nil_or_concat content.toList with nothing | ⟨front, last, whole⟩
  · exact Or.inl nothing
  rw [List.concat_eq_append] at whole
  have some_bytes : String.utf8EncodeChar last ≠ [] := String.utf8EncodeChar_ne_nil
  rw [whole, List.flatMap_append, List.flatMap_singleton, List.getLast?_append_of_ne_nil _ some_bytes,
    List.getLast?_eq_some_getLast some_bytes] at bytes
  have feed_last : feed ∈ String.utf8EncodeChar last := by
    obtain same : (String.utf8EncodeChar last).getLast some_bytes = feed := by simpa using bytes
    exact same ▸ List.getLast_mem some_bytes
  exact Or.inr ⟨front, feed_mem_encoded feed_last ▸ whole⟩

theorem add (contains : Contains d folder content) (action : Action) :
    Contains (add d folder action) folder (content ++ line action) := by
  have writable := contains.writable
  obtain ⟨sound, _, apart, log⟩ := writable_iff.mp writable
  obtain ⟨made, _, same, folders, added⟩ := add_eq writable action
  have free : made.entry? (place folder) ≠ some .folder := by
    intro stands
    rw [same.symm.trans stands] at log
    exact log
  have reached : made.filePlace (path folder) = .ok (place folder) := by
    have walked := walk_of_folders (steps_path folder ▸ sound.short) made.entry?_start folders
    rw [← steps_path] at walked
    exact filePlace_eq_ok.mpr ⟨sound.plain, sound.noSlash, walked, free⟩
  have bytes : written d folder ++ (line action).toUTF8 = (content ++ line action).toByteArray := by
    rw [contains.written_eq, String.toUTF8_eq_toByteArray, String.toByteArray_append]
  rw [bytes] at added
  refine ⟨writable.add apart id action, Or.inr ?_⟩
  rw [added]
  exact (stands_put_file reached _).readText

/-- Whatever is added in a row is read after all that was read before. -/
theorem add_all (contains : Contains d folder content) {entries : List Action}
    (legible : ∀ entry ∈ entries, entry.Legible) :
    ∃ longer, Contains (entries.foldl (ActionLog.add · folder) d) folder longer ∧
      actions longer = actions content ++ entries := by
  induction entries generalizing d content with
  | nil => exact ⟨content, contains, (List.append_nil _).symm⟩
  | cons entry entries ih =>
    obtain ⟨first, others⟩ := List.forall_mem_cons.mp legible
    obtain ⟨longer, contains', read⟩ := ih (contains.add entry) others
    refine ⟨longer, contains', ?_⟩
    rw [read, actions_append_line contains.ended first, List.append_assoc, List.singleton_append]

end Contains

/-! ### What is asked for -/

/-- The last of all entries, as many as are asked for if there are so many; and so their number is told. -/
structure IsTail (limit : Nat) (all shown : List Action) : Prop where
  last : shown <:+ all
  length : shown.length = min limit all.length
  counted : ∃ list, (Answer.actions shown).json =
    .record [("actions", list), ("count", .nat (min limit all.length))]

theorem recent_isTail (limit : Nat) (all : List Action) : IsTail limit all (recent limit all) := by
  have length : (recent limit all).length = min limit all.length := by
    rw [recent, List.length_drop]
    omega
  exact ⟨List.drop_suffix _ _, length, _, by rw [Answer.json, Answer.count, length]⟩

/-- Whatever text of ended lines a log holds, after any entries were added they are read after those that were
read before, each as it was; and of all of them the last ones are shown, as many as are asked for. -/
theorem log_reads_back (contains : Contains d folder content) {entries : List Action}
    (recorded : ∀ entry ∈ entries, entry.Recorded) :
    let after := entries.foldl (add · folder) d
    ∃ before, read d folder = .ok before ∧ read after folder = .ok (before ++ entries) ∧
      ∀ (context : Context) (limit : Nat), context.dataFolder = folder →
        ∃ shown, FolderRequest.perform context after (.recentActions limit) =
            (.ok (.actions shown), after) ∧
          IsTail limit (before ++ entries) shown := by
  intro after
  obtain ⟨longer, contains', all⟩ := contains.add_all fun entry stands => (recorded entry stands).legible
  have read_after : read after folder = .ok (actions content ++ entries) := all ▸ contains'.read_eq
  refine ⟨actions content, contains.read_eq, read_after, ?_⟩
  rintro context limit rfl
  exact ⟨_, by rw [FolderRequest.perform, read_after]; rfl, recent_isTail limit _⟩

/-- A log of one line that cannot be read, and an entry with an error of two lines. -/
theorem log_reads_back_sample :
    let d : Directory := ⟨[(["data"], .folder), (["data", "action.log"], .file "?\n".toByteArray)]⟩
    let args : Json := .record [("ids", .list [.null, .int 9223372036854775808]), ("token", .null)]
    let entry := Action.record .epoch [] "run step" args false (some "Not\nfound") 12
    Contains d "data" "?\n" ∧ (∀ logged ∈ [entry], logged.Recorded) ∧
      ∃ before, read d "data" = .ok before ∧
        read (add d "data" entry) "data" = .ok (before ++ [entry]) := by
  intro d args entry
  have there : ActionLog.place "data" = ["data", "action.log"] := by decide +kernel
  have stands : d.Stands (path "data") (place "data") (.file "?\n".toByteArray) :=
    ⟨by decide +kernel, by rw [there]; rfl, by simp⟩
  have contains : Contains d "data" "?\n" := by
    have reached : ∃ place, (d.makeFolders (FilePath.parent (path "data"))).2.filePlace (path "data") =
        .ok place := ⟨["data", "action.log"], by decide +kernel⟩
    refine ⟨⟨by decide +kernel, reached, ?_⟩, Or.inr stands.readText⟩
    rw [stands.holds, IsLog, ActionLog.Ended]
    decide +kernel
  have ascend : Json.KeysAscend [("ids", .list [.null, .int 9223372036854775808]), ("token", .null)] :=
    List.pairwise_pair.mpr (by decide)
  have inOrder : args.InOrder := ⟨ascend, ⟨trivial, trivial, trivial⟩, trivial, trivial⟩
  have regular : args.Regular 100 := ⟨by decide, inOrder, by decide⟩
  have recorded : ∀ logged ∈ [entry], logged.Recorded :=
    List.forall_mem_singleton.mpr (.record .epoch [] "run step" false _ regular (by decide))
  obtain ⟨before, read_before, read_after, _⟩ := log_reads_back contains recorded
  exact ⟨contains, recorded, before, read_before, read_after⟩

end ActionLog

end Testbook
