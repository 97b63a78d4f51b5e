import Testbook.Proofs.Document.Fits
import Testbook.Proofs.Json.Line
import Testbook.Proofs.Store.Shelf
import Testbook.Store.Log

/-! A log tells of the projects that were written to it and not removed after. Writing a line is one
more step of its replay, and rewriting it changes nothing but the order. -/

set_option autoImplicit false

namespace Testbook

open Json

def LogRecord.Fits : LogRecord → Prop
  | project p => ∀ run ∈ p.runs, run.summary.Fits
  | removal _ _ => True

namespace LogRecord

theorem json_isExact (record : LogRecord) (fits : record.Fits) : record.json.isExact := by
  cases record with
  | removal id deleted => rfl
  | project p => exact p.json_isExact fits

/-- A project has no member that tells of a removal. -/
theorem removalOfTree?_project (p : Project) : removalOfTree? p.json.tree = none := by
  obtain ⟨id, name, description, features, runs⟩ := p
  cases description <;>
    simp [removalOfTree?, Project.json, Json.optional, tree, memberTrees, Document.required]

theorem ofTree?_json (record : LogRecord) (fits : record.Fits) :
    ofTree? record.json.tree = some record := by
  cases record with
  | removal id deleted =>
    simp [ofTree?, removalOfTree?, json, tree, memberTrees]
  | project p =>
    rw [ofTree?, json, removalOfTree?_project, p.ofTree?_json fits]
    rfl

theorem depth_le (record : LogRecord) : record.json.tree.depth ≤ Tree.depthLimit := by
  cases record with
  | removal id deleted => simp [json, tree, memberTrees, Tree.depth, Tree.memberDepths, Tree.depthLimit]
  | project p => exact Nat.le_trans p.json_depth_le (by decide)

theorem ofLine?_tree {record : LogRecord} (fits : record.Fits) {line : List Char}
    (read : Tree.ofChars? line = some record.json.tree) : ofLine? line = some record := by
  have exact := record.json_isExact fits
  simp only [ofLine?, read, Option.bind_eq_bind, Option.bind_some]
  rw [if_pos ⟨record.depth_le, value?_tree_isSome _ exact⟩, record.ofTree?_json fits]

theorem ofLine?_compactChars (record : LogRecord) (fits : record.Fits) :
    ofLine? (compactChars record.json) = some record := by
  refine ofLine?_tree fits ?_
  rw [compactChars_eq 0]
  exact Tree.ofChars?_chars Layout.compact 0 record.json (record.json_isExact fits)

theorem compactChars_not_blank (record : LogRecord) :
    (compactChars record.json).all Text.isBlank = false := by
  cases record with
  | removal id deleted => simp [json, compactChars, Text.isBlank]
  | project p => simp [json, Project.json, compactChars, Text.isBlank]

end LogRecord

namespace Log

theorem toList_line (record : LogRecord) :
    (line record).toList = compactChars record.json ++ ['\n'] := by
  simp [line, compact]

/-- A record is written on to what stands after the last line feed, and one line comes of it. -/
theorem replay_append_torn {front : String} (ended : Text.Ended front.toList) {torn : List Char}
    (noFeed : '\n' ∉ torn) (record : LogRecord) :
    replay (front ++ String.ofList torn ++ line record) =
      apply (replay front) (torn ++ compactChars record.json) := by
  have visible := record.compactChars_not_blank
  have some_body : compactChars record.json ≠ [] := by
    intro nothing
    simp [nothing] at visible
  have isLine := (compactChars_isLine record.json).after noFeed some_body
  have appended : lines (front ++ String.ofList torn ++ line record) =
      lines front ++ [torn ++ compactChars record.json] := by
    rw [lines, lines, String.toList_append, String.toList_append, String.toList_ofList, toList_line,
      List.append_assoc, ← List.append_assoc torn, Text.records_append_line ended isLine,
      List.filter_append]
    simp [visible]
  rw [replay, replay, appended, List.foldl_append, List.foldl_cons, List.foldl_nil]

theorem replay_append_line {content : String} (ended : Text.Ended content.toList)
    (record : LogRecord) :
    replay (content ++ line record) = apply (replay content) (compactChars record.json) := by
  have nothing : '\n' ∉ ([] : List Char) := List.not_mem_nil
  simpa using replay_append_torn ended nothing record

theorem apply_project (shelf : List Project) {p : Project}
    (fits : ∀ run ∈ p.runs, run.summary.Fits) :
    apply shelf (compactChars p.json) = Shelf.put shelf p := by
  have read := LogRecord.ofLine?_compactChars (.project p) fits
  simp only [LogRecord.json] at read
  simp [apply, read]

theorem apply_removal (shelf : List Project) (id : String) :
    apply shelf (compactChars (LogRecord.removal id true).json) = Shelf.remove shelf id := by
  simp [apply, LogRecord.ofLine?_compactChars (.removal id true) trivial]

theorem ended_append (content : String) (record : LogRecord) :
    Text.Ended (content ++ line record).toList := by
  rw [String.toList_append, toList_line]
  exact Text.ended_append_line _ _

theorem replay_append_project {content : String} (ended : Text.Ended content.toList) {p : Project}
    (fits : ∀ run ∈ p.runs, run.summary.Fits) :
    replay (content ++ line (.project p)) = Shelf.put (replay content) p := by
  rw [replay_append_line ended (.project p), LogRecord.json, apply_project _ fits]

/-! ### Rewriting -/

theorem toList_join_lines (projects : List Project) :
    (String.join (projects.map (line ∘ .project))).toList =
      (projects.map fun p => compactChars p.json).flatMap (· ++ ['\n']) := by
  induction projects with
  | nil => simp
  | cons p projects ih => simp [String.join_cons, ih, toList_line, LogRecord.json]

theorem records_join_lines (projects : List Project) :
    Text.records (String.join (projects.map (line ∘ .project))).toList =
      projects.map fun p => compactChars p.json := by
  rw [toList_join_lines]
  refine Text.records_flatMap ?_
  intro body member
  obtain ⟨p, stands, rfl⟩ := List.mem_map.mp member
  exact compactChars_isLine _

theorem lines_join_lines (projects : List Project) :
    lines (String.join (projects.map (line ∘ .project))) =
      projects.map fun p => compactChars p.json := by
  rw [lines, records_join_lines, List.filter_eq_self]
  intro body member
  obtain ⟨p, _, rfl⟩ := List.mem_map.mp member
  simpa [LogRecord.json] using (LogRecord.project p).compactChars_not_blank

/-- Lines of projects that are told apart by their ids tell of just these. -/
theorem foldl_apply_projects {shelf projects : List Project}
    (fits : ∀ p ∈ projects, ∀ run ∈ p.runs, run.summary.Fits)
    (distinct : Shelf.Distinct (shelf ++ projects)) :
    (projects.map fun p => compactChars p.json).foldl apply shelf = shelf ++ projects := by
  induction projects generalizing shelf with
  | nil => simp
  | cons p projects ih =>
    have fresh : ∀ q ∈ shelf, q.id ≠ p.id := by
      intro q member
      unfold Shelf.Distinct at distinct
      rw [List.map_append, List.nodup_append'] at distinct
      intro same
      exact distinct.2.2 (List.mem_map_of_mem member) (by simp [same])
    rw [List.map_cons, List.foldl_cons, apply_project shelf (fits p List.mem_cons_self),
      Shelf.put_fresh fresh]
    rw [ih (fun q member => fits q (List.mem_cons_of_mem p member)) (by simpa using distinct)]
    simp

theorem replay_rewritten {content : String} (distinct : Shelf.Distinct (replay content))
    (fits : ∀ p ∈ replay content, ∀ run ∈ p.runs, run.summary.Fits) :
    replay (rewritten content) = (replay content).mergeSort fun a b => a.id ≤ b.id := by
  have perm := List.mergeSort_perm (replay content) fun a b => a.id ≤ b.id
  have all : ∀ p ∈ (replay content).mergeSort fun a b => a.id ≤ b.id,
      ∀ run ∈ p.runs, run.summary.Fits := fun p member => fits p (perm.mem_iff.mp member)
  rw [replay, rewritten, lines_join_lines, foldl_apply_projects all (distinct.perm perm.symm),
    List.nil_append]

theorem ended_rewritten (content : String) : Text.Ended (rewritten content).toList := by
  rw [rewritten, toList_join_lines]
  exact Text.ended_flatMap _

end Log

-- The order is left open, since a rewritten log tells of its projects by id.
/-- A log of ended lines that tells of these projects, in some order. -/
structure Log.Tells (content : String) (live : List Project) : Prop where
  ended : Text.Ended content.toList
  replay : (Log.replay content).Perm live

namespace Log.Tells

variable {content : String} {live : List Project}

theorem empty : Tells "" [] := ⟨Or.inl rfl, List.Perm.refl []⟩

theorem project (tells : Tells content live) (distinct : Shelf.Distinct live) {p : Project}
    (fits : p.Fits) : Tells (content ++ line (.project p)) (Shelf.put live p) where
  ended := ended_append content _
  replay := by
    rw [replay_append_project tells.ended fits.summaries]
    exact Shelf.put_perm (distinct.perm tells.replay.symm) tells.replay p

theorem removal (tells : Tells content live) (id : String) :
    Tells (content ++ line (.removal id true)) (Shelf.remove live id) where
  ended := ended_append content _
  replay := by
    rw [replay_append_line tells.ended (.removal id true), apply_removal]
    exact Shelf.remove_perm tells.replay id

theorem rewritten (tells : Tells content live) (distinct : Shelf.Distinct live)
    (fits : ∀ p ∈ live, p.Fits) : Tells (Log.rewritten content) live where
  ended := ended_rewritten content
  replay := by
    rw [replay_rewritten (distinct.perm tells.replay.symm) fun p member =>
      (fits p (tells.replay.mem_iff.mp member)).summaries]
    exact (List.mergeSort_perm _ _).trans tells.replay

theorem get? (tells : Tells content live) (distinct : Shelf.Distinct live) (id : String) :
    Shelf.get? (Log.replay content) id = Shelf.get? live id :=
  Shelf.get?_perm (distinct.perm tells.replay.symm) tells.replay id

theorem listed (tells : Tells content live) (distinct : Shelf.Distinct live) :
    Shelf.listed (Log.replay content) = Shelf.listed live :=
  Shelf.listed_perm (distinct.perm tells.replay.symm) tells.replay

end Log.Tells

end Testbook
