import Testbook.Proofs.Json.Torn
import Testbook.Proofs.Store.Ready

/-! Writing to a log, whatever stands in it. A record is written at the end of the text, and so on to a
last line that is not ended. If this line is blank, nothing is lost. Otherwise the line that comes of it
cannot be read: the record is lost, and whatever the last line told. -/

set_option autoImplicit false

namespace Testbook

open Json

theorem Json.isBlank_of_isSpace {c : Char} (space : isSpace c = true) : Text.isBlank c = true := by
  simp only [isSpace, Bool.or_eq_true, beq_iff_eq] at space
  rcases space with ((rfl | rfl) | rfl) | rfl <;> rfl

namespace LogRecord

/-- All records tell of an id first. -/
theorem compactChars_idRecord (record : LogRecord) : ∃ tail, compactChars record.json = idRecord tail := by
  cases record with
  | removal id deleted => exact ⟨_, rfl⟩
  | project p => exact ⟨_, rfl⟩

variable {record : LogRecord} (fits : record.Fits) {torn : List Char}

include fits

theorem ofLine?_blank (blank : torn.all isSpace) :
    ofLine? (torn ++ compactChars record.json) = some record :=
  ofLine?_tree fits (Tree.ofChars?_blank (record.json_isExact fits) blank)

theorem ofLine?_torn (solid : torn.all isSpace = false) :
    ofLine? (torn ++ compactChars record.json) = none := by
  obtain ⟨tail, begins⟩ := record.compactChars_idRecord
  simp [ofLine?, Tree.ofChars?_torn (record.json_isExact fits) begins solid]

end LogRecord

namespace Log

theorem replay_append_blank {front : String} (ended : Text.Ended front.toList) {torn : List Char}
    (noFeed : '\n' ∉ torn) (blank : torn.all isSpace) :
    replay (front ++ String.ofList torn) = replay front := by
  have unread : torn.all Text.isBlank := by
    rw [List.all_eq_true] at blank ⊢
    exact fun c member => isBlank_of_isSpace (blank c member)
  have same : lines (front ++ String.ofList torn) = lines front := by
    rw [lines, lines, String.toList_append, String.toList_ofList,
      Text.records_append_open ended noFeed, List.filter_append]
    split <;> simp [unread]
  rw [replay, replay, same]

def endedPart (content : String) : String := String.ofList (content.toList.rdropWhile (· ≠ '\n'))

def lastLine (content : String) : List Char := content.toList.rtakeWhile (· ≠ '\n')

theorem endedPart_append_lastLine (content : String) :
    endedPart content ++ String.ofList (lastLine content) = content := by
  rw [endedPart, lastLine, ← String.ofList_append, List.rdropWhile_append_rtakeWhile,
    String.ofList_toList]

/-- A record that is written to any log is one more step, or is lost with the last line. -/
theorem replay_append_any (content : String) (record : LogRecord) (fits : record.Fits) :
    replay (content ++ line record) =
      if (lastLine content).all isSpace then apply (replay content) (compactChars record.json)
      else replay (endedPart content) := by
  have ended : Text.Ended (endedPart content).toList := by
    rw [endedPart, String.toList_ofList]
    exact Text.ended_rdropWhile _
  have noFeed := Text.noFeed_rtakeWhile content.toList
  have written := replay_append_torn ended noFeed record
  rw [← lastLine, endedPart_append_lastLine] at written
  rw [written]
  cases blank : (lastLine content).all isSpace with
  | true =>
    have before := replay_append_blank ended noFeed blank
    rw [← lastLine, endedPart_append_lastLine] at before
    rw [if_pos rfl, apply, apply, LogRecord.ofLine?_blank fits blank,
      record.ofLine?_compactChars fits, before]
  | false => simp [apply, LogRecord.ofLine?_torn fits blank]

theorem get?_append_project (content : String) {p : Project}
    (fits : ∀ run ∈ p.runs, run.summary.Fits) (id : String) :
    Shelf.get? (replay (content ++ line (.project p))) id =
      if (lastLine content).all isSpace then
        if id = p.id then some p else Shelf.get? (replay content) id
      else Shelf.get? (replay (endedPart content)) id := by
  rw [replay_append_any content (.project p) fits]
  split
  · rw [LogRecord.json, apply_project _ fits, Shelf.get?_put]
  · rfl

theorem get?_append_removal (content gone id : String) :
    Shelf.get? (replay (content ++ line (.removal gone true))) id =
      if (lastLine content).all isSpace then
        if id = gone then none else Shelf.get? (replay content) id
      else Shelf.get? (replay (endedPart content)) id := by
  rw [replay_append_any content (.removal gone true) trivial]
  split
  · rw [apply_removal, Shelf.get?_remove]
  · rfl

/-! ### A document alone

A text of one document without a line feed is a log that tells of its project, and its last line is not
ended. -/

section Document

variable (p : Project)

theorem document_isLine : Text.IsLine p.json.compact.toList := by
  rw [Json.compact, String.toList_ofList]
  exact compactChars_isLine _

theorem lastLine_document : lastLine p.json.compact = p.json.compact.toList := by
  rw [lastLine, List.rtakeWhile_eq_self_iff]
  intro c member
  have apart : c ≠ '\n' := ne_of_mem_of_not_mem member (document_isLine p).noFeed
  simpa using apart

theorem endedPart_document : endedPart p.json.compact = "" := by
  have parts := endedPart_append_lastLine p.json.compact
  rw [lastLine_document p, String.ofList_toList] at parts
  simpa using congrArg String.toList parts

theorem lastLine_document_solid : (lastLine p.json.compact).all isSpace = false := by
  rw [lastLine_document p, Json.compact, String.toList_ofList]
  rfl

theorem replay_document (fits : ∀ run ∈ p.runs, run.summary.Fits) : replay p.json.compact = [p] := by
  have written : p.json.compact.toList = compactChars p.json := String.toList_ofList
  have unended : Text.records (compactChars p.json) = [compactChars p.json] := by
    have line := Text.records_append_open (Or.inl rfl) (document_isLine p).noFeed
    rwa [written, if_neg (by simp [Project.json, compactChars])] at line
  have read : lines p.json.compact = [compactChars p.json] := by
    rw [lines, written, unended]
    simpa [LogRecord.json] using (LogRecord.project p).compactChars_not_blank
  rw [replay, read, List.foldl_cons, List.foldl_nil, apply_project [] fits]
  rfl

end Document

end Log

namespace Backend

/-- A log whose last line is blank or ended keeps what is written to it, and answers for everything else
as before. Any other log loses what is written together with its last line, and answers as if it had
ended before this line. Both keep whatever is written next. -/
theorem write_after_any_log (content : String) {p : Project} (fits : ∀ run ∈ p.runs, run.summary.Fits)
    (gone : String) :
    let log := Backend.log (.file content.toByteArray)
    let ended := Backend.log (.file (Log.endedPart content).toByteArray)
    let kept := (Log.lastLine content).all Json.isSpace
    ∃ put deleted, log.put p = .ok put ∧ log.delete gone = .ok deleted ∧ put.Ready ∧ deleted.Ready ∧
      ∀ id,
        put.get? id =
          (if kept then if id = p.id then .ok (some p) else log.get? id else ended.get? id) ∧
        deleted.get? id =
          (if kept then if id = gone then .ok none else log.get? id else ended.get? id) := by
  intro log ended kept
  refine ⟨_, _, extend_file content (.project p), extend_file content (.removal gone true),
    .log (Log.ended_append content _), .log (Log.ended_append content _), ?_⟩
  intro id
  simp only [get?_file, log, ended, kept, Log.get?_append_project content fits,
    Log.get?_append_removal]
  constructor <;> split_ifs <;> rfl

-- The log was read without complaint before.
theorem write_after_any_log_open :
    let q : Project := { id := "q", name := "Q" }
    let p : Project := { id := "p", name := "P" }
    let log := Backend.log (.file q.json.compact.toByteArray)
    ∃ put, log.put p = .ok put ∧ log.get? "q" = .ok (some q) ∧
      put.get? "p" = .ok none ∧ put.get? "q" = .ok none := by
  intro q p log
  have q_fits : ∀ run ∈ q.runs, run.summary.Fits := by simp [q]
  have p_fits : ∀ run ∈ p.runs, run.summary.Fits := by simp [p]
  obtain ⟨put, _, written, _, _, _, answers⟩ := write_after_any_log q.json.compact p_fits "q"
  simp only [Log.lastLine_document_solid q, Log.endedPart_document q, Bool.false_eq_true,
    if_false, get?_file] at answers
  refine ⟨put, written, ?_, (answers "p").1, (answers "q").1⟩
  rw [get?_file, Log.replay_document q q_fits]
  rfl

end Backend

end Testbook
