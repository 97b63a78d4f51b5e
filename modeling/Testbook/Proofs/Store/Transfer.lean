import Testbook.Proofs.Store.Ready

/-! The document of a project says all of it, whatever its texts hold. In its short form it is one line of
a log; in its long form it is carried from one store to any other whose backend is ready, where nothing
else is touched. -/

set_option autoImplicit false

namespace Testbook

namespace Log

variable {p : Project}

theorem ofLine?_project (fits : ∀ run ∈ p.runs, run.summary.Fits) :
    LogRecord.ofLine? p.json.compact.toList = some (.project p) := by
  have read := LogRecord.ofLine?_compactChars (.project p) fits
  rwa [Json.compact, String.toList_ofList]

theorem lines_project (p : Project) :
    lines (line (.project p)) = [p.json.compact.toList] := by
  have isLine := Json.compactChars_isLine p.json
  have solid : (Json.compactChars p.json).all Text.isBlank = false :=
    (LogRecord.project p).compactChars_not_blank
  have one : Text.records (Json.compactChars p.json ++ ['\n']) = [Json.compactChars p.json] :=
    Text.records_cons isLine []
  rw [lines, toList_line, LogRecord.json, one, Json.compact, String.toList_ofList]
  simp [solid]

theorem compact_unbroken (p : Project) :
    '\n' ∉ p.json.compact.toList ∧ '\r' ∉ p.json.compact.toList := by
  have visible := Json.compactChars_visible p.json
  rw [Json.compact, String.toList_ofList]
  exact ⟨fun feed => absurd (visible _ feed) (by decide),
    fun returned => absurd (visible _ returned) (by decide)⟩

end Log

namespace Store

variable {source target : Store} {p : Project}

theorem exportProject_eq_ok {id : String} (stands : source.getProject id = .ok p) :
    source.exportProject id = .ok p.json.pretty := by
  have loaded : source.load id = .ok p := stands
  rw [exportProject, loaded]
  rfl

/-- A document is imported as the project that it was written for, and only this project is stored. -/
theorem importProject_pretty (ready : target.backend.Ready) {stood? : Option Project}
    (stood : target.backend.get? p.id = .ok stood?) (fits : ∀ run ∈ p.runs, run.summary.Fits)
    (named : Text.allBlank p.id = false) :
    ∃ later, target.importProject p.json.pretty = (.ok p, later) ∧ later.ids = target.ids ∧
      later.backend.Ready ∧ later.getProject p.id = .ok p ∧
      ∀ id, id ≠ p.id → later.getProject id = target.getProject id := by
  obtain ⟨backend, put⟩ := Backend.put_of_get? stood p
  have becomes : target.Becomes { target with backend } p.id p := becomes_put ready (Or.inr fits) put
  refine ⟨{ target with backend }, ?_, rfl, becomes.ready, becomes.stored, becomes.others⟩
  simp [importProject, p.ofText?_pretty fits, named, stood, save, put]

end Store

/-- A project of any texts, with counts of 64 bits, is read back from its document as it was, and from a
line of a log as the project that it is; its short form has no line break. Exported from any store and
imported into any whose backend is ready and can be asked for it, it stands there as it stood, beside what
stood there before. Every store is so that was empty and has seen nothing but operations, imports among
them. -/
theorem document_lossless (p : Project) (fits : ∀ run ∈ p.runs, run.summary.Fits) :
    Project.ofText? p.json.compact = some p ∧
      LogRecord.ofLine? p.json.compact.toList = some (.project p) ∧
      Log.lines (Log.line (.project p)) = [p.json.compact.toList] ∧
      '\n' ∉ p.json.compact.toList ∧ '\r' ∉ p.json.compact.toList ∧
      (∀ (source target : Store) (id : String) (stood? : Option Project),
        source.getProject id = .ok p → target.backend.Ready →
        target.backend.get? p.id = .ok stood? → Text.allBlank p.id = false →
        ∃ document later, source.exportProject id = .ok document ∧
          target.importProject document = (.ok p, later) ∧ later.ids = target.ids ∧
          later.backend.Ready ∧ later.getProject p.id = .ok p ∧
          ∀ other, other ≠ p.id → later.getProject other = target.getProject other) ∧
      ∀ (kind : BackendKind) (ids : IdSource) (ops : List Operation), Store.Sized kind ops →
        (Store.after ⟨.empty kind, ids⟩ ops).backend.Ready ∧
          ∀ id, ∃ found, (Store.after ⟨.empty kind, ids⟩ ops).backend.get? id = .ok found := by
  obtain ⟨noFeed, noReturn⟩ := Log.compact_unbroken p
  refine ⟨p.ofText?_compact fits, Log.ofLine?_project fits, Log.lines_project p, noFeed, noReturn,
    ?_, fun kind ids ops sized => Store.after_ready kind ids sized⟩
  intro source target id stood? stands ready stood named
  obtain ⟨later, imported⟩ := Store.importProject_pretty ready stood fits named
  exact ⟨_, later, Store.exportProject_eq_ok stands, imported⟩

/-- From memory into a log with another project. -/
theorem document_lossless_sample :
    let run : Run := { id := "r", featureId := "f", createdAt := .epoch, environment := .staging
                       version := "1", summary := { total := 1, passed := 1 } }
    let p : Project := { id := "p", name := "A \"quoted\" name \\ \u2028"
                         description := some "two\nlines", runs := [run] }
    let q : Project := { id := "q", name := "Q" }
    let source : Store := ⟨.memory [p], .sequential "id"⟩
    let target : Store := ⟨.log (.file (Log.line (.project q)).toByteArray), .sequential "id"⟩
    ∃ document later, source.exportProject "p" = .ok document ∧
      target.importProject document = (.ok p, later) ∧ later.getProject "p" = .ok p ∧
      later.getProject "q" = target.getProject "q" := by
  intro run p q source target
  have fits : ∀ run ∈ p.runs, run.summary.Fits := by
    intro run' member
    obtain rfl := List.mem_singleton.mp member
    exact ⟨by decide, by decide, by decide, by decide, by decide⟩
  have ready : target.backend.Ready := by
    refine .log ?_
    rw [Log.toList_line]
    exact Or.inr ⟨_, rfl⟩
  obtain ⟨stood?, stood⟩ : ∃ stood?, target.backend.get? "p" = .ok stood? := by
    simp [target, Backend.get?, Backend.logText_file, Except.map]
  obtain ⟨_, _, _, _, _, transfer, _⟩ := document_lossless p fits
  obtain ⟨document, later, exported, imported, _, _, stored, others⟩ :=
    transfer source target "p" stood? rfl ready stood (by decide)
  exact ⟨document, later, exported, imported, stored, others "q" (by decide)⟩

end Testbook
