import Testbook.Instant.Reader
import Testbook.Json.Reader
import Testbook.Project

/-! Reading documents. What may lack has a value of its own then; `null` stands only for a missing
description, note or time of completion. -/

set_option autoImplicit false

namespace Testbook.Document

open Json (Tree)

def required {α : Type} (read : Tree → Option α) (field : Option Tree) : Option α := field.bind read

def defaulting {α : Type} (value : α) (read : Tree → Option α) : Option Tree → Option α
  | none => some value
  | some tree => read tree

def nullable {α : Type} (read : Tree → Option α) : Option Tree → Option (Option α)
  | none => some none
  | some .null => some none
  | some tree => (read tree).map some

def listOf {α : Type} (read : Tree → Option α) (tree : Tree) : Option (List α) :=
  tree.items?.bind (·.mapM read)

def named {α : Type} (ofName? : String → Option α) (tree : Tree) : Option α :=
  tree.choice?.bind ofName?

def instant (tree : Tree) : Option Instant := tree.text?.bind Instant.ofText?

end Testbook.Document

namespace Testbook

open Document Json

def Attachment.ofTree? (tree : Tree) : Option Attachment := do
  match ← tree.fields? ["id", "name", "type", "url", "uploadedAt"] with
  | [id, name, kind, url, uploadedAt] =>
    let id ← required Tree.text? id
    let name ← required Tree.text? name
    let kind ← required (named AttachmentKind.ofName?) kind
    let url ← required Tree.text? url
    let uploadedAt ← required instant uploadedAt
    some { id, name, kind, url, uploadedAt }
  | _ => none

def Step.ofTree? (tree : Tree) : Option Step := do
  match ← tree.fields? ["id", "keyword", "text", "result", "note", "attachments"] with
  | [id, keyword, text, result, note, attachments] =>
    let id ← required Tree.text? id
    let keyword ← required (named StepKeyword.ofName?) keyword
    let text ← required Tree.text? text
    let result ← defaulting .untested (named Outcome.ofName?) result
    let note ← nullable Tree.text? note
    let attachments ← defaulting [] (listOf Attachment.ofTree?) attachments
    some { id, keyword, text, result, note, attachments }
  | _ => none

def Scenario.ofTree? (tree : Tree) : Option Scenario := do
  match ← tree.fields? ["id", "name", "steps", "status", "tags", "note", "attachments"] with
  | [id, name, steps, status, tags, note, attachments] =>
    let id ← required Tree.text? id
    let name ← required Tree.text? name
    let steps ← defaulting [] (listOf Step.ofTree?) steps
    let status ← defaulting .untested (named Outcome.ofName?) status
    let tags ← defaulting [] (listOf Tree.text?) tags
    let note ← nullable Tree.text? note
    let attachments ← defaulting [] (listOf Attachment.ofTree?) attachments
    some { id, name, steps, status, tags, note, attachments }
  | _ => none

def SourceFile.ofTree? (tree : Tree) : Option SourceFile := do
  match ← tree.fields? ["name", "content", "hash"] with
  | [name, content, hash] =>
    let name ← required Tree.text? name
    let content ← required Tree.text? content
    let hash ← required Tree.text? hash
    some { name, content, hash }
  | _ => none

def Feature.ofTree? (tree : Tree) : Option Feature := do
  match ← tree.fields? ["id", "name", "description", "tags", "scenarios", "sourceFile"] with
  | [id, name, description, tags, scenarios, source] =>
    let id ← required Tree.text? id
    let name ← required Tree.text? name
    let description ← defaulting "" Tree.text? description
    let tags ← defaulting [] (listOf Tree.text?) tags
    let scenarios ← defaulting [] (listOf Scenario.ofTree?) scenarios
    let source ← required SourceFile.ofTree? source
    some { id, name, description, tags, scenarios, source }
  | _ => none

def RunSummary.ofTree? (tree : Tree) : Option RunSummary := do
  match ← tree.fields? ["total", "passed", "failed", "skipped", "untested"] with
  | [total, passed, failed, skipped, untested] =>
    let total ← required Tree.nat? total
    let passed ← required Tree.nat? passed
    let failed ← required Tree.nat? failed
    let skipped ← required Tree.nat? skipped
    let untested ← required Tree.nat? untested
    some { total, passed, failed, skipped, untested }
  | _ => none

def Run.ofTree? (tree : Tree) : Option Run := do
  match ← tree.fields? ["id", "featureId", "createdAt", "environment", "version", "scenarios",
      "summary", "status", "completedAt", "isLocked"] with
  | [id, featureId, createdAt, environment, version, scenarios, summary, status, completedAt,
      locked] =>
    let id ← required Tree.text? id
    let featureId ← required Tree.text? featureId
    let createdAt ← required instant createdAt
    let environment ← required (named Environment.ofName?) environment
    let version ← required Tree.text? version
    let scenarios ← defaulting [] (listOf Scenario.ofTree?) scenarios
    let summary ← defaulting {} RunSummary.ofTree? summary
    let status ← defaulting .inProgress (named RunStatus.ofName?) status
    let completedAt ← nullable instant completedAt
    let locked ← defaulting false Tree.bool? locked
    some { id, featureId, createdAt, environment, version, scenarios, summary, status, completedAt,
           locked }
  | _ => none

def Project.ofTree? (tree : Tree) : Option Project := do
  match ← tree.fields? ["id", "name", "description", "features", "runs"] with
  | [id, name, description, features, runs] =>
    let id ← required Tree.text? id
    let name ← required Tree.text? name
    let description ← nullable Tree.text? description
    let features ← defaulting [] (listOf Feature.ofTree?) features
    let runs ← defaulting [] (listOf Run.ofTree?) runs
    some { id, name, description, features, runs }
  | _ => none

def Project.ofText? (s : String) : Option Project := (Tree.ofText? s).bind Project.ofTree?

end Testbook
