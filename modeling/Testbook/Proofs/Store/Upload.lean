import Testbook.Proofs.Feature.LineByLine
import Testbook.Proofs.Project.Upload
import Testbook.Proofs.Store.Ready

/-! An uploaded file is stored exactly: its feature is added, or found to be there, or put in the place of the
one of its name. To upload the content again stores nothing, although it is read with other ids. -/

set_option autoImplicit false

namespace Testbook.Store

variable {store : Store} {project : String} {p : Project}

/-- The store after a feature was settled in a project: the project is put, unless it stays as it is. -/
structure Settled (store later : Store) (project : String) (upload : Upload) (document : Project) :
    Prop where
  unchanged : ∀ old, upload = .unchanged old → later.backend = store.backend
  put : (∀ old, upload ≠ .unchanged old) → store.backend.put document = .ok later.backend
  /-- Where the backend is ready, no other project is touched. -/
  becomes : store.backend.Ready → store.Becomes later project document

theorem addFeature_settled (stored : store.getProject project = .ok p) (feature : Feature) :
    ∃ upload document later, store.addFeature project feature = (.ok upload, later) ∧
      p.Settles feature upload document ∧ later.ids = store.ids ∧
      store.Settled later project upload document := by
  have settles := p.addFeature_settles feature
  cases taken : p.addFeature feature with
  | mk upload changed? =>
    rw [taken] at settles
    cases changed? with
    | none =>
      obtain ⟨old, rfl⟩ := (Project.addFeature_eq_none taken).mp rfl
      refine ⟨_, p, store, ?_, settles, rfl, fun _ _ => rfl, fun other => absurd rfl (other old), ?_⟩
      · rw [addFeature, edit, show store.load project = .ok p from stored]
        simp only [bind, Except.bind, taken]
      · exact fun ready => ⟨ready, rfl, stored, fun _ _ => rfl⟩
    | some changed =>
      obtain ⟨later, edited, ids, put⟩ :=
        edit_put (f := fun p => .ok (p.addFeature feature)) stored (congrArg Except.ok taken)
      refine ⟨upload, changed, later, edited, settles, ids, ?_, fun _ => put, ?_⟩
      · intro old same
        cases (Project.addFeature_eq_none taken).mpr ⟨old, same⟩
      · intro ready
        obtain ⟨id, kept⟩ := Project.addFeature_keeps taken
        obtain ⟨p_id, fits⟩ := ready.found (load_eq_ok.mp stored)
        have fits' : store.backend.kind = .memory ∨ ∀ run ∈ changed.runs, run.summary.Fits :=
          fits.imp_right fun all run member => all run (kept run member)
        exact (id.trans p_id) ▸ becomes_put ready fits' put

theorem uploadFeature_settled (stored : store.getProject project = .ok p) (file content : String) :
    ∃ upload document later, store.uploadFeature project file content = (.ok upload, later) ∧
      p.Settles (Feature.ofFile store.ids file content).1 upload document ∧
      later.ids = (Feature.ofFile store.ids file content).2 ∧
      store.Settled later project upload document := by
  have loaded : getProject { store with ids := (Feature.ofFile store.ids file content).2 } project =
      .ok p := stored
  obtain ⟨upload, document, later, added, settles, ids, settled⟩ :=
    addFeature_settled loaded (Feature.ofFile store.ids file content).1
  refine ⟨upload, document, later, added, settles, ids, settled.unchanged, settled.put, ?_⟩
  intro ready
  obtain ⟨ready', kind, held, others⟩ := settled.becomes ready
  exact ⟨ready', kind, held, others⟩

/-- Where the content has been settled, it is known again, from whatever file, and nothing is stored. -/
theorem uploadFeature_again {file content : String} {upload : Upload} {document : Project}
    (settles : p.Settles (Feature.ofFile store.ids file content).1 upload document) {again : Store}
    (held : again.getProject project = .ok document) (file' : String) :
    again.uploadFeature project file' content = (.ok (.unchanged upload.feature),
      { again with ids := (Feature.ofFile again.ids file' content).2 }) := by
  have name : (Feature.ofFile again.ids file' content).1.name =
      (Feature.ofFile store.ids file content).1.name := by
    rw [(Feature.ofFile_heading again.ids file' content).1,
      (Feature.ofFile_heading store.ids file content).1]
  have known := settles.again name rfl
  have loaded : Store.load { again with ids := (Feature.ofFile again.ids file' content).2 } project =
      .ok document := held
  unfold uploadFeature addFeature edit
  simp only [loaded, bind, Except.bind]
  rw [known]

/-- A file that is uploaded to a stored project: its feature is settled there by its name and its fingerprint,
and in a store that has what came of the project the same content, from whatever file, is known under the
feature that was answered, and nothing is stored. Only ids are used up. A store that operations have led to
has what came of the project at once. -/
theorem upload_settles_once (stored : store.getProject project = .ok p) (file content : String) :
    let parsed := (Feature.ofFile store.ids file content).1
    parsed.source = ⟨file, content, Fingerprint.ofText content⟩ ∧
    ∃ upload document later, store.uploadFeature project file content = (.ok upload, later) ∧
      p.Settles parsed upload document ∧
      later.ids = (Feature.ofFile store.ids file content).2 ∧
      store.Settled later project upload document ∧
      (∀ (again : Store) (file' : String), again.getProject project = .ok document →
        again.uploadFeature project file' content = (.ok (.unchanged upload.feature),
          { again with ids := (Feature.ofFile again.ids file' content).2 })) ∧
      (store.Reached → store.Becomes later project document ∧
        ∀ file', later.uploadFeature project file' content = (.ok (.unchanged upload.feature),
          { later with ids := (Feature.ofFile later.ids file' content).2 })) := by
  intro parsed
  obtain ⟨upload, document, later, uploaded, settles, ids, settled⟩ :=
    uploadFeature_settled stored file content
  refine ⟨rfl, upload, document, later, uploaded, settles, ids, settled, ?_, ?_⟩
  · intro again file' held
    exact uploadFeature_again settles held file'
  · intro reached
    have becomes := settled.becomes reached.ready
    exact ⟨becomes, uploadFeature_again settles becomes.stored⟩

/-- Two imported features have one name, and a run is of the first, which the upload replaces. -/
theorem upload_settles_once_sample :
    let old (id : String) : Feature := { id, name := "A", source := ⟨"a.feature", "", ""⟩ }
    let run : Run :=
      { id := "r-1", featureId := "f-1", createdAt := .epoch, environment := .staging
        version := "1.0" }
    let shop : Project :=
      { id := "shop", name := "Shop", features := [old "f-1", old "f-2"]
        runs := [run, { run with id := "r-2", featureId := "f-2" }] }
    let store : Store := ⟨.memory [shop], .sequential "id"⟩
    ∃ document later,
      store.uploadFeature "shop" "a.feature" "Feature: A" = (.ok (.replaced "id-1" "f-1" 1), later) ∧
      later.getProject "shop" = .ok document ∧ document.features.map (·.id) = ["id-1", "f-2"] ∧
      document.runs.map (·.id) = ["r-2"] ∧
      later.uploadFeature "shop" "b.feature" "Feature: A" = (.ok (.unchanged "id-1"),
        { later with ids := (Feature.ofFile later.ids "b.feature" "Feature: A").2 }) := by
  intro old run shop store
  have stored : store.getProject "shop" = .ok shop := rfl
  obtain ⟨_, upload, document, later, uploaded, _, _, settled, again, _⟩ :=
    upload_settles_once stored "a.feature" "Feature: A"
  have held := (settled.becomes (.memory _)).stored
  have answer : (store.uploadFeature "shop" "a.feature" "Feature: A").1 =
      .ok (.replaced "id-1" "f-1" 1) := by decide +kernel
  have kept : ((store.uploadFeature "shop" "a.feature" "Feature: A").2.getProject "shop").map
      (fun p => (p.features.map (·.id), p.runs.map (·.id))) = .ok (["id-1", "f-2"], ["r-2"]) := by
    decide +kernel
  rw [uploaded] at answer kept
  obtain rfl : upload = .replaced "id-1" "f-1" 1 := Except.ok.inj answer
  rw [held] at kept
  obtain ⟨features, runs⟩ := Prod.mk.inj (Except.ok.inj kept)
  exact ⟨document, later, uploaded, held, features, runs, again later "b.feature" held⟩

end Testbook.Store
