import Testbook.Proofs.Store.Backend
import Testbook.Proofs.Store.Fits

/-! A store on any backend answers as a store in memory does that holds the same projects and has the
same source of ids, and keeps the same projects afterwards. -/

set_option autoImplicit false

namespace Testbook.Store

variable {α : Type} {store : Store} {kind : BackendKind} {live : List Project} {ids : IdSource}

structure Keeps (store : Store) (kind : BackendKind) (live : List Project) (ids : IdSource) :
    Prop where
  kind : store.backend.kind = kind
  ids : store.ids = ids
  backend : store.backend.Keeps live

structure Agrees (kind : BackendKind) (plain result : Except Error α × Store) : Prop where
  answer : result.1 = plain.1
  kept : ∃ live ids, plain.2 = ⟨.memory live, ids⟩ ∧ result.2.Keeps kind live ids

/-- Whatever an operation leaves in memory can be written down, unless memory is all there is. -/
def Writable (kind : BackendKind) (plain : Except Error α × Store) : Prop :=
  kind = .memory ∨ ∀ live ids, plain.2 = ⟨.memory live, ids⟩ → ∀ p ∈ live, p.Fits

theorem agrees_same (keeps : store.Keeps kind live ids) (answer : Except Error α) :
    Agrees kind (answer, ⟨.memory live, ids⟩) (answer, store) :=
  ⟨rfl, live, ids, rfl, keeps⟩

theorem Keeps.withIds (keeps : store.Keeps kind live ids) (later : IdSource) :
    Keeps { store with ids := later } kind live later :=
  ⟨keeps.kind, rfl, keeps.backend⟩

theorem Keeps.load (keeps : store.Keeps kind live ids) (project : String) :
    store.load project = Store.load ⟨.memory live, ids⟩ project := by
  simp only [Store.load, keeps.backend.get?]
  rfl

theorem save_agrees (keeps : store.Keeps kind live ids) (p : Project) (answer : α)
    (writable : Writable kind (Store.save ⟨.memory live, ids⟩ p answer)) :
    Agrees kind (Store.save ⟨.memory live, ids⟩ p answer) (store.save p answer) := by
  have fits : store.backend.kind = .memory ∨ p.Fits := by
    rcases writable with inMemory | all
    · exact Or.inl (keeps.kind.trans inMemory)
    · exact Or.inr (all _ _ rfl p (Shelf.mem_put_self live p))
  obtain ⟨later, put, same, kept⟩ := keeps.backend.put fits
  unfold Store.save
  rw [put]
  exact ⟨rfl, _, _, rfl, same.trans keeps.kind, keeps.ids, kept⟩

theorem edit_agrees (keeps : store.Keeps kind live ids) (project : String)
    (f : Project → Except Error (α × Option Project))
    (writable : Writable kind (Store.edit ⟨.memory live, ids⟩ project f)) :
    Agrees kind (Store.edit ⟨.memory live, ids⟩ project f) (store.edit project f) := by
  unfold Store.edit at writable ⊢
  rw [keeps.load]
  split
  · exact agrees_same keeps _
  · exact agrees_same keeps _
  · rename_i answer changed found
    rw [found] at writable
    exact save_agrees keeps changed answer writable

theorem createProject_agrees (keeps : store.Keeps kind live ids) (name : String)
    (description : Option String)
    (writable : Writable kind
      (Store.createProject ⟨.memory live, ids⟩ name description)) :
    Agrees kind (Store.createProject ⟨.memory live, ids⟩ name description)
      (store.createProject name description) := by
  unfold Store.createProject at writable ⊢
  generalize Text.trimmed? name = trimmed? at writable ⊢
  cases trimmed? with
  | none => exact agrees_same keeps _
  | some trimmed =>
    simp only [Store.takeId, keeps.ids] at writable ⊢
    exact save_agrees (keeps.withIds _) _ _ writable

theorem deleteProject_agrees (keeps : store.Keeps kind live ids) (project : String) :
    Agrees kind (Store.deleteProject ⟨.memory live, ids⟩ project) (store.deleteProject project) := by
  obtain ⟨later, deleted, same, kept⟩ := keeps.backend.delete project
  unfold Store.deleteProject
  rw [keeps.load]
  cases Store.load ⟨.memory live, ids⟩ project with
  | error e => exact agrees_same keeps _
  | ok p =>
    simp only [bind, Except.bind, deleted]
    exact ⟨rfl, _, _, rfl, same.trans keeps.kind, keeps.ids, kept⟩

theorem importProject_agrees (keeps : store.Keeps kind live ids) (document : String)
    (writable : Writable kind (Store.importProject ⟨.memory live, ids⟩ document)) :
    Agrees kind (Store.importProject ⟨.memory live, ids⟩ document) (store.importProject document) := by
  unfold Store.importProject at writable ⊢
  cases read : Project.ofText? document with
  | none => exact agrees_same keeps _
  | some p =>
    simp only [read] at writable ⊢
    by_cases blank : Text.allBlank p.id = true
    · simp only [blank, if_true]
      exact agrees_same keeps _
    · simp only [blank, keeps.backend.get?] at writable ⊢
      exact save_agrees keeps p p writable

-- Which way an operation goes depends on what it has loaded and on the next id only, and both are the
-- same in memory. What remains is the project that is saved at its end.
theorem openRun_agrees (keeps : store.Keeps kind live ids) (project feature : String)
    (environment : Environment) (version : String) (now : Instant)
    (writable : Writable kind
      (Store.openRun ⟨.memory live, ids⟩ project feature environment version now)) :
    Agrees kind (Store.openRun ⟨.memory live, ids⟩ project feature environment version now)
      (store.openRun project feature environment version now) := by
  unfold Store.openRun at writable ⊢
  rw [keeps.load]
  generalize versionOf version = valid, Store.load ⟨.memory live, ids⟩ project = loaded
    at writable ⊢
  cases valid with
  | error e => exact agrees_same keeps _
  | ok trimmed =>
    cases loaded with
    | error e => exact agrees_same keeps _
    | ok p =>
      dsimp only at writable ⊢
      generalize p.openRun? feature environment trimmed = open?, p.getFeature feature = known
        at writable ⊢
      cases open? with
      | some run => exact agrees_same keeps _
      | none =>
        cases known with
        | error e => exact agrees_same keeps _
        | ok template =>
          simp only [Store.takeId, keeps.ids] at writable ⊢
          exact save_agrees (keeps.withIds _) _ _ writable

theorem startRun_agrees (keeps : store.Keeps kind live ids) (project feature : String)
    (environment : Environment) (version : String) (now : Instant)
    (writable : Writable kind
      (Store.startRun ⟨.memory live, ids⟩ project feature environment version now)) :
    Agrees kind (Store.startRun ⟨.memory live, ids⟩ project feature environment version now)
      (store.startRun project feature environment version now) := by
  unfold Store.startRun at writable ⊢
  rw [keeps.load]
  generalize versionOf version = valid, Store.load ⟨.memory live, ids⟩ project = loaded
    at writable ⊢
  cases valid with
  | error e => exact agrees_same keeps _
  | ok trimmed =>
    cases loaded with
    | error e => exact agrees_same keeps _
    | ok p =>
      dsimp only at writable ⊢
      by_cases taken : p.hasVersion feature environment trimmed = true
      · simp only [taken, if_true]
        exact agrees_same keeps _
      · simp only [taken] at writable ⊢
        exact openRun_agrees keeps project feature environment trimmed now writable

theorem uploadFeature_agrees (keeps : store.Keeps kind live ids) (project file content : String)
    (writable : Writable kind
      (Store.uploadFeature ⟨.memory live, ids⟩ project file content)) :
    Agrees kind (Store.uploadFeature ⟨.memory live, ids⟩ project file content)
      (store.uploadFeature project file content) := by
  unfold Store.uploadFeature at writable ⊢
  rw [keeps.ids]
  exact edit_agrees (keeps.withIds _) project _ writable

/-! ### All operations -/

-- Operations that change one project are edits, and those that only answer leave the store alone.
theorem perform_agrees (op : Operation) (keeps : store.Keeps kind live ids)
    (writable : Writable kind (op.perform ⟨.memory live, ids⟩)) :
    Agrees kind (op.perform ⟨.memory live, ids⟩) (op.perform store) := by
  cases op with
  | takeId =>
    simp only [Operation.perform, Store.takeId, keeps.ids]
    exact ⟨rfl, _, _, rfl, keeps.withIds _⟩
  | createProject name description => exact createProject_agrees keeps name description writable
  | deleteProject project => exact deleteProject_agrees keeps project
  | importProject document => exact importProject_agrees keeps document writable
  | uploadFeature project file content =>
    exact uploadFeature_agrees keeps project file content writable
  | openRun project feature environment version now =>
    exact openRun_agrees keeps project feature environment version now writable
  | startRun project feature environment version now =>
    exact startRun_agrees keeps project feature environment version now writable
  | addFeature project => exact edit_agrees keeps project _ writable
  | updateRun project => exact edit_agrees keeps project _ writable
  | mutateRun project => exact edit_agrees keeps project _ writable
  | setStepResult project => exact edit_agrees keeps project _ writable
  | setScenarioResult project => exact edit_agrees keeps project _ writable
  | bulkSetResult project => exact edit_agrees keeps project _ writable
  | setStepNote project => exact edit_agrees keeps project _ writable
  | setScenarioNote project => exact edit_agrees keeps project _ writable
  | addStepAttachment project => exact edit_agrees keeps project _ writable
  | addScenarioAttachment project => exact edit_agrees keeps project _ writable
  | resetRun project => exact edit_agrees keeps project _ writable
  | completeRun project => exact edit_agrees keeps project _ writable
  | resetFeatureRuns project => exact edit_agrees keeps project _ writable
  | resetAllRuns project => exact edit_agrees keeps project _ writable
  | listProjects =>
    simp only [Operation.perform, Store.listProjects, keeps.backend.list]
    exact agrees_same keeps _
  | getProject project =>
    simp only [Operation.perform, Store.getProject, keeps.load]
    exact agrees_same keeps _
  | exportProject project =>
    simp only [Operation.perform, Store.exportProject, keeps.load]
    exact agrees_same keeps _
  | getFeature project feature =>
    simp only [Operation.perform, Store.getFeature, keeps.load]
    exact agrees_same keeps _
  | getRun project run =>
    simp only [Operation.perform, Store.getRun, keeps.load]
    exact agrees_same keeps _
  | listRuns project feature environment =>
    simp only [Operation.perform, Store.listRuns, keeps.load]
    exact agrees_same keeps _

/-- What is brought to a store can be written down, unless memory is all there is. -/
def Sized (kind : BackendKind) (ops : List Operation) : Prop :=
  kind = .memory ∨ ∀ op ∈ ops, op.Fits

def Small (kind : BackendKind) (live : List Project) : Prop :=
  kind = .memory ∨ ∀ p ∈ live, p.Fits

-- What memory holds afterwards can be written down by `fits_lasting`, and so it is written down.
theorem perform_step (op : Operation) (keeps : store.Keeps kind live ids) (small : Small kind live)
    (sized : kind = .memory ∨ op.Fits) :
    ∃ live' later, op.perform ⟨.memory live, ids⟩ =
        ((op.perform store).1, ⟨.memory live', later⟩) ∧
      op.Effect ids live later live' ∧ Small kind live' ∧
      (op.perform store).2.Keeps kind live' later := by
  obtain ⟨later, live', moved, effect⟩ := op.perform_moves ids live
  have small' : Small kind live' := by
    rcases small with inMemory | all
    · exact Or.inl inMemory
    rcases sized with inMemory | fits
    · exact Or.inl inMemory
    · exact Or.inr (fits_lasting.effect fits effect all).2
  have writable : Writable kind (op.perform ⟨.memory live, ids⟩) := by
    refine small'.imp_right ?_
    intro all live'' later' same
    rw [moved] at same
    cases same
    exact all
  obtain ⟨answer, live'', later', same, kept⟩ := perform_agrees op keeps writable
  rw [moved] at same
  cases same
  exact ⟨live', later, Prod.ext answer.symm moved, effect, small', kept⟩

/-- Any operations, on whatever backend: what is kept afterwards is what memory would hold. -/
theorem after_keeps {ops : List Operation} (keeps : store.Keeps kind live ids)
    (small : Small kind live) (sized : Sized kind ops) :
    ∃ live' later, Store.after ⟨.memory live, ids⟩ ops = ⟨.memory live', later⟩ ∧ Small kind live' ∧
      (store.after ops).Keeps kind live' later := by
  induction ops generalizing store live ids with
  | nil => exact ⟨live, ids, rfl, small, keeps⟩
  | cons op ops ih =>
    have first := sized.imp_right fun fits => fits op List.mem_cons_self
    obtain ⟨live₁, next, moved, _, small₁, kept⟩ := perform_step op keeps small first
    have others : Sized kind ops :=
      sized.imp_right fun fits op' member => fits op' (List.mem_cons_of_mem op member)
    rw [after_cons, moved]
    exact ih kept small₁ others

theorem keeps_empty (kind : BackendKind) (ids : IdSource) :
    Keeps ⟨.empty kind, ids⟩ kind [] ids :=
  ⟨Backend.empty_kind kind, rfl, Backend.empty_keeps kind⟩

theorem small_nil (kind : BackendKind) : Small kind [] := Or.inr (by simp)

theorem Keeps.getProject_eq_ok (keeps : store.Keeps kind live ids) {id : String} {p : Project} :
    store.getProject id = .ok p ↔ Shelf.get? live id = some p := by
  rw [getProject, keeps.load, Operation.load_memory]
  cases Shelf.get? live id <;> simp

end Testbook.Store

namespace Testbook

/-- What lasts holds of every project that can be had from a store, on whatever backend. -/
theorem Lasting.stored {Allowed : Operation → Prop} {Holds : IdSource → Project → Prop}
    (lasting : Lasting Allowed Holds) {kind : BackendKind} {ids : IdSource} {ops : List Operation}
    (allowed : ∀ op ∈ ops, Allowed op) (sized : Store.Sized kind ops) {id : String} {p : Project}
    (stored : (Store.after ⟨.empty kind, ids⟩ ops).getProject id = .ok p) :
    ∃ later, ids.Before later ∧ Holds later p := by
  obtain ⟨live, later, plain, _, kept⟩ :=
    Store.after_keeps (Store.keeps_empty kind ids) (Store.small_nil kind) sized
  have nothing : ∀ p ∈ ([] : List Project), Holds ids p := by simp
  obtain ⟨later', live', plain', before, holds⟩ := lasting.after allowed nothing
  rw [plain] at plain'
  cases plain'
  exact ⟨later, before, holds p (Shelf.mem_of_get? (kept.getProject_eq_ok.mp stored)).1⟩

end Testbook
