import Testbook.Proofs.Store.Upload

/-! An operation that fails has stored nothing. It reads a whole project, changes a copy of it, and writes
the copy at its very end, so that whatever it may find wrong on the way is found before. -/

set_option autoImplicit false

namespace Testbook.Store

variable {α : Type} {store later last : Store}

/-- The same backend. Ids may have been used up. -/
structure Same (store later : Store) : Prop where
  backend : later.backend = store.backend
  ids : store.ids.Before later.ids

theorem Same.refl (store : Store) : store.Same store := ⟨rfl, .refl _⟩

theorem Same.trans (first : store.Same later) (second : later.Same last) : store.Same last :=
  ⟨second.backend.trans first.backend, first.ids.trans second.ids⟩

theorem same_takeId (store : Store) : store.Same store.takeId.2 := ⟨rfl, IdSource.before_next _⟩

def Safe (store : Store) (result : Except Error α × Store) : Prop :=
  ∀ e, result.1 = .error e → store.Same result.2

theorem Same.safe (same : store.Same later) {result : Except Error α × Store}
    (safe : later.Safe result) : store.Safe result :=
  fun e failed => same.trans (safe e failed)

theorem safe_self (store : Store) (answer : Except Error α) : store.Safe (answer, store) :=
  fun _ _ => .refl store

theorem safe_ok (store : Store) (answer : α) (later : Store) : store.Safe (.ok answer, later) := by
  intro e failed
  cases failed

/-! ### One operation -/

theorem save_safe (store : Store) (p : Project) (answer : α) : store.Safe (store.save p answer) := by
  unfold save
  split
  · exact store.safe_ok answer _
  · exact store.safe_self _

theorem edit_safe (store : Store) (project : String)
    (f : Project → Except Error (α × Option Project)) : store.Safe (store.edit project f) := by
  unfold edit
  split
  · exact store.safe_self _
  · exact store.safe_self _
  · exact store.save_safe _ _

theorem rewrite_failed {project : String} {p : Project} {f : Project → Except Error (α × Project)}
    {e : Error} (loaded : store.load project = .ok p) (failed : f p = .error e) :
    store.rewrite project f = (.error e, store) := by
  simp [rewrite, edit, loaded, failed, bind, Except.bind, Except.map]

/-- A call on a run that fails leaves any store in which the run stands as it was, whatever it leaves of
the run itself. -/
theorem mutateRun_failed {project id : String} {run : Run} {f : Run → Except Error α × Run}
    {e : Error} (stored : store.getRun project id = .ok run) (failed : (f run).1 = .error e) :
    store.mutateRun project id f = (.error e, store) := by
  obtain ⟨p, loaded, found⟩ := bind_eq_ok.mp stored
  exact rewrite_failed loaded (by simp [Project.mutateRun, found, failed, bind, Except.bind])

theorem annotate_failed {project id : String} {run : Run} {f : Run → Except Error Unit × Run}
    {e : Error} (stored : store.getRun project id = .ok run) (failed : (f run).1 = .error e) :
    store.annotate project id f = (.error e, store) := by
  rw [annotate_eq, mutateRun_failed stored failed]
  rfl

theorem createProject_safe (store : Store) (name : String) (description : Option String) :
    store.Safe (store.createProject name description) := by
  unfold createProject
  split
  · exact store.safe_self _
  · exact store.same_takeId.safe (store.takeId.2.save_safe _ _)

theorem deleteProject_safe (store : Store) (project : String) :
    store.Safe (store.deleteProject project) := by
  unfold deleteProject
  split
  · exact store.safe_ok () _
  · exact store.safe_self _

theorem importProject_safe (store : Store) (document : String) :
    store.Safe (store.importProject document) := by
  unfold importProject
  split
  · exact store.safe_self _
  · split
    · exact store.safe_self _
    · split
      · exact store.safe_self _
      · exact store.save_safe _ _

theorem uploadFeature_safe (store : Store) (project file content : String) :
    store.Safe (store.uploadFeature project file content) := by
  have same : store.Same { store with ids := (Feature.ofFile store.ids file content).2 } :=
    ⟨rfl, Feature.ofFile_before store.ids file content⟩
  exact same.safe (edit_safe _ project _)

theorem openRun_safe (store : Store) (project feature : String) (environment : Environment)
    (version : String) (now : Instant) :
    store.Safe (store.openRun project feature environment version now) := by
  unfold openRun
  split
  · exact store.safe_self _
  · exact store.safe_self _
  · split
    · exact store.safe_self _
    · split
      · exact store.safe_self _
      · exact store.same_takeId.safe (store.takeId.2.save_safe _ _)

theorem startRun_safe (store : Store) (project feature : String) (environment : Environment)
    (version : String) (now : Instant) :
    store.Safe (store.startRun project feature environment version now) := by
  unfold startRun
  split
  · exact store.safe_self _
  · exact store.safe_self _
  · split
    · exact store.safe_self _
    · exact store.openRun_safe project feature environment _ now

/-- Any operation, on any backend in whatever state, with any arguments. -/
theorem perform_safe (store : Store) (op : Operation) : store.Safe (op.perform store) := by
  cases op with
  | takeId => exact store.safe_ok _ _
  | createProject name description => exact store.createProject_safe name description
  | deleteProject project => exact store.deleteProject_safe project
  | importProject document => exact store.importProject_safe document
  | uploadFeature project file content => exact store.uploadFeature_safe project file content
  | openRun project feature environment version now =>
    exact store.openRun_safe project feature environment version now
  | startRun project feature environment version now =>
    exact store.startRun_safe project feature environment version now
  | addFeature project => exact store.edit_safe project _
  | updateRun project => exact store.edit_safe project _
  | mutateRun project => exact store.edit_safe project _
  | setStepResult project => exact store.edit_safe project _
  | setScenarioResult project => exact store.edit_safe project _
  | bulkSetResult project => exact store.edit_safe project _
  | setStepNote project => exact store.edit_safe project _
  | setScenarioNote project => exact store.edit_safe project _
  | addStepAttachment project => exact store.edit_safe project _
  | addScenarioAttachment project => exact store.edit_safe project _
  | resetRun project => exact store.edit_safe project _
  | completeRun project => exact store.edit_safe project _
  | resetFeatureRuns project => exact store.edit_safe project _
  | resetAllRuns project => exact store.edit_safe project _
  | listProjects => exact store.safe_self _
  | getProject => exact store.safe_self _
  | exportProject => exact store.safe_self _
  | getFeature => exact store.safe_self _
  | getRun => exact store.safe_self _
  | listRuns => exact store.safe_self _

/-! ### An upload that is followed by a question

The feature of the answer is looked for after it has been stored. -/

/-- An upload that succeeds on a backend that is ready leaves it ready, and the feature is there. -/
theorem uploadFeature_stands (ready : store.backend.Ready) {project file content : String}
    {upload : Upload} {later : Store}
    (uploaded : store.uploadFeature project file content = (.ok upload, later)) :
    later.backend.Ready ∧ later.backend.kind = store.backend.kind ∧
      ∃ feature, later.getFeature project upload.feature = .ok feature := by
  obtain ⟨p, loaded⟩ := load_of_edit (congrArg Prod.fst uploaded)
  have stored : store.getProject project = .ok p := loaded
  obtain ⟨_, document, _, made, settles, _, settled⟩ := uploadFeature_settled stored file content
  rw [made] at uploaded
  cases uploaded
  have becomes := settled.becomes ready
  obtain ⟨feature, stands⟩ := settles.stands
  exact ⟨becomes.ready, becomes.kind, feature, bind_eq_ok.mpr ⟨document, becomes.stored, stands⟩⟩

end Testbook.Store
