import Testbook.Proofs.Session
import Testbook.Proofs.Store.Failure
import Testbook.Request.Performed

/-! A request that fails has stored nothing. Most requests carry out one operation of the store. An upload
asks the store for the feature once it has been stored, and so can fail too late: on a log whose last line
has no end. -/

set_option autoImplicit false

namespace Testbook

namespace Store

variable {α β : Type} {store : Store}

theorem Safe.map {result : Except Error α × Store} (safe : store.Safe result) (f : α → β) :
    store.Safe (result.1.map f, result.2) :=
  fun e failed => safe e (map_eq_error.mp failed)

theorem note_safe (store : Store) (project run : String) (target : Target) (text : String) :
    store.Safe (store.note project run target text) := by
  cases target with
  | step => exact (store.edit_safe project _).map _
  | scenario => exact (store.edit_safe project _).map _

theorem attach_safe (store : Store) (project run : String) (target : Target)
    (attachment : String → Attachment) :
    store.Safe (store.attach project run target attachment) := by
  refine store.same_takeId.safe ?_
  cases target with
  | step => exact (edit_safe _ project _).map _
  | scenario => exact (edit_safe _ project _).map _

end Store

namespace Session

variable {α β : Type} {session : Session}

/-- Where a log or a database is kept, something stands, and it is no folder. -/
def Placed (session : Session) : Prop :=
  ∀ path, session.medium = .log path ∨ session.medium = .database path →
    ∃ place entry, session.directory.Stands path place entry

/-- The same directory and the same medium. Ids may have been used up. -/
structure Same (session later : Session) : Prop where
  directory : later.directory = session.directory
  medium : later.medium = session.medium
  ids : session.ids.Before later.ids

def Safe (session : Session) (result : Except Error α × Session) : Prop :=
  ∀ e, result.1 = .error e → session.Same result.2

theorem Same.refl (session : Session) : session.Same session := ⟨rfl, rfl, .refl _⟩

theorem safe_self (session : Session) (answer : Except Error α) : session.Safe (answer, session) :=
  fun _ _ => .refl session

theorem Safe.map {result : Except Error α × Session} (safe : session.Safe result) (f : α → β) :
    session.Safe (result.1.map f, result.2) :=
  fun e failed => safe e (map_eq_error.mp failed)

/-! ### One operation -/

theorem keep_backend (placed : session.Placed) : session.keep session.backend = session := by
  obtain ⟨directory, medium, ids⟩ := session
  cases medium with
  | shelf => rfl
  | rows => rfl
  | log path =>
    obtain ⟨place, entry, stands⟩ := placed path (Or.inl rfl)
    simp [backend_log stands, keep, Session.place, stands.leads, stands.put_same]
  | database path =>
    obtain ⟨place, entry, stands⟩ := placed path (Or.inr rfl)
    simp [backend_database stands, keep, Session.place, stands.leads, stands.put_same]

theorem backend_keep (placed : session.Placed) {backend : Backend} (ready : backend.Ready)
    (same : backend.kind = session.backend.kind) : (session.keep backend).backend = backend := by
  obtain ⟨directory, medium, ids⟩ := session
  cases medium with
  | shelf =>
    cases ready with
    | memory => rfl
    | _ => cases same
  | rows =>
    cases ready with
    | table => rfl
    | _ => cases same
  | log path =>
    obtain ⟨place, entry, stands⟩ := placed path (Or.inl rfl)
    cases ready with
    | log =>
      simp only [keep, Session.place, stands.leads]
      exact backend_log (stands.put (by simp)) ids
    | _ => cases same
  | database path =>
    obtain ⟨place, entry, stands⟩ := placed path (Or.inr rfl)
    cases ready with
    | table =>
      simp only [keep, Session.place, stands.leads]
      exact backend_database (stands.put (by simp)) ids
    | _ => cases same

theorem act_safe (placed : session.Placed) {f : Store → Except Error α × Store}
    (safe : ∀ store : Store, store.Safe (f store)) : session.Safe (session.act f) := by
  intro e failed
  have same := safe session.store e failed
  have backend : (f session.store).2.backend = session.backend := same.backend
  simp only [act, backend, keep_backend placed]
  exact ⟨rfl, rfl, same.ids⟩

theorem act_store (placed : session.Placed) (f : Store → Except Error α × Store)
    {answer : Except Error α} {later : Store} (done : f session.store = (answer, later))
    (ready : later.backend.Ready) (same : later.backend.kind = session.backend.kind) :
    (session.act f).1 = answer ∧ (session.act f).2.store = later := by
  have found : (session.keep later.backend).backend = later.backend := backend_keep placed ready same
  refine ⟨by rw [act, done], ?_⟩
  rw [act, done]
  calc Session.store { session.keep later.backend with ids := later.ids }
      = ⟨(session.keep later.backend).backend, later.ids⟩ := rfl
    _ = later := by rw [found]

theorem answer_safe (placed : session.Placed) {f : Store → Except Error α × Store}
    (safe : ∀ store : Store, store.Safe (f store)) (present : α → Answer) :
    session.Safe (session.answer f present) :=
  (act_safe placed safe).map present

theorem answerRun_safe (placed : session.Placed) (project : String)
    {f : Store → Except Error Run × Store} (safe : ∀ store : Store, store.Safe (f store)) :
    session.Safe (session.answerRun project f) :=
  (act_safe placed safe).map _

/-! ### Files -/

theorem attach_safe (placed : session.Placed) (project run : String) (target : Target) (file : String)
    (mime : Option String) (now : Instant) :
    session.Safe (session.attach project run target file mime now) := by
  unfold attach
  split
  · exact session.safe_self _
  · exact session.safe_self _
  · exact answer_safe placed (fun store => store.attach_safe project run target _) _

theorem exportProject_safe (session : Session) (project : String) (output : Option String) :
    session.Safe (session.exportProject project output) := by
  unfold exportProject
  split
  · exact session.safe_self _
  · exact session.safe_self _
  · split
    · exact session.safe_self _
    · intro e failed
      cases failed

theorem importProject_safe (placed : session.Placed) (file : String) :
    session.Safe (session.importProject file) := by
  unfold importProject
  split
  · exact session.safe_self _
  · exact answer_safe placed (fun store => store.importProject_safe _) _

-- The upload itself is safe on any backend. It is for the question after it that the backend must be
-- ready.
theorem upload_safe (placed : session.Placed) (ready : session.backend.Ready) (project file : String) :
    session.Safe (session.upload project file) := by
  unfold upload
  split
  · exact session.safe_self _
  split
  · exact session.safe_self _
  rename_i content _
  intro e failed
  have safe := act_safe placed fun store =>
    store.uploadFeature_safe project ((FilePath.fileName? file).getD file) content
  rcases uploaded : session.store.uploadFeature project ((FilePath.fileName? file).getD file) content
    with ⟨answer | upload, later⟩
  · exact safe answer (congrArg Prod.fst uploaded)
  · obtain ⟨after_ready, same_kind, feature, stands⟩ := Store.uploadFeature_stands ready uploaded
    obtain ⟨answered, stored⟩ := act_store placed (·.uploadFeature project _ content) uploaded
      after_ready same_kind
    simp [answered, stored, stands, bind, Except.bind] at failed

end Session

/-- Any request, of a session whose log or database is in its place. For an upload the backend must be
ready. -/
theorem StoreRequest.perform_safe (context : Context) {session : Session} (request : StoreRequest)
    (placed : session.Placed)
    (ready : ∀ project file, request = .uploadFeature project file → session.backend.Ready) :
    session.Safe (request.perform context session) := by
  cases request with
  | createProject name description =>
    exact Session.answer_safe placed (fun store => store.createProject_safe name description) _
  | deleteProject project =>
    exact Session.answer_safe placed (fun store => store.deleteProject_safe project) _
  | exportProject project output => exact session.exportProject_safe project output
  | importProject file => exact Session.importProject_safe placed file
  | uploadFeature project file => exact Session.upload_safe placed (ready project file rfl) project file
  | startRun project feature environment version =>
    rw [perform]
    exact Session.answerRun_safe placed project fun store =>
      store.startRun_safe project feature (context.environment environment) version context.now
  | openRun project feature environment version =>
    rw [perform]
    exact Session.answerRun_safe placed project fun store =>
      store.openRun_safe project feature (context.environment environment) version context.now
  | markStep project =>
    exact Session.answer_safe placed (fun store => store.edit_safe project _) _
  | markScenario project =>
    exact Session.answer_safe placed (fun store => store.edit_safe project _) _
  | markScenarios project =>
    exact Session.answer_safe placed (fun store => store.edit_safe project _) _
  | note project run target text =>
    exact Session.answer_safe placed (fun store => store.note_safe project run target text) _
  | attach project run target file mime =>
    exact Session.attach_safe placed project run target file mime context.now
  | completeRun project =>
    exact Session.answer_safe placed (fun store => store.edit_safe project _) _
  | resetRun project =>
    rw [perform]
    exact Session.answerRun_safe placed project (fun store => store.edit_safe project _)
  | resetFeatureRuns project =>
    exact Session.answer_safe placed (fun store => store.edit_safe project _) _
  | resetAllRuns project =>
    exact Session.answer_safe placed (fun store => store.edit_safe project _) _
  | listProjects => exact session.safe_self _
  | showProject => exact session.safe_self _
  | listFeatures => exact session.safe_self _
  | showFeature => exact session.safe_self _
  | listRuns => exact session.safe_self _
  | showRun => exact session.safe_self _
  | history => exact session.safe_self _
  | compare => exact session.safe_self _
  | render => exact session.safe_self _
  | systemInfo => exact session.safe_self _

theorem Session.Keeps.placed {folder : String} {session : Session} {kind : BackendKind}
    {live : List Project} {ids : IdSource} (keeps : Keeps folder session kind live ids) :
    session.Placed := by
  intro path kept
  cases keeps with
  | shelf => simp at kept
  | log stands =>
    obtain rfl : pathOf folder .file = path := by simpa using kept
    exact ⟨_, _, stands⟩
  | table stands =>
    obtain rfl : pathOf folder .sqlite = path := by simpa using kept
    exact ⟨_, _, stands⟩

/-- An operation that fails leaves the backend as it was, whatever stands there; and a request that fails
leaves the whole directory as it was, and all that is in memory. Only ids may have been used up. An
upload needs a backend that is ready, which every backend is that has been begun in an empty place and
has seen nothing but operations, compactions and reopenings. -/
theorem failure_stores_nothing (store : Store) (op : Operation) (context : Context)
    (session : Session) (request : StoreRequest) :
    (∀ e, (op.perform store).1 = .error e → store.Same (op.perform store).2) ∧
    (session.Placed →
      (∀ project file, request = .uploadFeature project file → session.backend.Ready) →
      ∀ e, (request.perform context session).1 = .error e →
        session.Same (request.perform context session).2) ∧
    ∀ (folder : String) (kind : BackendKind) (events : List Event), session.Fresh folder kind →
      (∀ event ∈ events, event.Suits kind) →
      (∀ op ∈ events.filterMap Event.operation?, op.Fits) →
      ∃ answers later, session.serveAll folder events = .ok (answers, later) ∧ later.Placed ∧
        later.backend.Ready := by
  refine ⟨store.perform_safe op, request.perform_safe context, ?_⟩
  intro folder kind events fresh suit fits
  obtain ⟨later, _, _, served, _, kept⟩ := fresh.keeps.serveAll (Store.small_nil kind) suit fits
  exact ⟨_, later, served, kept.placed, kept.store.backend.ready⟩

/-- A feature file is read, but the project that it is meant for is not in the log. -/
theorem failure_stores_nothing_sample :
    let directory : Directory := ⟨[(["data"], .folder), (["data", "projects.jsonl"], .file .empty),
      (["a.feature"], .file "Feature: A".toByteArray)]⟩
    let session : Session := ⟨directory, .log "data/projects.jsonl", .sequential "id"⟩
    let context : Context := ⟨⟨"0.1.0", "", ""⟩, "data", "settings", {},
      ⟨⟨.json, .default⟩, ⟨.file, .default⟩, ⟨.staging, .default⟩, ⟨true, .default⟩⟩, .epoch⟩
    let result := StoreRequest.perform context session (.uploadFeature "shop" "a.feature")
    result.1 = .error (.missing (.project "shop")) ∧ session.Same result.2 := by
  intro directory session context result
  have stands : directory.Stands "data/projects.jsonl" ["data", "projects.jsonl"] (.file .empty) :=
    ⟨rfl, rfl, by simp⟩
  have placed : session.Placed := by
    intro path kept
    obtain rfl : "data/projects.jsonl" = path := by simpa [session] using kept
    exact ⟨_, _, stands⟩
  have empty : session.backend = .log (.file "".toByteArray) := Session.backend_log stands _
  have ready : session.backend.Ready := empty ▸ .log (Or.inl rfl)
  have file : directory.Stands "a.feature" ["a.feature"] (.file "Feature: A".toByteArray) :=
    ⟨rfl, rfl, by simp⟩
  have read : session.directory.readText "a.feature" = .ok "Feature: A" := file.readText
  have isFeature : Session.isFeatureFile "a.feature" = true := by decide +kernel
  have failed : result.1 = .error (.missing (.project "shop")) := by
    have absent (ids : IdSource) : Store.load ⟨session.backend, ids⟩ "shop" =
        .error (.missing (.project "shop")) := by
      rw [empty, Store.load, Backend.get?, Backend.logText_file]
      rfl
    simp only [result, StoreRequest.perform, Session.upload, isFeature, read, Session.act,
      Session.store, Store.uploadFeature, Store.addFeature, Store.edit, absent]
    rfl
  obtain ⟨_, unchanged, _⟩ := failure_stores_nothing session.store (.getProject "shop") context session
    (.uploadFeature "shop" "a.feature")
  exact ⟨failed, unchanged placed (fun _ _ _ => ready) _ failed⟩

end Testbook
