import Testbook.Proofs.Directory
import Testbook.Proofs.Store.Agreement
import Testbook.Session

/-! A store in use answers as a store in memory, wherever it is kept. That its log is rewritten, or that
a log or a database is opened again where it stands, makes no difference. -/

set_option autoImplicit false

namespace Testbook

abbrev Answered : Type 1 := (op : Operation) × Except Error op.Answer

inductive Event : Type 1 where
  | operation (op : Operation)
  /-- The log is rewritten with one line for each project. -/
  | compaction
  /-- The store is begun anew in the folder where it is kept. -/
  | reopening

namespace Event

def operation? : Event → Option Operation
  | operation op => some op
  | _ => none

/-- Only logs are rewritten, and what is in memory cannot be opened again. -/
def Suits (kind : BackendKind) : Event → Prop
  | operation _ => True
  | compaction => kind = .file
  | reopening => kind ≠ .memory

end Event

def Store.answers (store : Store) : List Operation → List Answered
  | [] => []
  | op :: ops => ⟨op, (op.perform store).1⟩ :: (op.perform store).2.answers ops

theorem Store.answers_append (store : Store) (first second : List Operation) :
    store.answers (first ++ second) = store.answers first ++ (store.after first).answers second := by
  induction first generalizing store with
  | nil => rfl
  | cons op first ih => simp [answers, ih]

namespace Session

def compact (session : Session) : Except Error Session :=
  session.backend.compact.map fun result => session.keep result.2

def reopen (session : Session) (folder : String) : Except Error Session :=
  match Medium.begin session.directory folder session.medium.kind with
  | (.ok medium, directory) => .ok { session with directory, medium }
  | (.error e, _) => .error e

def serve (session : Session) (folder : String) : Event → Except Error (List Answered × Session)
  | .operation op => .ok ([⟨op, (session.act op.perform).1⟩], (session.act op.perform).2)
  | .compaction =>
    match session.compact with
    | .ok later => .ok ([], later)
    | .error e => .error e
  | .reopening =>
    match session.reopen folder with
    | .ok later => .ok ([], later)
    | .error e => .error e

def serveAll (session : Session) (folder : String) :
    List Event → Except Error (List Answered × Session)
  | [] => .ok ([], session)
  | event :: events => do
    let (first, session) ← session.serve folder event
    let (others, session) ← session.serveAll folder events
    .ok (first ++ others, session)

def pathOf (folder : String) : BackendKind → String
  | .memory => ""
  | .file => FilePath.join folder Medium.logName
  | .sqlite => FilePath.join folder Medium.databaseName

/-- The session has just begun, and outside of memory nothing stood at its place when its folder had been
made. -/
def Fresh (session : Session) (folder : String) (kind : BackendKind) : Prop :=
  ∃ directory, Medium.begin directory folder kind = (.ok session.medium, session.directory) ∧
    (kind = .memory ∨ (directory.makeFolders folder).2.holds (pathOf folder kind) = false)

-- That the folder is there is kept in mind for the next time the store is opened, which makes it anew
-- where it is missing.
/-- What a session keeps: on a shelf, in a log that stands in the folder, or in a database there. -/
inductive Keeps (folder : String) : Session → BackendKind → List Project → IdSource → Prop where
  | shelf {directory : Directory} {live : List Project} {ids : IdSource}
      (distinct : Shelf.Distinct live) : Keeps folder ⟨directory, .shelf live, ids⟩ .memory live ids
  | log {directory : Directory} {place : Place} {content : String} {live : List Project}
      {ids : IdSource}
      (stands : directory.Stands (pathOf folder .file) place (.file content.toByteArray))
      (has : directory.HasFolder folder)
      (kept : (Backend.log (.file content.toByteArray)).Keeps live) :
      Keeps folder ⟨directory, .log (pathOf folder .file), ids⟩ .file live ids
  | table {directory : Directory} {place : Place} {live : List Project} {ids : IdSource}
      (stands : directory.Stands (pathOf folder .sqlite) place (.table (live.map Table.rowOf)))
      (has : directory.HasFolder folder)
      (kept : (Backend.table (.table (live.map Table.rowOf))).Keeps live) :
      Keeps folder ⟨directory, .database (pathOf folder .sqlite), ids⟩ .sqlite live ids

variable {session : Session} {folder : String} {kind : BackendKind} {live : List Project}
  {ids : IdSource}

/-! ### One session -/

theorem backend_log {directory : Directory} {path : String} {place : Place} {entry : Entry}
    (stands : directory.Stands path place entry) (ids : IdSource) :
    backend ⟨directory, .log path, ids⟩ = .log entry := by
  simp [backend, stands.find, Except.toOption]

theorem backend_database {directory : Directory} {path : String} {place : Place} {entry : Entry}
    (stands : directory.Stands path place entry) (ids : IdSource) :
    backend ⟨directory, .database path, ids⟩ = .table entry := by
  simp [backend, stands.find, Except.toOption]

theorem Keeps.store (keeps : Keeps folder session kind live ids) :
    session.store.Keeps kind live ids := by
  cases keeps with
  | shelf distinct => exact ⟨rfl, rfl, .memory distinct⟩
  | log stands _ kept =>
    refine ⟨?_, rfl, ?_⟩ <;> rw [Session.store, backend_log stands]
    · rfl
    · exact kept
  | table stands _ kept =>
    refine ⟨?_, rfl, ?_⟩ <;> rw [Session.store, backend_database stands]
    · rfl
    · exact kept

-- A log and a database are put back where a file or a table stood, so that every way leads where it led.
theorem Keeps.keep (keeps : Keeps folder session kind live ids) {backend : Backend}
    {live' : List Project} (same : backend.kind = kind) (kept : backend.Keeps live')
    (later : IdSource) : Keeps folder { session.keep backend with ids := later } kind live' later := by
  cases keeps with
  | shelf =>
    cases kept with
    | memory distinct => exact .shelf distinct
    | log => cases same
    | table => cases same
  | @log _ place _ _ _ stands has =>
    cases kept with
    | memory => cases same
    | log distinct fits tells =>
      simp only [Session.keep, Session.place, stands.leads]
      exact .log (stands.put (by simp)) ((Directory.foldersStay_put stands.free _).hasFolder has)
        (.log distinct fits tells)
    | table => cases same
  | @table _ place _ _ stands has =>
    cases kept with
    | memory => cases same
    | log => cases same
    | table distinct fits =>
      simp only [Session.keep, Session.place, stands.leads]
      exact .table (stands.put (by simp)) ((Directory.foldersStay_put stands.free _).hasFolder has)
        (.table distinct fits)

theorem Keeps.act (keeps : Keeps folder session kind live ids) (small : Store.Small kind live)
    (op : Operation) (fits : op.Fits) :
    ∃ live' later, op.perform ⟨.memory live, ids⟩ =
        ((session.act op.perform).1, ⟨.memory live', later⟩) ∧
      Store.Small kind live' ∧ Keeps folder (session.act op.perform).2 kind live' later := by
  obtain ⟨live', later, performed, _, small', kept⟩ :=
    Store.perform_step op keeps.store small (Or.inr fits)
  refine ⟨live', later, performed, small', ?_⟩
  have moved := keeps.keep kept.kind kept.backend later
  rw [← kept.ids] at moved ⊢
  exact moved

theorem Keeps.compact (keeps : Keeps folder session .file live ids) :
    ∃ later, session.compact = .ok later ∧ Keeps folder later .file live ids := by
  have store := keeps.store
  obtain ⟨shrinkage, backend, compacted, same, kept⟩ := store.backend.compact store.kind
  have moved := keeps.keep (same.trans store.kind) kept ids
  refine ⟨session.keep backend, ?_, ?_⟩
  · have found : session.backend.compact = .ok (shrinkage, backend) := compacted
    rw [Session.compact, found]
    rfl
  · have ids_kept : (session.keep backend).ids = ids := by
      cases keeps with
      | log stands =>
        cases kept with
        | log => simp [Session.keep, Session.place, stands.leads]
        | _ => cases same
    rw [← ids_kept] at moved
    exact ids_kept ▸ moved

/-- Where it stands, a store is found again as it was. -/
theorem Keeps.reopen (keeps : Keeps folder session kind live ids) (stays : kind ≠ .memory) :
    session.reopen folder = .ok session := by
  cases keeps with
  | shelf => exact absurd rfl stays
  | @log directory _ _ _ ids stands has =>
    have found : directory.holds (pathOf folder .file) = true := by
      simp [Directory.holds, stands.find, Except.toOption]
    have begun : Medium.begin directory folder .file =
        (.ok (.log (pathOf folder .file)), directory) := by
      simp only [Medium.begin, Medium.beginLog, Directory.makeFolders_of_hasFolder has]
      exact if_pos found
    simp [Session.reopen, Medium.kind, begun]
  | @table directory place _ ids stands has =>
    have begun : Medium.begin directory folder .sqlite =
        (.ok (.database (pathOf folder .sqlite)), directory) := by
      have leads : directory.place (FilePath.join folder Medium.databaseName) = .ok place :=
        stands.leads
      simp only [Medium.begin, Medium.beginDatabase, Directory.makeFolders_of_hasFolder has, leads,
        stands.holds]
      rfl
    simp [Session.reopen, Medium.kind, begun]

/-! ### From the beginning -/

theorem beginLog_stands {directory begun : Directory} {medium : Medium}
    (begins : Medium.beginLog directory folder = (.ok medium, begun))
    (absent : (directory.makeFolders folder).2.holds (pathOf folder .file) = false) :
    medium = .log (pathOf folder .file) ∧ begun.HasFolder folder ∧
      ∃ place, begun.Stands (pathOf folder .file) place (.file .empty) := by
  unfold Medium.beginLog at begins
  rcases made : directory.makeFolders folder with ⟨answer, later⟩
  rw [made] at begins absent
  cases answer with
  | error fault => cases begins
  | ok =>
    have missing : later.holds (FilePath.join folder Medium.logName) = false := absent
    simp only [missing] at begins
    split at begins
    · rename_i wrong
      cases wrong
    · split at begins
      · rename_i written
        cases begins
        obtain ⟨place, stands, stay⟩ := Directory.write_stands written
        exact ⟨rfl, stay.hasFolder (Directory.makeFolders_hasFolder made), place, stands⟩
      · cases begins

theorem beginDatabase_stands {directory begun : Directory} {medium : Medium}
    (begins : Medium.beginDatabase directory folder = (.ok medium, begun))
    (absent : (directory.makeFolders folder).2.holds (pathOf folder .sqlite) = false) :
    medium = .database (pathOf folder .sqlite) ∧ begun.HasFolder folder ∧
      ∃ place, begun.Stands (pathOf folder .sqlite) place (.table []) := by
  unfold Medium.beginDatabase at begins
  rcases made : directory.makeFolders folder with ⟨answer, later⟩
  rw [made] at begins absent
  cases answer with
  | error fault => cases begins
  | ok =>
    dsimp only at begins absent
    cases leads : later.place (pathOf folder .sqlite) with
    | error fault =>
      have nowhere : later.place (FilePath.join folder Medium.databaseName) = .error fault := leads
      simp [nowhere] at begins
    | ok place =>
      have here : later.place (FilePath.join folder Medium.databaseName) = .ok place := leads
      cases found : later.entry? place with
      | some entry => simp [Directory.holds, Directory.find, leads, found, bind, Except.bind,
          Except.toOption] at absent
      | none =>
        simp only [here, found] at begins
        cases begins
        have free : later.entry? place ≠ some .folder := by simp [found]
        exact ⟨rfl, (Directory.foldersStay_put free _).hasFolder (Directory.makeFolders_hasFolder made),
          place, Directory.stands_put_new leads found (by simp)⟩

theorem Fresh.keeps (fresh : session.Fresh folder kind) : Keeps folder session kind [] session.ids := by
  obtain ⟨directory, begins, absent⟩ := fresh
  obtain ⟨begun, medium, ids⟩ := session
  cases kind with
  | memory =>
    cases begins
    exact .shelf Shelf.distinct_nil
  | file =>
    obtain ⟨rfl, has, place, stands⟩ := beginLog_stands begins (absent.resolve_left (by simp))
    have empty : Directory.Stands begun _ place (.file "".toByteArray) := stands
    exact .log empty has (Backend.empty_keeps .file)
  | sqlite =>
    obtain ⟨rfl, has, place, stands⟩ := beginDatabase_stands begins (absent.resolve_left (by simp))
    exact .table stands has (Backend.empty_keeps .sqlite)

/-! ### In use -/

/-- What a session leaves and answers when something happens is what a store in memory would, to which
only operations happen. -/
theorem Keeps.serve (keeps : Keeps folder session kind live ids) (small : Store.Small kind live)
    {event : Event} (suits : event.Suits kind) (fits : ∀ op ∈ event.operation?, op.Fits) :
    ∃ answers session' live' later, session.serve folder event = .ok (answers, session') ∧
      answers = Store.answers ⟨.memory live, ids⟩ event.operation?.toList ∧
      Store.after ⟨.memory live, ids⟩ event.operation?.toList = ⟨.memory live', later⟩ ∧
      Store.Small kind live' ∧ Keeps folder session' kind live' later := by
  cases event with
  | operation op =>
    obtain ⟨live', later, performed, small', kept⟩ := keeps.act small op (fits op rfl)
    refine ⟨_, _, live', later, rfl, ?_, ?_, small', kept⟩
    · simp [Event.operation?, Store.answers, performed]
    · simp [Event.operation?, performed]
  | compaction =>
    have isLog : kind = .file := suits
    subst isLog
    obtain ⟨later, compacted, kept⟩ := keeps.compact
    exact ⟨[], later, live, ids, by simp [Session.serve, compacted], rfl, rfl, small, kept⟩
  | reopening =>
    have reopened := keeps.reopen suits
    exact ⟨[], session, live, ids, by simp [Session.serve, reopened], rfl, rfl, small, keeps⟩

-- By induction on the events: what is kept after each of them is what memory holds after the operations
-- among them, and compaction and reopening are no step of memory at all.
theorem Keeps.serveAll (keeps : Keeps folder session kind live ids) (small : Store.Small kind live)
    {events : List Event} (suit : ∀ event ∈ events, event.Suits kind)
    (fits : ∀ op ∈ events.filterMap Event.operation?, op.Fits) :
    ∃ session' live' later,
      session.serveAll folder events =
        .ok (Store.answers ⟨.memory live, ids⟩ (events.filterMap Event.operation?), session') ∧
      Store.after ⟨.memory live, ids⟩ (events.filterMap Event.operation?) =
        ⟨.memory live', later⟩ ∧
      Keeps folder session' kind live' later := by
  induction events generalizing session live ids with
  | nil => exact ⟨session, live, ids, rfl, rfl, keeps⟩
  | cons event events ih =>
    have split : (event :: events).filterMap Event.operation? =
        event.operation?.toList ++ events.filterMap Event.operation? := by
      cases found : event.operation? <;> simp [found]
    rw [split] at fits ⊢
    have first : ∀ op ∈ event.operation?, op.Fits := by
      intro op asked
      exact fits op (List.mem_append_left _ (by simpa using asked))
    obtain ⟨answers, session₁, live₁, next, served, answered, moved, small₁, kept⟩ :=
      keeps.serve small (suit event List.mem_cons_self) first
    obtain ⟨session', live', later, others, after, kept'⟩ :=
      ih kept small₁ (fun event' member => suit event' (List.mem_cons_of_mem event member))
        fun op member => fits op (List.mem_append_right _ member)
    refine ⟨session', live', later, ?_, ?_, kept'⟩
    · rw [Store.answers_append, moved, ← answered, Session.serveAll, served]
      simp only [bind, Except.bind, others]
    · rw [Store.after_append, moved, after]

/-- Stores that begin in memory, in a log and in a database with the same ids give the same answers to
the same operations, however often the log is rewritten meanwhile and the log and the database are
opened again. After that, and so after any beginning of it, they have the same project under each id,
and the same list: every project once, by name and then by id. -/
theorem backends_interchangeable {shelf log table : Session} {folder logFolder tableFolder : String}
    (shelf_fresh : shelf.Fresh folder .memory) (log_fresh : log.Fresh logFolder .file)
    (table_fresh : table.Fresh tableFolder .sqlite) (log_ids : log.ids = shelf.ids)
    (table_ids : table.ids = shelf.ids) {ops : List Operation} (fits : ∀ op ∈ ops, op.Fits)
    {logEvents tableEvents : List Event} (log_ops : logEvents.filterMap Event.operation? = ops)
    (table_ops : tableEvents.filterMap Event.operation? = ops)
    (table_suits : ∀ event ∈ tableEvents, event.Suits .sqlite) :
    ∃ answers shelf' log' table',
      shelf.serveAll folder (ops.map .operation) = .ok (answers, shelf') ∧
      log.serveAll logFolder logEvents = .ok (answers, log') ∧
      table.serveAll tableFolder tableEvents = .ok (answers, table') ∧
      (∀ id, ∃ found, shelf'.backend.get? id = .ok found ∧ log'.backend.get? id = .ok found ∧
        table'.backend.get? id = .ok found) ∧
      ∃ listed, shelf'.backend.list = .ok listed ∧ log'.backend.list = .ok listed ∧
        table'.backend.list = .ok listed ∧ listed.Pairwise Shelf.Before ∧
        ∀ p, p ∈ listed ↔ shelf'.backend.get? p.id = .ok (some p) := by
  have shelf_ops : (ops.map Event.operation).filterMap Event.operation? = ops := by
    simp [List.filterMap_map, Function.comp_def, Event.operation?]
  have shelf_suits : ∀ event ∈ ops.map Event.operation, event.Suits .memory := by
    simp [Event.Suits]
  have log_suits : ∀ event ∈ logEvents, event.Suits .file := by
    intro event _
    cases event <;> simp [Event.Suits]
  obtain ⟨shelf', live, later, shelf_served, shelf_after, shelf_keeps⟩ :=
    shelf_fresh.keeps.serveAll (Store.small_nil _) shelf_suits (shelf_ops.symm ▸ fits)
  obtain ⟨log', log_live, log_later, log_served, log_after, log_keeps⟩ :=
    log_fresh.keeps.serveAll (Store.small_nil _) log_suits (log_ops.symm ▸ fits)
  obtain ⟨table', table_live, table_later, table_served, table_after, table_keeps⟩ :=
    table_fresh.keeps.serveAll (Store.small_nil _) table_suits (table_ops.symm ▸ fits)
  rw [shelf_ops] at shelf_served shelf_after
  rw [log_ops, log_ids] at log_served log_after
  rw [table_ops, table_ids] at table_served table_after
  -- All three hold what memory would hold after these operations.
  rw [shelf_after] at log_after table_after
  cases log_after
  cases table_after
  have on_shelf := shelf_keeps.store.backend
  have in_log := log_keeps.store.backend
  have in_table := table_keeps.store.backend
  refine ⟨_, shelf', log', table', shelf_served, log_served, table_served, ?_, ?_⟩
  · intro id
    exact ⟨_, on_shelf.get? id, in_log.get? id, in_table.get? id⟩
  · refine ⟨_, on_shelf.list, in_log.list, in_table.list, Shelf.listed_sorted on_shelf.distinct, ?_⟩
    intro p
    have found : shelf'.backend.get? p.id = .ok (Shelf.get? live p.id) := on_shelf.get? p.id
    rw [Shelf.mem_listed_iff on_shelf.distinct, found, Except.ok.injEq]

def sample : BackendKind → Session
  | .memory => ⟨{}, .shelf [], .sequential "id"⟩
  | .file =>
    ⟨⟨[(["data"], .folder), (["data", "projects.jsonl"], .file .empty)]⟩,
      .log "data/projects.jsonl", .sequential "id"⟩
  | .sqlite =>
    ⟨⟨[(["data"], .folder), (["data", "bddtrack.db"], .table [])]⟩,
      .database "data/bddtrack.db", .sequential "id"⟩

theorem sample_fresh (kind : BackendKind) : (sample kind).Fresh "data" kind := by
  cases kind <;> exact ⟨{}, rfl, by decide⟩

theorem backends_interchangeable_sample :
    ∃ answers shelf log table,
      (sample .memory).serveAll "data" (Operation.sample.map .operation) = .ok (answers, shelf) ∧
      (sample .file).serveAll "data"
          (Operation.sample.flatMap fun op => [.reopening, .operation op, .compaction]) =
        .ok (answers, log) ∧
      (sample .sqlite).serveAll "data"
          (Operation.sample.flatMap fun op => [.operation op, .reopening]) = .ok (answers, table) ∧
      ∃ listed, shelf.backend.list = .ok listed ∧ log.backend.list = .ok listed ∧
        table.backend.list = .ok listed := by
  have fits : ∀ op ∈ Operation.sample, op.Fits := by
    simp [Operation.sample, Operation.Fits, Feature.Fits, Json.wordLimit, UInt64.size]
  have log_ops :
      (Operation.sample.flatMap fun op => [.reopening, .operation op, .compaction]).filterMap
        Event.operation? = Operation.sample := rfl
  have table_suits :
      ∀ event ∈ Operation.sample.flatMap fun op => [Event.operation op, .reopening],
        event.Suits .sqlite := by
    simp [Operation.sample, Event.Suits]
  obtain ⟨answers, shelf, log, table, shelf_served, log_served, table_served, _, listed, on_shelf,
      in_log, in_table, _⟩ :=
    backends_interchangeable (sample_fresh .memory) (sample_fresh .file) (sample_fresh .sqlite) rfl rfl
      fits log_ops rfl table_suits
  exact ⟨answers, shelf, log, table, shelf_served, log_served, table_served, listed, on_shelf, in_log,
    in_table⟩

end Session

end Testbook
