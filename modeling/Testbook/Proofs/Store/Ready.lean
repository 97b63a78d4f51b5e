import Testbook.Proofs.Store.Agreement

/-! What a backend must be in for a project that is put to it to be found again, and for all others to be
found as before. A log may lack the end of its last line, which can still be read: but the next record
is then written on to it, and both are lost. The store's own operations leave no such log. -/

set_option autoImplicit false

namespace Testbook

open Json (Tree)

/-! ### What was read can be written -/

theorem LogRecord.removalOfTree?_removal {t : Tree} {record : LogRecord}
    (read : removalOfTree? t = some record) : ∃ id deleted, record = .removal id deleted := by
  unfold removalOfTree? at read
  split at read
  · obtain ⟨_, _, read⟩ := Option.bind_eq_some_iff.mp read
    obtain ⟨id, _, read⟩ := Option.bind_eq_some_iff.mp read
    obtain ⟨_, _, read⟩ := Option.bind_eq_some_iff.mp read
    obtain ⟨deleted, _, read⟩ := Option.bind_eq_some_iff.mp read
    exact ⟨id, deleted, (Option.some.inj read).symm⟩
  · cases read

theorem LogRecord.ofLine?_summaries {line : List Char} {p : Project}
    (read : ofLine? line = some (.project p)) : ∀ run ∈ p.runs, run.summary.Fits := by
  obtain ⟨t, _, read⟩ := Option.bind_eq_some_iff.mp read
  split at read
  · unfold ofTree? at read
    cases removal : removalOfTree? t with
    | some record =>
      rw [removal] at read
      obtain ⟨id, deleted, rfl⟩ := removalOfTree?_removal removal
      cases read
    | none =>
      rw [removal] at read
      obtain ⟨p', found, same⟩ := Option.map_eq_some_iff.mp read
      cases same
      exact fun run member => ((Project.ofTree?_fits found).2 run member).2
  · cases read

namespace Log

theorem foldl_apply_summaries {lines : List (List Char)} {shelf : List Project}
    (start : ∀ p ∈ shelf, ∀ run ∈ p.runs, run.summary.Fits) :
    ∀ p ∈ lines.foldl apply shelf, ∀ run ∈ p.runs, run.summary.Fits := by
  induction lines generalizing shelf with
  | nil => exact start
  | cons line lines ih =>
    refine ih ?_
    intro p member
    unfold apply at member
    split at member
    · rename_i read
      rcases Shelf.mem_put member with rfl | stays
      · exact LogRecord.ofLine?_summaries read
      · exact start p stays
    · exact start p (List.mem_filter.mp member).1
    · exact start p member

theorem replay_summaries (content : String) :
    ∀ p ∈ replay content, ∀ run ∈ p.runs, run.summary.Fits :=
  foldl_apply_summaries (by simp)

end Log

theorem Table.get?_put {rows : List TableRow} {p : Project}
    (fits : ∀ run ∈ p.runs, run.summary.Fits) (id : String) :
    get? (put rows p) id = if id = p.id then .ok (some p) else get? rows id := by
  have new_id : (rowOf p).id = p.id := rfl
  unfold put
  rw [← new_id]
  by_cases same : id = (rowOf p).id
  · simp [get?, same, find?_replaceOrAppend_same, projectOf_rowOf fits, Except.map]
  · rw [if_neg same, get?, find?_replaceOrAppend_other same, get?]

theorem Table.projectOf_summaries {row : TableRow} {p : Project} (read : projectOf row = .ok p) :
    ∀ run ∈ p.runs, run.summary.Fits := by
  unfold projectOf at read
  split at read
  · rename_i document
    cases read
    exact Project.ofText?_summaries document
  · cases read

namespace Backend

/-- A log whose lines are ended, or a table in which no row keeps a project of another id. -/
inductive Ready : Backend → Prop where
  | memory (shelf : List Project) : Ready (.memory shelf)
  | log {content : String} (ended : Text.Ended content.toList) :
      Ready (.log (.file content.toByteArray))
  | table {rows : List TableRow}
      (filed : ∀ row ∈ rows, ∀ p, Table.projectOf row = .ok p → p.id = row.id) :
      Ready (.table (.table rows))

theorem Keeps.ready {backend : Backend} {live : List Project} (keeps : backend.Keeps live) :
    backend.Ready := by
  cases keeps with
  | memory => exact .memory live
  | log _ _ tells => exact .log tells.ended
  | table _ fits =>
    refine .table ?_
    intro row member p read
    obtain ⟨stored, stands, rfl⟩ := List.mem_map.mp member
    rw [Table.projectOf_rowOf (fits stored stands).summaries] at read
    cases read
    rfl

namespace Ready

variable {backend : Backend} {p : Project}

/-- What is found under an id has this id, and can be put back. -/
theorem found (ready : backend.Ready) {id : String} (found : backend.get? id = .ok (some p)) :
    p.id = id ∧ (backend.kind = .memory ∨ ∀ run ∈ p.runs, run.summary.Fits) := by
  cases ready with
  | memory => exact ⟨(Shelf.mem_of_get? (Except.ok.inj found)).2, Or.inl rfl⟩
  | @log content =>
    rw [get?_file, Except.ok.injEq] at found
    obtain ⟨member, same⟩ := Shelf.mem_of_get? found
    exact ⟨same, Or.inr (Log.replay_summaries content p member)⟩
  | @table rows filed =>
    simp only [Backend.get?, tableRows, Except.bind, Table.get?] at found
    split at found
    · cases found
    · rename_i row first
      obtain ⟨stored, read, same⟩ := map_eq_ok.mp found
      cases same
      obtain ⟨member, row_id⟩ := mem_of_find?_key first
      exact ⟨(filed row member p read).trans row_id, Or.inr (Table.projectOf_summaries read)⟩

/-- What is put is found under its id, and what is kept under others is found as before. -/
theorem put (ready : backend.Ready)
    (fits : backend.kind = .memory ∨ ∀ run ∈ p.runs, run.summary.Fits) :
    ∃ later, backend.put p = .ok later ∧ later.kind = backend.kind ∧ later.Ready ∧
      ∀ id, later.get? id = if id = p.id then .ok (some p) else backend.get? id := by
  cases ready with
  | memory shelf =>
    refine ⟨.memory (Shelf.put shelf p), rfl, rfl, .memory _, ?_⟩
    intro id
    simp only [Backend.get?, Shelf.get?_put]
    split <;> rfl
  | @log content ended =>
    have p_fits := fits.resolve_left (by simp [kind])
    refine ⟨_, extend_file content (.project p), rfl, .log (Log.ended_append content _), ?_⟩
    intro id
    rw [get?_file, get?_file, Log.replay_append_project ended p_fits, Shelf.get?_put]
    split <;> rfl
  | @table rows filed =>
    have p_fits := fits.resolve_left (by simp [kind])
    refine ⟨.table (.table (Table.put rows p)), rfl, rfl, .table ?_, Table.get?_put p_fits⟩
    intro row member stored read
    rcases mem_replaceOrAppend member with rfl | stays
    · rw [Table.projectOf_rowOf p_fits] at read
      cases read
      rfl
    · exact filed row stays stored read

end Ready

theorem put_of_get? {backend : Backend} {id : String} {found : Option Project}
    (read : backend.get? id = .ok found) (p : Project) : ∃ later, backend.put p = .ok later := by
  cases backend with
  | memory shelf => exact ⟨_, rfl⟩
  | log held =>
    obtain ⟨content, text, _⟩ := map_eq_ok.mp read
    cases bytes : held.bytes with
    | error fault =>
      rw [logText, bytes] at text
      cases text
    | ok bytes' =>
      rw [put, extend, bytes]
      exact ⟨_, rfl⟩
  | table held =>
    cases rows : tableRows held with
    | error e =>
      rw [get?, rows] at read
      cases read
    | ok rows' =>
      rw [put, rows]
      exact ⟨_, rfl⟩

end Backend

namespace Store

theorem load_eq_ok {store : Store} {id : String} {p : Project} :
    store.load id = .ok p ↔ store.backend.get? id = .ok (some p) := by
  unfold load
  cases found : store.backend.get? id with
  | error e => simp [bind, Except.bind]
  | ok p? => cases p? <;> simp [bind, Except.bind]

theorem load_of_edit {α : Type} {store : Store} {project : String}
    {f : Project → Except Error (α × Option Project)} {answer : α}
    (done : (store.edit project f).1 = .ok answer) : ∃ p, store.load project = .ok p := by
  cases loaded : store.load project with
  | error e => simp [edit, loaded, bind, Except.bind] at done
  | ok p => exact ⟨p, rfl⟩

theorem edit_put {α : Type} {store : Store} {project : String} {p changed : Project}
    {f : Project → Except Error (α × Option Project)} {answer : α}
    (loaded : store.load project = .ok p) (made : f p = .ok (answer, some changed)) :
    ∃ later, store.edit project f = (.ok answer, later) ∧ later.ids = store.ids ∧
      store.backend.put changed = .ok later.backend := by
  obtain ⟨backend, put⟩ := Backend.put_of_get? (load_eq_ok.mp loaded) changed
  refine ⟨{ store with backend }, ?_, rfl, put⟩
  rw [edit, loaded]
  simp only [bind, Except.bind, made, save, put]

theorem rewrite_put {α : Type} {store : Store} {project : String} {p changed : Project}
    {f : Project → Except Error (α × Project)} {answer : α}
    (loaded : store.load project = .ok p) (made : f p = .ok (answer, changed)) :
    ∃ later, store.rewrite project f = (.ok answer, later) ∧ later.ids = store.ids ∧
      store.backend.put changed = .ok later.backend :=
  edit_put loaded (by rw [made]; rfl)

/-- A project that is stored has become this one, and all others can be had as before. What comes next is
stored as well. -/
structure Becomes (store later : Store) (project : String) (p : Project) : Prop where
  ready : later.backend.Ready
  kind : later.backend.kind = store.backend.kind
  stored : later.getProject project = .ok p
  others : ∀ other, other ≠ project → later.getProject other = store.getProject other

theorem becomes_put {store later : Store} {p : Project} (ready : store.backend.Ready)
    (fits : store.backend.kind = .memory ∨ ∀ run ∈ p.runs, run.summary.Fits)
    (put : store.backend.put p = .ok later.backend) : store.Becomes later p.id p := by
  obtain ⟨backend, put', kind, ready', get⟩ := ready.put fits
  obtain rfl : later.backend = backend := Except.ok.inj (put.symm.trans put')
  refine ⟨ready', kind, load_eq_ok.mpr ((get p.id).trans (if_pos rfl)), ?_⟩
  intro other apart
  rw [getProject, getProject, load, load, get, if_neg apart]

/-- Whatever operations it has seen, a store that was empty in the beginning is ready for the next, and
can be asked for any project. -/
theorem after_ready (kind : BackendKind) (ids : IdSource) {ops : List Operation}
    (sized : Sized kind ops) :
    (Store.after ⟨.empty kind, ids⟩ ops).backend.Ready ∧
      ∀ id, ∃ found, (Store.after ⟨.empty kind, ids⟩ ops).backend.get? id = .ok found := by
  obtain ⟨_, _, _, _, kept⟩ := after_keeps (keeps_empty kind ids) (small_nil kind) sized
  exact ⟨kept.backend.ready, fun id => ⟨_, kept.backend.get? id⟩⟩

/-- Operations have led to the store from one that was empty, on whatever backend. -/
inductive Reached : Store → Prop where
  | after (kind : BackendKind) (ids : IdSource) {ops : List Operation} (sized : Sized kind ops) :
      Reached (Store.after ⟨.empty kind, ids⟩ ops)

namespace Reached

variable {store : Store} {id : String} {p : Project}

theorem ready (reached : store.Reached) : store.backend.Ready := by
  cases reached with
  | after kind ids sized => exact (after_ready kind ids sized).1

theorem fits (reached : store.Reached) (stored : store.getProject id = .ok p) :
    store.backend.kind = .memory ∨ p.Fits := by
  cases reached with
  | after kind ids sized =>
    obtain ⟨live, _, _, small, kept⟩ := after_keeps (keeps_empty kind ids) (small_nil kind) sized
    have stands := (Shelf.mem_of_get? (kept.getProject_eq_ok.mp stored)).1
    exact small.imp kept.kind.trans fun all => all p stands

end Reached

/-- A backend is ready, and takes what is small enough, where operations have led to it. -/
theorem ready_of {store : Store} {id : String} {p : Project} (stored : store.getProject id = .ok p)
    {small : Prop} (of_fits : p.Fits → small)
    (readable : store.Reached ∨ store.backend.Ready ∧ (store.backend.kind = .memory ∨ small)) :
    store.backend.Ready ∧ (store.backend.kind = .memory ∨ small) := by
  rcases readable with reached | ready
  · exact ⟨reached.ready, (reached.fits stored).imp_right of_fits⟩
  · exact ready

end Store

end Testbook
