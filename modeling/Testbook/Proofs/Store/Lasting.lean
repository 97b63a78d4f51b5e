import Testbook.Proofs.Store.Effect

/-! Properties of stored projects that last: an operation cannot break them, and so neither can any
number of operations. For a property of single runs it is enough to look at the few ways in which a run
comes about. -/

set_option autoImplicit false

namespace Testbook

/-! ### Runs -/

/-- A property of runs that no operation of this kind on this project can break. -/
structure Operation.KeepsRuns (op : Operation) (p : Project) (Good : Run → Prop) : Prop where
  begun : ∀ template ∈ p.features, ∀ environment version id now,
    Good (.snapshot template environment version id now)
  edited : ∀ {project run : String} {f : Run → Except Error Run} {found changed : Run},
    op.edit? = some (project, run, f) → f found = .ok changed → Good found → Good changed
  completed : ∀ (run : Run) (now : Instant), run.status ≠ .completed → Good run →
    Good (run.complete now).2
  reset : ∀ run : Run, Good run → Good run.reset
  updated : ∀ {project : String} {run : Run}, op = .updateRun project run → Good run

namespace Operation.Changes

variable {op : Operation} {ids later : IdSource} {p changed : Project}

theorem id_eq (changes : op.Changes ids later p changed) : changed.id = p.id := by
  cases changes with
  | takesFeature _ takes =>
    rcases Project.addFeature_cases takes with ⟨_, _, rfl⟩ | ⟨_, _, _, rfl⟩ <;> rfl
  | _ => rfl

theorem features (changes : op.Changes ids later p changed) :
    ∀ feature ∈ changed.features, feature ∈ p.features ∨ op.offer? ids = some (p.id, feature) := by
  intro feature member
  cases changes with
  | takesFeature offers takes =>
    rcases Project.addFeature_cases takes with ⟨_, _, rfl⟩ | ⟨_, _, _, rfl⟩
    · rcases List.mem_append.mp member with stays | new
      · exact Or.inl stays
      · exact Or.inr (List.mem_singleton.mp new ▸ offers)
    · rcases mem_replaceOrAppend member with rfl | stays
      · exact Or.inr offers
      · exact Or.inl stays
  | _ => exact Or.inl member

theorem runs {Good : Run → Prop} (changes : op.Changes ids later p changed)
    (keeps : op.KeepsRuns p Good) (start : ∀ run ∈ p.runs, Good run) :
    ∀ run ∈ changed.runs, Good run := by
  intro run member
  cases changes with
  | takesFeature _ takes =>
    rcases Project.addFeature_cases takes with ⟨_, _, rfl⟩ | ⟨_, _, _, rfl⟩
    · exact start run member
    · exact start run (List.mem_filter.mp member).1
  | beginsRun _ _ _ found =>
    rcases List.mem_append.mp member with stays | new
    · exact start run stays
    · rw [List.mem_singleton.mp new]
      exact keeps.begun _ (Project.mem_getFeature found).1 _ _ _ _
  | editsRun edits stands result =>
    rcases Project.mem_replaceRun member with rfl | stays
    · exact keeps.edited edits result (start _ (Project.mem_findRun? stands).1)
    · exact start run stays
  | completesRun stands unfinished =>
    rcases Project.mem_replaceRun member with rfl | stays
    · exact keeps.completed _ _ unfinished (start _ (Project.mem_findRun? stands).1)
    · exact start run stays
  | resetsRun stands =>
    rcases Project.mem_replaceRun member with rfl | stays
    · exact keeps.reset _ (start _ (Project.mem_findRun? stands).1)
    · exact start run stays
  | resetsFeature =>
    rcases mem_resetEach member with nothing | stays | ⟨before, stood, rfl⟩
    · cases nothing
    · exact start run stays
    · exact keeps.reset before (start before stood)
  | forgetsRuns => cases member
  | updatesRun =>
    rcases mem_replaceOrAppend member with rfl | stays
    · exact keeps.updated rfl
    · exact start run stays

end Operation.Changes

/-! ### Projects -/

/-- A property of projects that no allowed operation can break, and that what an operation brings to
the shelf has from the beginning. -/
structure Lasting (Allowed : Operation → Prop) (Holds : IdSource → Project → Prop) : Prop where
  later : ∀ {ids later : IdSource} {p : Project}, ids.Before later → Holds ids p → Holds later p
  created : ∀ {ids : IdSource} {p : Project}, p.id = ids.next.1 → p.features = [] → p.runs = [] →
    Holds ids.next.2 p
  imported : ∀ {ids : IdSource} {document : String} {p : Project},
    Allowed (.importProject document) → Project.ofText? document = some p → Holds ids p
  changed : ∀ {op : Operation} {ids later : IdSource} {p changed : Project}, Allowed op →
    ids.Before later → op.Changes ids later p changed → Holds ids p → Holds later changed

namespace Lasting

variable {Allowed : Operation → Prop} {Holds : IdSource → Project → Prop} {ids : IdSource}
  {shelf : List Project}

theorem effect (lasting : Lasting Allowed Holds) {op : Operation} {later : IdSource}
    {shelf' : List Project} (allowed : Allowed op) (effect : op.Effect ids shelf later shelf')
    (start : ∀ p ∈ shelf, Holds ids p) : ids.Before later ∧ ∀ p ∈ shelf', Holds later p := by
  cases effect with
  | unchanged before => exact ⟨before, fun p member => lasting.later before (start p member)⟩
  | created _ fresh noFeatures noRuns =>
    refine ⟨IdSource.before_next ids, ?_⟩
    intro p member
    rcases Shelf.mem_put member with rfl | stays
    · exact lasting.created fresh noFeatures noRuns
    · exact lasting.later (IdSource.before_next ids) (start p stays)
  | removed =>
    exact ⟨.refl ids, fun p member => start p (List.mem_filter.mp member).1⟩
  | imported asks read =>
    subst asks
    refine ⟨.refl ids, ?_⟩
    intro p member
    rcases Shelf.mem_put member with rfl | stays
    · exact lasting.imported allowed read
    · exact start p stays
  | changed before stands changes =>
    refine ⟨before, ?_⟩
    intro p member
    rcases Shelf.mem_put member with rfl | stays
    · exact lasting.changed allowed before changes (start _ (Shelf.mem_of_get? stands).1)
    · exact lasting.later before (start p stays)

-- By induction on the operations, with what lasts as the invariant.
theorem after (lasting : Lasting Allowed Holds) {ops : List Operation}
    (allowed : ∀ op ∈ ops, Allowed op) (start : ∀ p ∈ shelf, Holds ids p) :
    ∃ later shelf', Store.after ⟨.memory shelf, ids⟩ ops = ⟨.memory shelf', later⟩ ∧
      ids.Before later ∧ ∀ p ∈ shelf', Holds later p := by
  induction ops generalizing ids shelf with
  | nil => exact ⟨ids, shelf, rfl, .refl ids, start⟩
  | cons op ops ih =>
    obtain ⟨next, shelf₁, moved, effect⟩ := op.perform_moves ids shelf
    obtain ⟨before, holds⟩ := lasting.effect (allowed op List.mem_cons_self) effect start
    obtain ⟨later, shelf₂, result, before', holds'⟩ :=
      ih (fun op' member => allowed op' (List.mem_cons_of_mem op member)) holds
    exact ⟨later, shelf₂, by rw [Store.after_cons, moved, result], before.trans before', holds'⟩

end Lasting

end Testbook
