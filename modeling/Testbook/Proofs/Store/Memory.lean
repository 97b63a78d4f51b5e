import Testbook.Proofs.Store.Effect

/-! What a change computes in memory. It is read off the change alone, so that success and failure are
known as soon as it is known what the change makes of the project. -/

set_option autoImplicit false

namespace Testbook

section Edits

variable {α : Type} {live : List Project} {ids : IdSource} {project id : String} {p : Project}
  {run : Run}

theorem load_memory_eq_ok : Store.load ⟨.memory live, ids⟩ project = .ok p ↔
    Shelf.get? live project = some p := by
  rw [Operation.load_memory]
  cases Shelf.get? live project <;> simp

theorem edit_memory (stands : Shelf.get? live project = some p)
    (f : Project → Except Error (α × Option Project)) :
    Store.edit ⟨.memory live, ids⟩ project f =
      match f p with
      | .error e => (.error e, ⟨.memory live, ids⟩)
      | .ok (answer, changed?) =>
        (.ok answer, ⟨.memory (changed?.elim live (Shelf.put live)), ids⟩) := by
  unfold Store.edit
  rw [Operation.load_memory, stands]
  cases result : f p with
  | error e => simp [bind, Except.bind, result]
  | ok pair =>
    obtain ⟨answer, changed?⟩ := pair
    cases changed? <;> simp [bind, Except.bind, result, Store.save, Backend.put]

theorem rewrite_memory (stands : Shelf.get? live project = some p)
    (f : Project → Except Error (α × Project)) :
    Store.rewrite ⟨.memory live, ids⟩ project f =
      match f p with
      | .error e => (.error e, ⟨.memory live, ids⟩)
      | .ok (answer, changed) => (.ok answer, ⟨.memory (Shelf.put live changed), ids⟩) := by
  rw [Store.rewrite, edit_memory stands]
  cases f p <;> rfl

theorem mutateRun_memory (stands : Shelf.get? live project = some p)
    (found : p.findRun? id = some run) (f : Run → Except Error α × Run) :
    Store.mutateRun ⟨.memory live, ids⟩ project id f =
      match f run with
      | (.error e, _) => (.error e, ⟨.memory live, ids⟩)
      | (.ok answer, changed) =>
        (.ok (answer, changed), ⟨.memory (Shelf.put live (p.replaceRun changed)), ids⟩) := by
  rw [Store.mutateRun, rewrite_memory stands, Project.mutateRun_found found]
  obtain ⟨answer | e, changed⟩ := f run <;> rfl

theorem edit_eq_ok {f : Project → Except Error (α × Option Project)} {answer : α} {after : Store}
    (done : Store.edit ⟨.memory live, ids⟩ project f = (.ok answer, after)) :
    ∃ p changed?, Shelf.get? live project = some p ∧ f p = .ok (answer, changed?) ∧
      after = ⟨.memory (changed?.elim live (Shelf.put live)), ids⟩ := by
  cases stands : Shelf.get? live project with
  | none =>
    rw [Store.edit, Operation.load_memory, stands] at done
    cases done
  | some p =>
    rw [edit_memory stands] at done
    cases result : f p with
    | error e =>
      rw [result] at done
      cases done
    | ok pair =>
      rw [result] at done
      cases done
      exact ⟨p, pair.2, rfl, result, rfl⟩

theorem rewrite_eq_ok {f : Project → Except Error (α × Project)} {answer : α} {after : Store}
    (done : Store.rewrite ⟨.memory live, ids⟩ project f = (.ok answer, after)) :
    ∃ p changed, Shelf.get? live project = some p ∧ f p = .ok (answer, changed) ∧
      after = ⟨.memory (Shelf.put live changed), ids⟩ := by
  obtain ⟨p, changed?, stands, result, moved⟩ := edit_eq_ok done
  obtain ⟨⟨_, changed⟩, rewritten, pair⟩ := map_eq_ok.mp result
  cases pair
  exact ⟨p, changed, stands, rewritten, moved⟩

end Edits

/-! ### Opening and starting -/

section Versions

variable {store later : Store} {project feature text version : String} {environment : Environment}
  {now : Instant} {p : Project} {run : Run}

theorem Project.openRun?_of_hasVersion (free : p.hasVersion feature environment version = false) :
    p.openRun? feature environment version = none := by
  refine List.find?_eq_none.mpr ?_
  intro run member
  have other : run.isFor feature environment version = false := by
    simpa using List.any_eq_false.mp free run member
  simp [other]

theorem save_eq_ok {α : Type} {answer answer' : α} (saved : store.save p answer = (.ok answer', later)) :
    answer' = answer ∧
      ∃ backend, store.backend.put p = .ok backend ∧ later = { store with backend } := by
  unfold Store.save at saved
  split at saved
  · rename_i backend put
    cases saved
    exact ⟨rfl, backend, put, rfl⟩
  · cases saved

theorem versionOf_again (valid : versionOf text = .ok version) : versionOf version = .ok version :=
  versionOf_eq_ok.mpr (Text.trimmed?_spec (versionOf_eq_ok.mp valid)).2.2

theorem openRun_eq (valid : versionOf text = .ok version) (loaded : store.load project = .ok p) :
    store.openRun project feature environment text now =
      match p.openRun? feature environment version with
      | some run => (.ok run, store)
      | none =>
        match p.getFeature feature with
        | .error e => (.error e, store)
        | .ok template =>
          let run := Run.snapshot template environment version store.ids.next.1 now
          store.takeId.2.save (p.addRun run) run := by
  rw [Store.openRun, valid, loaded]
  rfl

theorem startRun_eq (valid : versionOf text = .ok version) (loaded : store.load project = .ok p) :
    store.startRun project feature environment text now =
      if p.hasVersion feature environment version then
        (.error (.clash (.versionTaken version environment)), store)
      else
        match p.getFeature feature with
        | .error e => (.error e, store)
        | .ok template =>
          let run := Run.snapshot template environment version store.ids.next.1 now
          store.takeId.2.save (p.addRun run) run := by
  rw [Store.startRun, valid, loaded]
  cases taken : p.hasVersion feature environment version with
  | true => simp [taken]
  | false =>
    simp only [taken, Bool.false_eq_true, if_false]
    rw [openRun_eq (versionOf_again valid) loaded, Project.openRun?_of_hasVersion taken]

/-- A run that is opened either stood there in progress, or is begun and stands at the end. -/
theorem openRun_eq_ok
    (opened : store.openRun project feature environment text now = (.ok run, later)) :
    ∃ p version, store.load project = .ok p ∧ versionOf text = .ok version ∧
      (p.openRun? feature environment version = some run ∧ later = store ∨
        ∃ template backend, p.getFeature feature = .ok template ∧
          run = .snapshot template environment version store.ids.next.1 now ∧
          store.backend.put (p.addRun run) = .ok backend ∧ later = ⟨backend, store.ids.next.2⟩) := by
  cases valid : versionOf text with
  | error e =>
    rw [Store.openRun, valid] at opened
    cases opened
  | ok version =>
    cases loaded : store.load project with
    | error e =>
      rw [Store.openRun, valid, loaded] at opened
      cases opened
    | ok p =>
      rw [openRun_eq valid loaded] at opened
      refine ⟨p, version, rfl, rfl, ?_⟩
      cases known : p.openRun? feature environment version with
      | some run' =>
        rw [known] at opened
        cases opened
        exact Or.inl ⟨rfl, rfl⟩
      | none =>
        rw [known] at opened
        cases found : p.getFeature feature with
        | error e =>
          rw [found] at opened
          cases opened
        | ok template =>
          rw [found] at opened
          obtain ⟨rfl, backend, put, rfl⟩ := save_eq_ok opened
          exact Or.inr ⟨template, backend, rfl, rfl, put, rfl⟩

theorem startRun_eq_ok
    (started : store.startRun project feature environment text now = (.ok run, later)) :
    ∃ p version template backend, store.load project = .ok p ∧ versionOf text = .ok version ∧
      p.hasVersion feature environment version = false ∧ p.getFeature feature = .ok template ∧
      run = .snapshot template environment version store.ids.next.1 now ∧
      store.backend.put (p.addRun run) = .ok backend ∧ later = ⟨backend, store.ids.next.2⟩ := by
  cases valid : versionOf text with
  | error e =>
    rw [Store.startRun, valid] at started
    cases started
  | ok version =>
    cases loaded : store.load project with
    | error e =>
      rw [Store.startRun, valid, loaded] at started
      cases started
    | ok p =>
      rw [startRun_eq valid loaded] at started
      cases taken : p.hasVersion feature environment version with
      | true =>
        rw [taken] at started
        cases started
      | false =>
        rw [taken] at started
        cases found : p.getFeature feature with
        | error e =>
          rw [found] at started
          cases started
        | ok template =>
          rw [found] at started
          obtain ⟨rfl, backend, put, rfl⟩ := save_eq_ok started
          exact ⟨p, version, template, backend, rfl, rfl, taken, found, rfl, put, rfl⟩

end Versions

namespace Operation

variable {α : Type} {op : Operation} {live : List Project} {ids : IdSource} {p : Project} {run : Run}
  {project id : String} {f : Run → Except Error Run}

def editedShelf (live : List Project) (p : Project) (result : Except Error Run) : List Project :=
  match result with
  | .ok changed => Shelf.put live (p.replaceRun changed)
  | .error _ => live

theorem mutateRun_shelf (stands : Shelf.get? live project = some p)
    (found : p.findRun? id = some run) (g : Run → Except Error α × Run) :
    (Store.mutateRun ⟨.memory live, ids⟩ project id g).2 =
      ⟨.memory (editedShelf live p (Run.kept (g run))), ids⟩ := by
  rw [mutateRun_memory stands found]
  obtain ⟨answer | e, changed⟩ := g run <;> rfl

theorem annotate_shelf (stands : Shelf.get? live project = some p)
    (found : p.findRun? id = some run) (g : Run → Except Error Unit × Run) :
    (Store.annotate ⟨.memory live, ids⟩ project id g).2 =
      ⟨.memory (editedShelf live p (Run.kept (g run))), ids⟩ := by
  rw [Store.annotate_eq, mutateRun_shelf stands found]

theorem perform_edit (edits : op.edit? = some (project, id, f))
    (stands : Shelf.get? live project = some p) (found : p.findRun? id = some run) :
    (op.perform ⟨.memory live, ids⟩).2 = ⟨.memory (editedShelf live p (f run)), ids⟩ := by
  cases op with
  | mutateRun => cases edits; exact mutateRun_shelf stands found _
  | setStepResult => cases edits; exact mutateRun_shelf stands found _
  | setScenarioResult => cases edits; exact mutateRun_shelf stands found _
  | bulkSetResult => cases edits; exact mutateRun_shelf stands found _
  | setStepNote => cases edits; exact annotate_shelf stands found _
  | setScenarioNote => cases edits; exact annotate_shelf stands found _
  | addStepAttachment => cases edits; exact annotate_shelf stands found _
  | addScenarioAttachment => cases edits; exact annotate_shelf stands found _
  | _ => cases edits

end Operation

end Testbook
