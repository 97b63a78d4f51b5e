import Testbook.Proofs.Store.OneOpen

/-! A completed run is frozen. Notes and attachments may still be added, but nothing else changes until
the run is reset or removed, together with others or alone. -/

set_option autoImplicit false

namespace Testbook

/-! ### Lock, status and time of completion -/

/-- In progress and open, or completed, locked and with a time of completion. -/
def Run.Settled (run : Run) : Prop :=
  (run.status = .inProgress ∧ run.locked = false ∧ run.completedAt.isSome = false) ∨
    (run.status = .completed ∧ run.locked = true ∧ run.completedAt.isSome = true)

theorem Run.Edited.settled {run changed : Run} (edited : run.Edited changed)
    (settled : run.Settled) : changed.Settled := by
  have frame := edited.sameFrame
  unfold Settled
  rw [frame.status, frame.locked, frame.completedAt]
  exact settled

theorem settled_lasting : Lasting Operation.IsOwn fun _ p => ∀ run ∈ p.runs, run.Settled where
  later _ settled := settled
  created _ _ noRuns := by simp [noRuns]
  imported own := own.elim
  changed {op} _ _ p _ own _ changes settled := by
    have keeps : op.KeepsRuns p Run.Settled :=
      { begun := fun _ _ _ _ _ _ => Or.inl ⟨rfl, rfl, rfl⟩
        edited := fun edits result settled => (Operation.edited own edits result).settled settled
        completed := fun run now unfinished _ => by
          rw [Run.complete_eq unfinished now]
          exact Or.inr ⟨rfl, rfl, rfl⟩
        reset := fun _ _ => Or.inl ⟨rfl, rfl, rfl⟩
        updated := by
          rintro project run rfl
          exact own.elim }
    exact changes.runs keeps settled

/-! ### What leaves a run alone -/

def Operation.Replaces (store : Store) (project feature : String) : Operation → Prop
  | addFeature target offered =>
    target = project ∧
      ∃ new purged, (store.addFeature target offered).1 = .ok (.replaced new feature purged)
  | uploadFeature target file content =>
    target = project ∧
      ∃ new purged, (store.uploadFeature target file content).1 = .ok (.replaced new feature purged)
  | _ => False

/-- The operation resets or removes the run, if it succeeds. -/
def Operation.Disturbs (op : Operation) (store : Store) (project : String) (run : Run) : Prop :=
  op = .resetRun project run.id ∨ op = .resetFeatureRuns project run.featureId ∨
    op = .resetAllRuns project ∨ op = .deleteProject project ∨
    op.Replaces store project run.featureId

def Undisturbed (project : String) (run : Run) : Store → List Operation → Prop
  | _, [] => True
  | store, op :: ops =>
    ¬op.Disturbs store project run ∧ Undisturbed project run (op.perform store).2 ops

/-- A completed run of a project that is changed, but not in a way that disturbs the run. -/
theorem Operation.Changes.keeps_completed {op : Operation} {ids later : IdSource}
    {p changed : Project} (own : op.IsOwn) (changes : op.Changes ids later p changed)
    {id : String} {run : Run} (found : p.findRun? id = some run) (completed : run.status = .completed)
    (notReset : op ≠ .resetRun p.id id) (notAllReset : op ≠ .resetFeatureRuns p.id run.featureId)
    (notForgotten : op ≠ .resetAllRuns p.id)
    (notReplaced : ∀ feature new purged, op.offer? ids = some (p.id, feature) →
      p.addFeature feature ≠ (.replaced new run.featureId purged, some changed)) :
    ∃ run', changed.findRun? id = some run' ∧ run.Annotated run' := by
  have run_id := (Project.mem_findRun? found).2
  cases changes with
  | takesFeature offers takes =>
    rcases Project.addFeature_cases takes with ⟨_, _, rfl⟩ | ⟨old, _, upload, rfl⟩
    · exact ⟨run, found, .refl run⟩
    · have other : run.featureId ≠ old.id := by
        intro same
        subst upload
        rw [← same] at takes notReplaced
        exact notReplaced _ _ _ offers takes
      exact ⟨run, Project.findRun?_replaceFeature found other, .refl run⟩
  | beginsRun => exact ⟨run, Project.findRun?_addRun found, .refl run⟩
  | @editsRun _ target _ stood edited edits stands result =>
    -- Aimed at this run it annotates at most, and aimed at another one it leaves this one alone.
    have closed : run.isMutable = false := by simp [Run.isMutable, completed]
    have edit := Operation.edited own edits result
    have stood_id := (Project.mem_findRun? stands).2
    by_cases hit : target = id
    · subst hit
      rw [found] at stands
      cases stands
      exact ⟨edited, Project.findRun?_replaceRun_same found edit.sameFrame.id,
        edit.annotated_of_not_mutable closed⟩
    · have other : id ≠ edited.id := by
        rw [edit.sameFrame.id, stood_id]
        exact fun same => hit same.symm
      exact ⟨run, (Project.findRun?_replaceRun_other other).trans found, .refl run⟩
  | @completesRun target now stood stands unfinished =>
    have stood_id := (Project.mem_findRun? stands).2
    have same : (stood.complete now).2.id = stood.id := by rw [Run.complete_eq unfinished]
    have other : id ≠ (stood.complete now).2.id := by
      rw [same, stood_id]
      rintro rfl
      rw [found] at stands
      cases stands
      exact unfinished completed
    exact ⟨run, (Project.findRun?_replaceRun_other other).trans found, .refl run⟩
  | @resetsRun target stood stands =>
    have stood_id := (Project.mem_findRun? stands).2
    have other : id ≠ stood.reset.id := by
      intro same
      have hit : id = target := same.trans stood_id
      exact notReset (by rw [hit])
    exact ⟨run, (Project.findRun?_replaceRun_other other).trans found, .refl run⟩
  | @resetsFeature feature =>
    have other : run.featureId ≠ feature := by
      rintro rfl
      exact notAllReset rfl
    have start : ([] ++ p.runs).find? (·.id = id) = some run := found
    exact ⟨run, find?_resetEach start other, .refl run⟩
  | forgetsRuns => exact absurd rfl notForgotten
  | updatesRun => exact own.elim

/-! ### On a shelf -/

/-- The run stands in the project, and nothing but notes and attachments has been added to it. -/
def Stands (live : List Project) (project : String) (run : Run) : Prop :=
  ∃ p later, Shelf.get? live project = some p ∧ p.findRun? run.id = some later ∧
    run.Annotated later

-- A project that is created later has an id of its own, and does not take the place of this one.
theorem issued_lasting : Lasting Operation.IsOwn fun ids p => ids.Issued p.id where
  later before issued := issued.mono before
  created fresh _ _ := fresh ▸ IdSource.next_issued _
  imported own := own.elim
  changed _ before changes issued := changes.id_eq ▸ issued.mono before

theorem edit_answer {α : Type} {live : List Project} {ids : IdSource} {project : String} {p : Project}
    (stands : Shelf.get? live project = some p) {f : Project → Except Error (α × Option Project)}
    (answer : α) (changed? : Option Project) (result : f p = .ok (answer, changed?)) :
    (Store.edit ⟨.memory live, ids⟩ project f).1 = .ok answer := by
  unfold Store.edit
  rw [Operation.load_memory, stands]
  cases changed? <;> simp [bind, Except.bind, result, Store.save, Backend.put]

theorem Operation.replaces_of_takes {op : Operation} {live : List Project} {ids : IdSource}
    {p changed : Project} {feature : Feature} {new previous : String} {purged : Nat}
    (stands : Shelf.get? live p.id = some p) (offers : op.offer? ids = some (p.id, feature))
    (takes : p.addFeature feature = (.replaced new previous purged, some changed)) :
    op.Replaces ⟨.memory live, ids⟩ p.id previous := by
  have result : Except.ok (ε := Error) (p.addFeature feature) =
      .ok (.replaced new previous purged, some changed) := by rw [takes]
  cases op with
  | addFeature =>
    cases offers
    exact ⟨rfl, new, purged, edit_answer stands _ _ result⟩
  | uploadFeature =>
    cases offers
    exact ⟨rfl, new, purged, edit_answer stands _ _ result⟩
  | _ => cases offers

theorem Stands.effect {op : Operation} {ids later : IdSource} {live live' : List Project}
    {project : String} {run : Run} (stands : Stands live project run)
    (completed : run.status = .completed) (own : op.IsOwn) (injective : Function.Injective ids.name)
    (issued : ∀ p ∈ live, ids.Issued p.id) (effect : op.Effect ids live later live')
    (undisturbed : ¬op.Disturbs ⟨.memory live, ids⟩ project run) : Stands live' project run := by
  obtain ⟨p, now, found, stood, annotated⟩ := stands
  obtain ⟨member, rfl⟩ := Shelf.mem_of_get? found
  simp only [Operation.Disturbs, not_or] at undisturbed
  obtain ⟨notReset, notAllReset, notForgotten, notDeleted, notReplaced⟩ := undisturbed
  cases effect with
  | unchanged => exact ⟨p, now, found, stood, annotated⟩
  | created _ fresh =>
    refine ⟨p, now, ?_, stood, annotated⟩
    rw [Shelf.get?_put, if_neg, found]
    intro same
    exact IdSource.next_not_issued injective (fresh ▸ same ▸ issued p member)
  | @removed target asks =>
    refine ⟨p, now, ?_, stood, annotated⟩
    rw [Shelf.get?_remove, if_neg, found]
    rintro rfl
    exact notDeleted asks
  | imported asks =>
    subst asks
    exact own.elim
  | @changed _ q changed _ stands changes =>
    rw [Stands]
    simp only [Shelf.get?_put, changes.id_eq]
    split
    · rename_i same
      rw [same, stands] at found
      cases found
      obtain ⟨now', stood', annotated'⟩ := changes.keeps_completed own stood
        (annotated.status.trans completed) notReset (annotated.featureId ▸ notAllReset) notForgotten
        fun feature new purged offers takes =>
          notReplaced (annotated.featureId ▸ Operation.replaces_of_takes stands offers takes)
      exact ⟨changed, now', rfl, stood', annotated.trans annotated'⟩
    · exact ⟨p, now, found, stood, annotated⟩

/-! ### On any backend -/

section Backends

variable {store : Store} {kind : BackendKind} {live : List Project} {ids : IdSource}
  {project : String} {run : Run}

theorem Store.Keeps.answer (keeps : store.Keeps kind live ids) (small : Store.Small kind live)
    (op : Operation) (sized : kind = .memory ∨ op.Fits) :
    (op.perform store).1 = (op.perform ⟨.memory live, ids⟩).1 := by
  obtain ⟨_, _, same, _⟩ := Store.perform_step op keeps small sized
  rw [same]

theorem Operation.replaces_of_memory {op : Operation} {feature : String}
    (keeps : store.Keeps kind live ids) (small : Store.Small kind live)
    (sized : kind = .memory ∨ op.Fits) (replaces : op.Replaces ⟨.memory live, ids⟩ project feature) :
    op.Replaces store project feature := by
  have answer := keeps.answer small op sized
  cases op with
  | addFeature =>
    obtain ⟨same, new, purged, replaced⟩ := replaces
    exact ⟨same, new, purged, answer.trans replaced⟩
  | uploadFeature =>
    obtain ⟨same, new, purged, replaced⟩ := replaces
    exact ⟨same, new, purged, answer.trans replaced⟩
  | _ => exact replaces

theorem Operation.disturbs_of_memory {op : Operation} (keeps : store.Keeps kind live ids)
    (small : Store.Small kind live) (sized : kind = .memory ∨ op.Fits)
    (disturbs : op.Disturbs ⟨.memory live, ids⟩ project run) : op.Disturbs store project run :=
  disturbs.imp_right <| Or.imp_right <| Or.imp_right <| Or.imp_right
    (Operation.replaces_of_memory keeps small sized)

-- By induction on the operations. That they do not disturb the run is asked of the store itself, and of
-- memory by way of their answers.
theorem Stands.after {ops : List Operation} (stands : Stands live project run)
    (completed : run.status = .completed) (keeps : store.Keeps kind live ids)
    (small : Store.Small kind live) (sized : Store.Sized kind ops) (own : ∀ op ∈ ops, op.IsOwn)
    (injective : Function.Injective ids.name) (issued : ∀ p ∈ live, ids.Issued p.id)
    (undisturbed : Undisturbed project run store ops) :
    ∃ live' later, (store.after ops).Keeps kind live' later ∧ Store.Small kind live' ∧
      Stands live' project run := by
  induction ops generalizing store live ids with
  | nil => exact ⟨live, ids, keeps, small, stands⟩
  | cons op ops ih =>
    have own' := own op List.mem_cons_self
    have first := sized.imp_right fun fits => fits op List.mem_cons_self
    have others : Store.Sized kind ops :=
      sized.imp_right fun fits op' member => fits op' (List.mem_cons_of_mem op member)
    obtain ⟨live₁, next, _, effect, small₁, kept⟩ := Store.perform_step op keeps small first
    obtain ⟨before, issued₁⟩ := issued_lasting.effect own' effect issued
    have calm : ¬op.Disturbs ⟨.memory live, ids⟩ project run :=
      fun disturbs => undisturbed.1 (Operation.disturbs_of_memory keeps small first disturbs)
    exact ih (stands.effect completed own' injective issued effect calm) kept small₁ others
      (fun op' member => own op' (List.mem_cons_of_mem op member)) (before.name ▸ injective) issued₁
      undisturbed.2

end Backends

/-! ### What a frozen run answers -/

section Answers

variable {live : List Project} {ids : IdSource} {project id : String} {p : Project} {run : Run}

theorem mutateRun_answer {α : Type} (stands : Shelf.get? live project = some p)
    (found : p.findRun? id = some run) {f : Run → Except Error α × Run} {answer : α} {changed : Run}
    (result : f run = (.ok answer, changed)) :
    (Store.mutateRun ⟨.memory live, ids⟩ project id f).1 = .ok (answer, changed) := by
  have mutated : p.mutateRun id f = .ok ((answer, changed), p.replaceRun changed) :=
    Project.mutateRun_eq_ok.mpr ⟨run, found, result, rfl⟩
  exact edit_answer stands (answer, changed) _ (map_eq_ok.mpr ⟨_, mutated, rfl⟩)

/-- A run that takes no results says so, whatever the result is meant for, and is completed already. -/
structure Frozen (store : Store) (project : String) (run : Run) : Prop where
  stored : store.getRun project run.id = .ok run
  step : ∀ step outcome, (store.setStepResult project run.id step outcome).1 = .ok (false, run)
  scenario : ∀ scenario outcome,
    (store.setScenarioResult project run.id scenario outcome).1 = .ok (false, run)
  bulk : ∀ scenarios outcome,
    (store.bulkSetResult project run.id scenarios outcome).1 = .ok (false, run)
  complete : ∀ now, (store.completeRun project run.id now).1 = .ok (some run)

theorem frozen_memory (stands : Shelf.get? live project = some p)
    (found : p.findRun? run.id = some run) (completed : run.status = .completed) :
    Frozen ⟨.memory live, ids⟩ project run := by
  have closed : run.isMutable = false := by simp [Run.isMutable, completed]
  constructor
  · rw [Store.getRun, Operation.load_memory, stands]
    exact Project.getRun_eq_ok.mpr found
  · intro step outcome
    exact mutateRun_answer stands found (by simp [Run.setStepResult, closed])
  · intro scenario outcome
    exact mutateRun_answer stands found (by simp [Run.setScenarioResult, closed])
  · intro scenarios outcome
    exact mutateRun_answer stands found (by simp [Run.bulkSetResult, closed])
  · intro now
    refine edit_answer stands (some run) none ?_
    simp [Project.completeRun, found, Run.complete, completed]

theorem Frozen.of_memory {store : Store} {kind : BackendKind} (keeps : store.Keeps kind live ids)
    (small : Store.Small kind live) (frozen : Frozen ⟨.memory live, ids⟩ project run) :
    Frozen store project run where
  stored := (keeps.answer small (.getRun project run.id) (Or.inr trivial)).trans frozen.stored
  step step outcome :=
    (keeps.answer small (.setStepResult project run.id step outcome) (Or.inr trivial)).trans
      (frozen.step step outcome)
  scenario scenario outcome :=
    (keeps.answer small (.setScenarioResult project run.id scenario outcome) (Or.inr trivial)).trans
      (frozen.scenario scenario outcome)
  bulk scenarios outcome :=
    (keeps.answer small (.bulkSetResult project run.id scenarios outcome) (Or.inr trivial)).trans
      (frozen.bulk scenarios outcome)
  complete now :=
    (keeps.answer small (.completeRun project run.id now) (Or.inr trivial)).trans
      (frozen.complete now)

end Answers

/-- After any of the store's own operations, on any backend, where no id is given out twice: a run is in
progress or completed, and it is completed just when it is locked and just when it has a time of
completion. A completed run stays stored through any further operations that do not reset or remove it;
meanwhile only its notes change and its attachments grow, and it answers that it takes no results and
has been completed. -/
theorem completed_run_frozen (kind : BackendKind) (ids : IdSource)
    (injective : Function.Injective ids.name) (ops : List Operation) (own : ∀ op ∈ ops, op.IsOwn)
    (sized : Store.Sized kind ops) {project : String} {p : Project}
    (stored : (Store.after ⟨.empty kind, ids⟩ ops).getProject project = .ok p) :
    (∀ run ∈ p.runs, (run.status = .inProgress ∨ run.status = .completed) ∧
      (run.status = .completed ↔ run.locked = true) ∧
      (run.status = .completed ↔ run.completedAt.isSome = true)) ∧
    ∀ run ∈ p.runs, run.status = .completed →
      ∀ more : List Operation, (∀ op ∈ more, op.IsOwn) → Store.Sized kind more →
        Undisturbed project run (Store.after ⟨.empty kind, ids⟩ ops) more →
        ∃ later, run.Annotated later ∧
          Frozen (Store.after ⟨.empty kind, ids⟩ (ops ++ more)) project later := by
  constructor
  · intro run member
    obtain ⟨_, _, settled⟩ := settled_lasting.stored own sized stored
    rcases settled run member with ⟨status, locked, completedAt⟩ | ⟨status, locked, completedAt⟩
    · simp [status, locked, completedAt]
    · simp [status, locked, completedAt]
  · intro run member completed more own' sized' undisturbed
    obtain ⟨live, later, plain, small, kept⟩ :=
      Store.after_keeps (Store.keeps_empty kind ids) (Store.small_nil kind) sized
    have found := kept.getProject_eq_ok.mp stored
    obtain ⟨_, before', oneOpen⟩ := oneOpen_lasting.stored own sized stored
    have distinct := (oneOpen (before'.name ▸ injective)).distinct
    have nothing : ∀ p ∈ ([] : List Project), ids.Issued p.id := by simp
    obtain ⟨later', live', plain', before, issued⟩ := issued_lasting.after own nothing
    rw [plain] at plain'
    cases plain'
    have stands : Stands live project run :=
      ⟨p, run, found, Project.findRun?_of_mem distinct member, .refl run⟩
    obtain ⟨live₂, last, kept₂, small₂, p₂, run₂, found₂, stood₂, annotated⟩ :=
      stands.after completed kept small sized' own' (before.name ▸ injective) issued undisturbed
    rw [Store.after_append]
    refine ⟨run₂, annotated, Frozen.of_memory kept₂ small₂ ?_⟩
    exact frozen_memory found₂ (annotated.id ▸ stood₂) (annotated.status.trans completed)

/-- The run of the sample, completed, and after it a result, a note and another run. -/
theorem completed_run_frozen_sample :
    let ops := Operation.sample ++ [.completeRun "id-1" "id-2" ⟨1, 0, by decide⟩]
    let more := [.setStepResult "id-1" "id-2" "when" .failed,
      .setStepNote "id-1" "id-2" "when" "too late",
      .openRun "id-1" "login" .staging "1.0" ⟨2, 0, by decide⟩]
    ∃ p run, (Store.after ⟨.empty .memory, .sequential "id"⟩ ops).getProject "id-1" = .ok p ∧
      run ∈ p.runs ∧ run.status = .completed ∧ ∃ later, run.Annotated later ∧
        Frozen (Store.after ⟨.empty .memory, .sequential "id"⟩ (ops ++ more)) "id-1" later := by
  intro ops more
  obtain ⟨p, run, stored, found, completed⟩ :
      ∃ p run, (Store.after ⟨.empty .memory, .sequential "id"⟩ ops).getProject "id-1" = .ok p ∧
        p.findRun? "id-2" = some run ∧ run.status = .completed := ⟨_, _, rfl, rfl, rfl⟩
  have member := (Project.mem_findRun? found).1
  have own : ∀ op ∈ ops, op.IsOwn :=
    List.forall_mem_append.mpr ⟨Operation.sample_own, by simp [Operation.IsOwn]⟩
  refine ⟨p, run, stored, member, completed, ?_⟩
  exact (completed_run_frozen .memory (.sequential "id") (IdSource.sequential_injective "id") ops own
    (Or.inl rfl) stored).2 run member completed more (by simp [more, Operation.IsOwn]) (Or.inl rfl)
    (by simp [more, Undisturbed, Operation.Disturbs, Operation.Replaces])

end Testbook
