import Testbook.Proofs.Store.Frozen
import Testbook.Proofs.Store.Grounded
import Testbook.Proofs.Store.Memory
import Testbook.Proofs.Store.Ready

/-! Opening a version again takes up the run in progress where it was left: what has been recorded since
is there, and nothing is lost by asking. Starting a version never takes up a run; it is refused where the
version has one, in progress or not. -/

set_option autoImplicit false

namespace Testbook

/-! ### What is recorded on a run -/

/-- What an operation makes of a run in progress of a project. A change that fails makes nothing of it,
and neither does one that is aimed at another run. -/
def Run.recorded (project : String) (run : Run) : Operation → Run
  | .resetRun target id => if target = project ∧ id = run.id then run.reset else run
  | .resetFeatureRuns target feature =>
    if target = project ∧ feature = run.featureId then run.reset else run
  | op =>
    match op.edit? with
    | some (target, id, f) =>
      if target = project ∧ id = run.id then (f run).toOption.getD run else run
    | none => run

def Run.since (project : String) (run : Run) (ops : List Operation) : Run :=
  ops.foldl (·.recorded project) run

/-- The operation completes a run of a feature or removes it, alone or together with others. -/
def Operation.Ends (op : Operation) (store : Store) (project run feature : String) : Prop :=
  (∃ now, op = .completeRun project run now) ∨ op = .resetAllRuns project ∨
    op = .deleteProject project ∨ op.Replaces store project feature

/-- Each of the operations is as it should be in the store that it finds. -/
def Store.Throughout (Fine : Operation → Store → Prop) : Store → List Operation → Prop
  | _, [] => True
  | store, op :: ops => Fine op store ∧ Throughout Fine (op.perform store).2 ops

namespace Operation

variable {op : Operation} {project : String} {run : Run}

def AimsAt (op : Operation) (project : String) (run : Run) : Prop :=
  (∃ f, op.edit? = some (project, run.id, f)) ∨ op = .resetRun project run.id ∨
    op = .resetFeatureRuns project run.featureId

theorem recorded_of_edit {f : Run → Except Error Run} (edits : op.edit? = some (project, run.id, f)) :
    run.recorded project op = (f run).toOption.getD run := by
  cases op <;> cases edits <;> simp [Run.recorded, edit?]

theorem recorded_of_unaimed (unaimed : ¬op.AimsAt project run) : run.recorded project op = run := by
  simp only [AimsAt, not_or, not_exists] at unaimed
  obtain ⟨notEdited, notReset, notAllReset⟩ := unaimed
  unfold Run.recorded
  split
  · rw [if_neg]
    rintro ⟨rfl, rfl⟩
    exact notReset rfl
  · rw [if_neg]
    rintro ⟨rfl, rfl⟩
    exact notAllReset rfl
  · split
    · rename_i target id f edits
      rw [if_neg]
      rintro ⟨rfl, rfl⟩
      exact notEdited f edits
    · rfl

end Operation

/-- Still for the same feature, environment and version, and still in progress. -/
structure Run.Continues (run later : Run) : Prop where
  id : later.id = run.id
  featureId : later.featureId = run.featureId
  environment : later.environment = run.environment
  version : later.version = run.version
  status : run.status = .inProgress → later.status = .inProgress

theorem Run.Continues.refl (run : Run) : run.Continues run :=
  ⟨rfl, rfl, rfl, rfl, fun inProgress => inProgress⟩

theorem Run.Continues.trans {a b c : Run} (first : a.Continues b) (second : b.Continues c) :
    a.Continues c where
  id := second.id.trans first.id
  featureId := second.featureId.trans first.featureId
  environment := second.environment.trans first.environment
  version := second.version.trans first.version
  status inProgress := second.status (first.status inProgress)

theorem Run.reset_continues (run : Run) : run.Continues run.reset :=
  ⟨rfl, rfl, rfl, rfl, fun _ => rfl⟩

theorem Run.Edited.continues {run changed : Run} (edited : run.Edited changed) :
    run.Continues changed :=
  have frame := edited.sameFrame
  ⟨frame.id, frame.featureId, frame.environment, frame.version, frame.status.trans⟩

theorem Run.recorded_continues {op : Operation} (own : op.IsOwn) (project : String) (run : Run) :
    run.Continues (run.recorded project op) := by
  by_cases aimed : op.AimsAt project run
  · rcases aimed with ⟨f, edits⟩ | rfl | rfl
    · rw [Operation.recorded_of_edit edits]
      cases result : f run with
      | error e => exact .refl run
      | ok changed => exact (Operation.edited own edits result).continues
    · simpa [recorded] using run.reset_continues
    · simpa [recorded] using run.reset_continues
  · rw [Operation.recorded_of_unaimed aimed]
    exact .refl run

/-- A run that an operation does not aim at and does not end is found as before. -/
theorem Operation.Changes.findRun?_unaimed {op : Operation} {ids later : IdSource}
    {p changed : Project} (own : op.IsOwn) (changes : op.Changes ids later p changed) {run : Run}
    (found : p.findRun? run.id = some run) (unaimed : ¬op.AimsAt p.id run)
    (notCompleted : ∀ now, op ≠ .completeRun p.id run.id now) (notForgotten : op ≠ .resetAllRuns p.id)
    (notReplaced : ∀ feature new purged, op.offer? ids = some (p.id, feature) →
      p.addFeature feature ≠ (.replaced new run.featureId purged, some changed)) :
    changed.findRun? run.id = some run := by
  simp only [AimsAt, not_or, not_exists] at unaimed
  obtain ⟨notEdited, notReset, notAllReset⟩ := unaimed
  -- What stands in the place of another run has an id other than this one.
  have apart {target : String} {stood new : Run} (stands : p.findRun? target = some stood)
      (same : new.id = stood.id) (miss : target ≠ run.id) :
      (p.replaceRun new).findRun? run.id = some run := by
    have stood_id := (Project.mem_findRun? stands).2
    refine (Project.findRun?_replaceRun_other ?_).trans found
    rw [same, stood_id]
    exact miss.symm
  cases changes with
  | takesFeature offers takes =>
    rcases Project.addFeature_cases takes with ⟨_, _, rfl⟩ | ⟨old, _, upload, rfl⟩
    · exact found
    · refine Project.findRun?_replaceFeature found ?_
      intro same
      subst upload
      rw [← same] at takes notReplaced
      exact notReplaced _ _ _ offers takes
  | beginsRun => exact Project.findRun?_addRun found
  | editsRun edits stands result =>
    refine apart stands (Operation.edited own edits result).sameFrame.id ?_
    rintro rfl
    exact notEdited _ edits
  | @completesRun target now _ stands unfinished =>
    refine apart stands (by rw [Run.complete_eq unfinished]) ?_
    rintro rfl
    exact notCompleted now rfl
  | resetsRun stands =>
    refine apart stands rfl ?_
    rintro rfl
    exact notReset rfl
  | resetsFeature =>
    have start : ([] ++ p.runs).find? (·.id = run.id) = some run := found
    refine find?_resetEach start ?_
    rintro rfl
    exact notAllReset rfl
  | forgetsRuns => exact absurd rfl notForgotten
  | updatesRun => exact own.elim

/-! ### In memory -/

structure Sound (ids : IdSource) (p : Project) : Prop where
  issued : ids.Issued p.id
  oneOpen : OneOpen ids p.runs
  grounded : Grounded ids p

theorem sound_lasting :
    Lasting Operation.FromFiles fun ids p => Function.Injective ids.name → Sound ids p where
  later before sound injective :=
    have before' := sound (before.name ▸ injective)
    ⟨before'.issued.mono before, before'.oneOpen.mono before, before'.grounded.mono before⟩
  created fresh noFeatures noRuns injective :=
    ⟨issued_lasting.created fresh noFeatures noRuns,
      oneOpen_lasting.created fresh noFeatures noRuns injective,
      grounded_lasting.created fresh noFeatures noRuns injective⟩
  imported fromFiles := fromFiles.elim
  changed fromFiles before changes sound injective :=
    have injective' := before.name ▸ injective
    have stood := sound injective'
    ⟨changes.id_eq ▸ stood.issued.mono before,
      changes.oneOpen fromFiles.own injective' before stood.oneOpen,
      changes.grounded fromFiles injective' before stood.grounded⟩

structure Underway (live : List Project) (project : String) (run : Run) : Prop where
  stands : ∃ p, Shelf.get? live project = some p ∧ p.findRun? run.id = some run
  inProgress : run.status = .inProgress

section Memory

variable {op : Operation} {ids later : IdSource} {live live' : List Project} {project : String}
  {run changed : Run} {p : Project}

theorem underway_replaceRun (stands : Shelf.get? live project = some p)
    (found : p.findRun? run.id = some run) (same : changed.id = run.id)
    (inProgress : changed.status = .inProgress) :
    Underway (Shelf.put live (p.replaceRun changed)) project changed := by
  refine ⟨⟨p.replaceRun changed, ?_, ?_⟩, inProgress⟩
  · rw [Shelf.get?_put]
    exact if_pos (Shelf.mem_of_get? stands).2.symm
  · rw [same]
    exact Project.findRun?_replaceRun_same found same

/-- An operation that is aimed at a run in progress leaves it in progress, with what it records. -/
theorem Underway.aimed (underway : Underway live project run) (own : op.IsOwn)
    (sound : ∀ p ∈ live, Sound ids p) (aimed : op.AimsAt project run)
    (moved : (op.perform ⟨.memory live, ids⟩).2 = ⟨.memory live', later⟩) :
    Underway live' project (run.recorded project op) := by
  have continues := Run.recorded_continues own project run
  have inProgress := continues.status underway.inProgress
  obtain ⟨p, stands, found⟩ := underway.stands
  have holds := sound p (Shelf.mem_of_get? stands).1
  have member := (Project.mem_findRun? found).1
  rcases aimed with ⟨f, edits⟩ | rfl | rfl
  · rw [Operation.recorded_of_edit edits] at continues inProgress ⊢
    rw [Operation.perform_edit edits stands found] at moved
    cases moved
    cases result : f run with
    | error e => exact underway
    | ok changed =>
      rw [result] at continues inProgress
      exact underway_replaceRun stands found continues.id inProgress
  · have alone := holds.oneOpen.openSibling?_of_mem member underway.inProgress
    have reset : p.resetRun run.id = .ok (run.reset, p.replaceRun run.reset) := by
      simp [Project.resetRun, Project.getRun_eq_ok.mpr found, bind, Except.bind, alone]
    rw [Operation.perform, Store.resetRun, rewrite_memory stands, reset] at moved
    cases moved
    have same : run.reset.id = run.id := rfl
    simpa [Run.recorded] using underway_replaceRun stands found same rfl
  · obtain ⟨feature, known, follows⟩ := holds.grounded.runs run member
    obtain ⟨_, template⟩ := Project.getFeature_of_mem known
    rw [follows.id] at template
    have reset : p.resetFeatureRuns run.featureId = .ok ((resetEach run.featureId [] p.runs).2,
        { p with runs := (resetEach run.featureId [] p.runs).1 }) := by
      simp only [Project.resetFeatureRuns, template, bind, Except.bind]
    rw [Operation.perform, Store.resetFeatureRuns, rewrite_memory stands, reset] at moved
    cases moved
    have start : OneOpen ids ([] ++ p.runs) := holds.oneOpen
    have reopened := OneOpen.mem_resetEach_reset start member underway.inProgress
    have still := start.resetEach.find?_of_mem reopened
    have turned : run.recorded project (.resetFeatureRuns project run.featureId) = run.reset := by
      simp [Run.recorded]
    rw [turned]
    refine ⟨⟨{ p with runs := (resetEach run.featureId [] p.runs).1 }, ?_, still⟩, rfl⟩
    rw [Shelf.get?_put]
    exact if_pos (Shelf.mem_of_get? stands).2.symm

/-- An operation that is not, and does not end it, leaves it as it is. -/
theorem Underway.unaimed (underway : Underway live project run) (own : op.IsOwn)
    (injective : Function.Injective ids.name) (sound : ∀ p ∈ live, Sound ids p)
    (unaimed : ¬op.AimsAt project run) (effect : op.Effect ids live later live')
    (unended : ¬op.Ends ⟨.memory live, ids⟩ project run.id run.featureId) :
    Underway live' project run := by
  obtain ⟨p, found, stood⟩ := underway.stands
  obtain ⟨member, rfl⟩ := Shelf.mem_of_get? found
  simp only [Operation.Ends, not_or, not_exists] at unended
  obtain ⟨notCompleted, notForgotten, notDeleted, notReplaced⟩ := unended
  refine ⟨?_, underway.inProgress⟩
  cases effect with
  | unchanged => exact underway.stands
  | created _ fresh =>
    refine ⟨p, ?_, stood⟩
    rw [Shelf.get?_put, if_neg, found]
    intro same
    exact IdSource.next_not_issued injective (fresh ▸ same ▸ (sound p member).issued)
  | removed asks =>
    refine ⟨p, ?_, stood⟩
    rw [Shelf.get?_remove, if_neg, found]
    rintro rfl
    exact notDeleted asks
  | imported asks =>
    subst asks
    exact own.elim
  | @changed _ q changed _ stands changes =>
    simp only [Shelf.get?_put, changes.id_eq]
    split
    · rename_i same
      rw [same, stands] at found
      cases found
      exact ⟨changed, rfl, changes.findRun?_unaimed own stood unaimed notCompleted notForgotten
        fun feature new purged offers takes =>
          notReplaced (Operation.replaces_of_takes stands offers takes)⟩
    · exact ⟨p, found, stood⟩

theorem Underway.step (underway : Underway live project run) (own : op.IsOwn)
    (injective : Function.Injective ids.name) (sound : ∀ p ∈ live, Sound ids p)
    (effect : op.Effect ids live later live')
    (moved : (op.perform ⟨.memory live, ids⟩).2 = ⟨.memory live', later⟩)
    (unended : ¬op.Ends ⟨.memory live, ids⟩ project run.id run.featureId) :
    Underway live' project (run.recorded project op) := by
  by_cases aimed : op.AimsAt project run
  · exact underway.aimed own sound aimed moved
  · rw [Operation.recorded_of_unaimed aimed]
    exact underway.unaimed own injective sound aimed effect unended

end Memory

/-! ### On any backend -/

section Backends

variable {store : Store} {kind : BackendKind} {live : List Project} {ids : IdSource}
  {project feature text version : String} {environment : Environment} {now : Instant} {run : Run}

theorem Operation.ends_of_memory {op : Operation} {id : String} (keeps : store.Keeps kind live ids)
    (small : Store.Small kind live) (sized : kind = .memory ∨ op.Fits)
    (ends : op.Ends ⟨.memory live, ids⟩ project id feature) : op.Ends store project id feature :=
  ends.imp_right <| Or.imp_right <| Or.imp_right (Operation.replaces_of_memory keeps small sized)

-- By induction on the operations, with what has been recorded so far as the run that is underway.
theorem Underway.after {ops : List Operation} (underway : Underway live project run)
    (keeps : store.Keeps kind live ids) (small : Store.Small kind live)
    (sized : Store.Sized kind ops) (fromFiles : ∀ op ∈ ops, op.FromFiles)
    (injective : Function.Injective ids.name) (sound : ∀ p ∈ live, Sound ids p)
    (unended : store.Throughout
      (fun op store => ¬op.Ends store project run.id run.featureId) ops) :
    ∃ live' later, (store.after ops).Keeps kind live' later ∧ (∀ p ∈ live', Sound later p) ∧
      run.Continues (run.since project ops) ∧ Underway live' project (run.since project ops) := by
  induction ops generalizing store live ids run with
  | nil => exact ⟨live, ids, keeps, sound, .refl run, underway⟩
  | cons op ops ih =>
    have admitted := fromFiles op List.mem_cons_self
    have first := sized.imp_right fun fits => fits op List.mem_cons_self
    have others : Store.Sized kind ops :=
      sized.imp_right fun fits op' member => fits op' (List.mem_cons_of_mem op member)
    obtain ⟨live₁, next, same, effect, small₁, kept⟩ := Store.perform_step op keeps small first
    have moved : (op.perform ⟨.memory live, ids⟩).2 = ⟨.memory live₁, next⟩ := by rw [same]
    obtain ⟨before, sound₁⟩ :=
      sound_lasting.effect admitted effect fun p member _ => sound p member
    have injective₁ : Function.Injective next.name := before.name ▸ injective
    have calm : ¬op.Ends ⟨.memory live, ids⟩ project run.id run.featureId :=
      fun ends => unended.1 (Operation.ends_of_memory keeps small first ends)
    have step := underway.step admitted.own injective sound effect moved calm
    have continues := Run.recorded_continues admitted.own project run
    have unended₁ := unended.2
    rw [← continues.id, ← continues.featureId] at unended₁
    obtain ⟨live₂, later, kept₂, sound₂, continues₂, underway₂⟩ :=
      ih step kept small₁ others (fun op' member => fromFiles op' (List.mem_cons_of_mem op member))
        injective₁ (fun p member => sound₁ p member injective₁) unended₁
    exact ⟨live₂, later, kept₂, sound₂, continues.trans continues₂, underway₂⟩

theorem underway_openRun {live' : List Project} {later : IdSource}
    (done : Store.openRun ⟨.memory live, ids⟩ project feature environment text now =
      (.ok run, ⟨.memory live', later⟩))
    (sound : ∀ p ∈ live', Sound later p) :
    Underway live' project run ∧
      ∃ version, versionOf text = .ok version ∧ run.isFor feature environment version = true := by
  obtain ⟨p, version, loaded, valid, ⟨known, after⟩ | ⟨template, _, found, rfl, put, after⟩⟩ :=
    openRun_eq_ok done
  · cases after
    have member := List.mem_of_find?_eq_some known
    have open' := List.find?_some known
    simp only [Bool.and_eq_true, decide_eq_true_eq] at open'
    have stands := load_memory_eq_ok.mp loaded
    have stood := (sound p (Shelf.mem_of_get? stands).1).oneOpen.find?_of_mem member
    exact ⟨⟨⟨p, stands, stood⟩, open'.2⟩, version, valid, open'.1⟩
  · cases put
    cases after
    have stands := load_memory_eq_ok.mp loaded
    have put := Shelf.mem_put_self live
      (p.addRun (.snapshot template environment version ids.next.1 now))
    have stood := (sound _ put).oneOpen.find?_of_mem
      (List.mem_append_right _ (List.mem_singleton_self _))
    refine ⟨⟨⟨_, ?_, stood⟩, rfl⟩, version, valid, ?_⟩
    · rw [Shelf.get?_put]
      exact if_pos (Shelf.mem_of_get? stands).2.symm
    · exact Run.isFor_iff.mpr ⟨(Project.mem_getFeature found).2, rfl, rfl⟩

theorem Underway.openRun (underway : Underway live project run) (keeps : store.Keeps kind live ids)
    (sound : ∀ p ∈ live, Sound ids p) (valid : versionOf text = .ok version)
    (isFor : run.isFor feature environment version = true) :
    store.openRun project feature environment text now = (.ok run, store) := by
  obtain ⟨p, stands, found⟩ := underway.stands
  have holds := (sound p (Shelf.mem_of_get? stands).1).oneOpen
  have known := holds.openRun?_of_mem (Project.mem_findRun? found).1 underway.inProgress isFor
  rw [openRun_eq valid (keeps.getProject_eq_ok.mpr stands), known]

end Backends

/-- A run that was opened, and then left in progress by any further operations, is taken up again with all
that has been recorded on it since. -/
theorem openRun_again (kind : BackendKind) (ids : IdSource)
    (injective : Function.Injective ids.name) {ops more : List Operation}
    (fromFiles : ∀ op ∈ ops ++ more, op.FromFiles) (sized : Store.Sized kind (ops ++ more))
    {project feature text : String} {environment : Environment} {now : Instant} {run : Run}
    {opened : Store}
    (answer : (Store.after ⟨.empty kind, ids⟩ ops).openRun project feature environment text now =
      (.ok run, opened))
    (unended : opened.Throughout (fun op store => ¬op.Ends store project run.id feature) more) :
    (opened.after more).getRun project run.id = .ok (run.since project more) ∧
      ∀ text' now', Text.trim text' = Text.trim text →
        (opened.after more).openRun project feature environment text' now' =
          (.ok (run.since project more), opened.after more) := by
  have earlier : ∀ op ∈ ops, op.FromFiles := fun op member => fromFiles op (by simp [member])
  have further : ∀ op ∈ more, op.FromFiles := fun op member => fromFiles op (by simp [member])
  obtain ⟨live, later, plain, small, kept⟩ :=
    Store.after_keeps (Store.keeps_empty kind ids) (Store.small_nil kind)
      (sized.imp_right fun fits op member => fits op (List.mem_append_left more member))
  have nothing : ∀ p ∈ ([] : List Project), Function.Injective ids.name → Sound ids p := by simp
  obtain ⟨later', live', plain', before, sound⟩ := sound_lasting.after earlier nothing
  rw [plain] at plain'
  cases plain'
  -- The run that is opened is one more operation, and what it leaves is where the others begin.
  let open' : Operation := .openRun project feature environment text now
  obtain ⟨live₁, next, same, effect, small₁, kept₁⟩ :=
    Store.perform_step open' kept small (Or.inr trivial)
  rw [show open'.perform _ = _ from answer] at same kept₁
  have admitted : open'.FromFiles := trivial
  obtain ⟨before₁, sound₁⟩ := sound_lasting.effect admitted effect sound
  have injective₁ : Function.Injective next.name := (before.trans before₁).name ▸ injective
  have sound₂ : ∀ p ∈ live₁, Sound next p := fun p member => sound₁ p member injective₁
  obtain ⟨underway, version, valid, isFor⟩ := underway_openRun same sound₂
  obtain ⟨featureId, environment_eq, version_eq⟩ := Run.isFor_iff.mp isFor
  rw [← featureId] at unended
  obtain ⟨live₂, last, kept₂, sound₃, continues, underway₂⟩ := underway.after kept₁ small₁
    (sized.imp_right fun fits op member => fits op (List.mem_append_right ops member)) further
    injective₁ sound₂ unended
  constructor
  · obtain ⟨p, stands, found⟩ := underway₂.stands
    rw [continues.id] at found
    exact bind_eq_ok.mpr ⟨p, kept₂.getProject_eq_ok.mpr stands, Project.getRun_eq_ok.mpr found⟩
  · intro text' now' sameTrim
    have valid' : versionOf text' = .ok version := by
      rw [versionOf_eq_ok, Text.trimmed?_eq_some, sameTrim, ← Text.trimmed?_eq_some, ← versionOf_eq_ok]
      exact valid
    refine underway₂.openRun kept₂ sound₃ valid' (Run.isFor_iff.mpr ⟨?_, ?_, ?_⟩)
    · exact continues.featureId.trans featureId
    · exact continues.environment.trans environment_eq
    · exact continues.version.trans version_eq

/-! ### Starting a version -/

structure Run.Untested (run : Run) : Prop where
  scenarios : ∀ scenario ∈ run.scenarios, scenario.status = .untested ∧
    ∀ step ∈ scenario.steps, step.result = .untested
  summary : run.summary = .allUntested run.scenarios.length
  status : run.status = .inProgress
  locked : run.locked = false

theorem Run.snapshot_untested (template : Feature) (environment : Environment) (version id : String)
    (now : Instant) : (snapshot template environment version id now).Untested where
  scenarios := by simp [snapshot, Scenario.cleared]
  summary := by simp [snapshot]
  status := rfl
  locked := rfl

/-- The store in which a run has been started: it has the next id, and is the last of its project. -/
structure Started (store later : Store) (project : String) (run : Run) : Prop where
  untested : run.Untested
  id : run.id = store.ids.next.1
  ids : later.ids = store.ids.next.2
  stored : ∃ p, store.getProject project = .ok p ∧
    store.backend.put { p with runs := p.runs ++ [run] } = .ok later.backend ∧
    (store.Reached ∨ store.backend.Ready ∧
        (store.backend.kind = .memory ∨ ∀ template ∈ p.features, template.Fits) →
      store.Becomes later project { p with runs := p.runs ++ [run] })

section Started

variable {store later : Store} {project feature text version : String} {environment : Environment}
  {now : Instant} {p : Project} {run : Run}

theorem Project.getFeature_isOk :
    (∃ template, p.getFeature feature = .ok template) ↔
      ∃ template ∈ p.features, template.id = feature := by
  constructor
  · rintro ⟨template, found⟩
    exact ⟨template, Project.mem_getFeature found⟩
  · rintro ⟨template, known, rfl⟩
    exact Project.getFeature_of_mem known

theorem hasVersion_eq_false : p.hasVersion feature environment version = false ↔
    ∀ run ∈ p.runs, ¬(run.featureId = feature ∧ run.environment = environment ∧
      run.version = version) := by
  simp only [Project.hasVersion, List.any_eq_false, Run.isFor_iff]

theorem startRun_ok_iff :
    (∃ run, (store.startRun project feature environment text now).1 = .ok run) ↔
      Text.trim text ≠ "" ∧ ∃ p, store.getProject project = .ok p ∧
        (∃ template ∈ p.features, template.id = feature) ∧
        ∀ run ∈ p.runs, ¬(run.featureId = feature ∧ run.environment = environment ∧
          run.version = Text.trim text) := by
  constructor
  · rintro ⟨run, done⟩
    obtain ⟨p, version, template, _, loaded, valid, free, found, _⟩ :=
      startRun_eq_ok (Prod.ext done rfl)
    obtain ⟨visible, rfl⟩ := Text.trimmed?_eq_some.mp (versionOf_eq_ok.mp valid)
    exact ⟨visible, p, loaded, Project.getFeature_isOk.mp ⟨template, found⟩,
      hasVersion_eq_false.mp free⟩
  · rintro ⟨visible, p, loaded, known, free⟩
    have valid : versionOf text = .ok (Text.trim text) :=
      versionOf_eq_ok.mpr (Text.trimmed?_eq_some.mpr ⟨visible, rfl⟩)
    obtain ⟨template, found⟩ := Project.getFeature_isOk.mpr known
    obtain ⟨later, put⟩ := Backend.put_of_get? (Store.load_eq_ok.mp loaded)
      (p.addRun (.snapshot template environment (Text.trim text) store.ids.next.1 now))
    rw [startRun_eq valid loaded, hasVersion_eq_false.mpr free, if_neg Bool.false_ne_true, found]
    refine ⟨.snapshot template environment (Text.trim text) store.ids.next.1 now, ?_⟩
    simp only [Store.save, Store.takeId, put]

theorem startRun_started
    (done : store.startRun project feature environment text now = (.ok run, later)) :
    Started store later project run := by
  obtain ⟨p, version, template, backend, loaded, _, _, found, rfl, put, rfl⟩ := startRun_eq_ok done
  refine ⟨Run.snapshot_untested .., rfl, rfl, p, loaded, put, ?_⟩
  intro readable
  obtain ⟨ready, small⟩ := Store.ready_of loaded (·.features) readable
  obtain ⟨p_id, summaries⟩ := ready.found (Store.load_eq_ok.mp loaded)
  have fits : store.backend.kind = .memory ∨ ∀ run ∈ (p.addRun
      (.snapshot template environment version store.ids.next.1 now)).runs, run.summary.Fits := by
    refine summaries.elim Or.inl fun earlier => small.imp_right fun features run member => ?_
    rcases List.mem_append.mp member with stood | new
    · exact earlier run stood
    · rw [List.mem_singleton.mp new]
      exact RunSummary.allUntested_fits (features template (Project.mem_getFeature found).1)
  exact p_id ▸ Store.becomes_put ready fits put

end Started

/-- From any operations on, on any backend, where features come from files and no id is given out twice:
a run that was opened, and that none of any further operations completes, deletes or removes with its
feature, is what is answered when its version is opened again, with all that has been recorded on it
since, and the store stays as it is. In any store, a version can be started exactly where it is not blank,
its feature is known and no run of the project has it; the run is then new, untested, and the last of
its project, which is read back so from every store that operations have led to. -/
theorem versions_reopened_or_started (kind : BackendKind) (ids : IdSource)
    (injective : Function.Injective ids.name) (ops more : List Operation)
    (fromFiles : ∀ op ∈ ops ++ more, op.FromFiles) (sized : Store.Sized kind (ops ++ more)) :
    (∀ project feature environment text now run opened,
      (Store.after ⟨.empty kind, ids⟩ ops).openRun project feature environment text now =
        (.ok run, opened) →
      opened.Throughout (fun op store => ¬op.Ends store project run.id feature) more →
      (opened.after more).getRun project run.id = .ok (run.since project more) ∧
        ∀ text' now', Text.trim text' = Text.trim text →
          (opened.after more).openRun project feature environment text' now' =
            (.ok (run.since project more), opened.after more)) ∧
    ∀ (store : Store) (project feature : String) (environment : Environment) (text : String)
      (now : Instant),
      ((∃ run, (store.startRun project feature environment text now).1 = .ok run) ↔
        Text.trim text ≠ "" ∧ ∃ p, store.getProject project = .ok p ∧
          (∃ template ∈ p.features, template.id = feature) ∧
          ∀ run ∈ p.runs, ¬(run.featureId = feature ∧ run.environment = environment ∧
            run.version = Text.trim text)) ∧
      ∀ run later, store.startRun project feature environment text now = (.ok run, later) →
        Started store later project run ∧
          (Function.Injective store.ids.name → ¬store.ids.Issued run.id) ∧
          later.ids.Issued run.id := by
  constructor
  · intro project feature environment text now run opened answer unended
    exact openRun_again kind ids injective fromFiles sized answer unended
  · intro store project feature environment text now
    refine ⟨startRun_ok_iff, ?_⟩
    intro run later done
    have started := startRun_started done
    refine ⟨started, ?_, ?_⟩
    · intro injective'
      rw [started.id]
      exact IdSource.next_not_issued injective'
    · rw [started.id, started.ids]
      exact IdSource.next_issued store.ids

/-- A step fails, with a note, and a run of the next version is opened before the first is taken up. -/
theorem versions_reopened_or_started_sample :
    let ops : List Operation := [.createProject "Shop" none,
      .uploadFeature "id-1" "login.feature" "Feature: Login\nScenario: Plain\nGiven a user"]
    let more : List Operation := [.setStepResult "id-1" "id-5" "id-4" .failed,
      .setStepNote "id-1" "id-5" "id-4" "too late", .openRun "id-1" "id-2" .staging "1.1" .epoch]
    ∃ run opened, (Store.after ⟨.empty .memory, .sequential "id"⟩ ops).openRun "id-1" "id-2"
        .staging " 1.0" .epoch = (.ok run, opened) ∧
      (run.since "id-1" more).findStep? "id-4" = some
        { id := "id-4", keyword := .given, text := "a user", result := .failed
          note := some "too late" } ∧
      (opened.after more).openRun "id-1" "id-2" .staging "1.0 " .epoch =
        (.ok (run.since "id-1" more), opened.after more) := by
  intro ops more
  obtain ⟨run, opened, answer, id, recorded⟩ :
      ∃ run opened, (Store.after ⟨.empty .memory, .sequential "id"⟩ ops).openRun "id-1" "id-2"
          .staging " 1.0" .epoch = (.ok run, opened) ∧ run.id = "id-5" ∧
        (run.since "id-1" more).findStep? "id-4" = some
          { id := "id-4", keyword := .given, text := "a user", result := .failed
            note := some "too late" } :=
    ⟨_, _, rfl, by decide +kernel, by decide +kernel⟩
  have fromFiles : ∀ op ∈ ops ++ more, op.FromFiles := by
    simp [ops, more, Operation.FromFiles, Operation.IsOwn]
  have unended : opened.Throughout
      (fun op store => ¬op.Ends store "id-1" run.id "id-2") more := by
    simp [more, Store.Throughout, Operation.Ends, Operation.Replaces]
  refine ⟨run, opened, answer, recorded, ?_⟩
  exact ((versions_reopened_or_started .memory (.sequential "id")
    (IdSource.sequential_injective "id") ops more fromFiles (Or.inl rfl)).1 _ _ _ _ _ _ _ answer
      unended).2 _ _ (by decide)

end Testbook
