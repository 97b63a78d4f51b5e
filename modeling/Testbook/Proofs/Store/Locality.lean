import Testbook.Proofs.Project.Upload
import Testbook.Proofs.Run.Outline
import Testbook.Proofs.Store.Agreement
import Testbook.Proofs.Store.Memory

/-! An operation touches only what it names: one project, and of that the run, the runs of a feature, or
the place of a feature. Every operation writes the whole project again, so that this has to be told of
each of them. -/

set_option autoImplicit false

namespace Testbook

/-! ### Runs -/

/-- The same run with scenarios and steps that say the same, each in its place. Results, notes and
attachments may be others, and the run may have been completed or reset. -/
structure Run.Resembles (run later : Run) : Prop where
  id : later.id = run.id
  featureId : later.featureId = run.featureId
  environment : later.environment = run.environment
  version : later.version = run.version
  createdAt : later.createdAt = run.createdAt
  outlines : later.outlines = run.outlines

theorem Run.Edited.createdAt {run changed : Run} (edited : run.Edited changed) :
    changed.createdAt = run.createdAt := by
  cases edited with
  | annotated same => exact same.createdAt
  | marked => rfl

theorem Operation.edit?_resembles {op : Operation} (own : op.IsOwn) {project id : String}
    {f : Run → Except Error Run} (edits : op.edit? = some (project, id, f)) {run changed : Run}
    (result : f run = .ok changed) : run.Resembles changed := by
  have edited := Operation.edited own edits result
  have frame := edited.sameFrame
  exact ⟨frame.id, frame.featureId, frame.environment, frame.version, edited.createdAt,
    Operation.edit?_outlines own edits result⟩

theorem Run.reset_resembles (run : Run) : run.Resembles run.reset :=
  ⟨rfl, rfl, rfl, rfl, rfl, run.reset_outlines⟩

theorem Run.complete_resembles (run : Run) (now : Instant) : run.Resembles (run.complete now).2 := by
  have outlines := run.complete_outlines now
  unfold complete at outlines ⊢
  split <;> exact ⟨rfl, rfl, rfl, rfl, rfl, rfl⟩

/-- One after another, the runs of a feature may be reset, and the others stay as they are. -/
theorem forall₂_resetEach (feature : String) (done rest : List Run) :
    ∃ later, (resetEach feature done rest).1 = done ++ later ∧ List.Forall₂
      (fun run changed => changed = run ∨ run.featureId = feature ∧ run.Resembles changed)
      rest later := by
  induction rest generalizing done with
  | nil => exact ⟨[], by simp [resetEach], .nil⟩
  | cons run rest ih =>
    unfold resetEach
    split
    · rename_i asked
      obtain ⟨later, runs, each⟩ := ih (done ++ [run.reset])
      exact ⟨run.reset :: later, by simp [runs], .cons (Or.inr ⟨asked.1, run.reset_resembles⟩) each⟩
    · obtain ⟨later, runs, each⟩ := ih (done ++ [run])
      exact ⟨run :: later, by simp [runs], .cons (Or.inl rfl) each⟩

/-! ### Projects -/

namespace Project

/-- One run has changed where it stands. All others, and all else in the project, are as they were. -/
def RunChanged (p later : Project) (id : String) (how : Run → Run → Prop) : Prop :=
  ∃ front found changed back, p.runs = front ++ found :: back ∧ found.id = id ∧
    (∀ other ∈ front ++ back, other.id ≠ id) ∧ how found changed ∧
    later = { p with runs := front ++ changed :: back }

inductive Took (p : Project) (feature : Feature) : Upload → Project → Prop where
  | added (new : ∀ other ∈ p.features, other.name ≠ feature.name) :
      Took p feature (.added feature.id) { p with features := p.features ++ [feature] }
  | unchanged {old : Feature} (known : old ∈ p.features) (name : old.name = feature.name)
      (same : old.source.hash = feature.source.hash) : Took p feature (.unchanged old.id) p
  | replaced {old : Feature} {front back : List Feature} (features : p.features = front ++ old :: back)
      (name : old.name = feature.name) :
      Took p feature (.replaced feature.id old.id (p.runs.countP (·.featureId = old.id)))
        { p with
          features := front ++ feature :: back
          runs := p.runs.filter (·.featureId ≠ old.id) }

variable {p changed : Project} {feature : Feature} {upload : Upload} {run found : Run} {id : String}
  {how : Run → Run → Prop}

theorem beside_of_nodup {front back : List Run} (distinct : (p.runs.map (·.id)).Nodup)
    (runs : p.runs = front ++ found :: back) : ∀ other ∈ front ++ back, other.id ≠ found.id := by
  rw [runs, List.map_append, List.map_cons, List.nodup_middle, List.nodup_cons, ← List.map_append]
    at distinct
  intro other member same
  exact distinct.1 (List.mem_map.mpr ⟨other, member, same⟩)

theorem runChanged_replaceRun (distinct : (p.runs.map (·.id)).Nodup)
    (stands : p.findRun? id = some found) (same : run.id = found.id) (is : how found run) :
    p.RunChanged (p.replaceRun run) id how := by
  have found_id := (mem_findRun? stands).2
  obtain ⟨front, back, runs, replaced⟩ := replaceRun_split stands same
  refine ⟨front, found, run, back, runs, found_id, found_id ▸ beside_of_nodup distinct runs, is, ?_⟩
  rw [← replaced]
  rfl

theorem RunChanged.findRun? (changes : p.RunChanged changed id how)
    (same : ∀ found run, how found run → run.id = id) :
    ∃ found run, how found run ∧ changed.findRun? id = some run := by
  obtain ⟨front, found, run, back, _, _, apart, is, rfl⟩ := changes
  refine ⟨found, run, is, ?_⟩
  have before : front.find? (·.id = id) = none := by
    refine List.find?_eq_none.mpr ?_
    intro other member
    simpa using apart other (List.mem_append_left back member)
  simp [Project.findRun?, before, same found run is]

theorem findRun?_addRun_new (absent : ∀ other ∈ p.runs, other.id ≠ run.id) :
    (p.addRun run).findRun? run.id = some run := by
  have before : p.runs.find? (·.id = run.id) = none :=
    List.find?_eq_none.mpr fun other member => by simpa using absent other member
  simp [Project.findRun?, addRun, before]

theorem updateRun_cases (distinct : (p.runs.map (·.id)).Nodup) :
    p.RunChanged (p.updateRun run) run.id (fun _ changed => changed = run) ∨
      (∀ other ∈ p.runs, other.id ≠ run.id) ∧ p.updateRun run = p.addRun run := by
  cases stands : p.findRun? run.id with
  | some found =>
    obtain ⟨front, back, runs, replaced⟩ :=
      replaceOrAppend_split run (show p.runs.find? _ = some found from stands)
    have found_id := (mem_findRun? stands).2
    refine Or.inl ⟨front, found, run, back, runs, found_id,
      found_id ▸ beside_of_nodup distinct runs, rfl, ?_⟩
    rw [updateRun, replaced]
  | none =>
    refine Or.inr ⟨?_, ?_⟩
    · intro other member
      simpa using List.find?_eq_none.mp stands other member
    · rw [updateRun, replaceOrAppend_absent stands, addRun]

theorem replaceRun_cases (distinct : (p.runs.map (·.id)).Nodup) :
    p.RunChanged (p.replaceRun run) run.id (fun _ changed => changed = run) ∨
      p.replaceRun run = p := by
  cases stands : p.findRun? run.id with
  | some found =>
    exact Or.inl (runChanged_replaceRun distinct stands (mem_findRun? stands).2.symm rfl)
  | none =>
    refine Or.inr ?_
    rw [replaceRun, modifyFirst_absent _ stands]

theorem completeRun_cases {now : Instant} {answer : Option Run} {changed? : Option Project}
    (completes : p.completeRun id now = (answer, changed?)) :
    changed? = none ∨
      ∃ found, p.findRun? id = some found ∧ changed? = some (p.replaceRun (found.complete now).2) := by
  unfold completeRun at completes
  split at completes
  · cases completes
    exact Or.inl rfl
  · rename_i found known
    cases changes : (found.complete now).1 with
    | false =>
      simp only [changes] at completes
      cases completes
      exact Or.inl rfl
    | true =>
      simp only [changes, if_true] at completes
      cases completes
      exact Or.inr ⟨found, known, rfl⟩

theorem Took.id_eq (took : p.Took feature upload changed) : changed.id = p.id := by
  cases took <;> rfl

theorem Settles.took (settles : p.Settles feature upload changed) :
    p.Took feature upload changed := by
  cases settles with
  | added new => exact .added new
  | unchanged features _ name same => exact .unchanged (by simp [features]) name same
  | replaced features _ name _ counted =>
    obtain rfl := Nat.add_left_cancel (counted.trans (kept_add_purged p.runs _).symm)
    exact .replaced features name

theorem took_of_addFeature {changed? : Option Project}
    (takes : p.addFeature feature = (upload, changed?)) :
    p.Took feature upload (changed?.getD p) := by
  have settles := p.addFeature_settles feature
  rw [takes] at settles
  exact settles.took

end Project

/-! ### What an operation names -/

namespace Operation

/-- The project that an operation is about, where it has to be there and stays. -/
def subject? : Operation → Option String
  | getProject project | exportProject project | addFeature project _ | uploadFeature project _ _
  | getFeature project _ | openRun project _ _ _ _ | startRun project _ _ _ _ | getRun project _
  | listRuns project _ _ | updateRun project _ | mutateRun project _ _
  | setStepResult project _ _ _ | setScenarioResult project _ _ _ | bulkSetResult project _ _ _
  | setStepNote project _ _ _ | setScenarioNote project _ _ _ | addStepAttachment project _ _ _
  | addScenarioAttachment project _ _ _ | resetRun project _ | completeRun project _ _
  | resetFeatureRuns project _ | resetAllRuns project => some project
  | takeId | createProject _ _ | listProjects | deleteProject _ | importProject _ => none

/-- The project that an operation names: a new one by the id that is next, an imported one by its
document. -/
def named? (ids : IdSource) : Operation → Option String
  | createProject _ _ => some ids.next.1
  | deleteProject project => some project
  | importProject document => (Project.ofText? document).map (·.id)
  | op => op.subject?

def Touches (ids : IdSource) (p later : Project) : (op : Operation) → op.Answer → Prop
  | addFeature _ feature, upload => p.Took feature upload later
  | uploadFeature _ file content, upload =>
    p.Took (Feature.ofFile ids file content).1 upload later
  | openRun .., run => (run ∈ p.runs ∧ later = p) ∨ later = p.addRun run
  | startRun .., run => later = p.addRun run
  | updateRun _ run, _ =>
    p.RunChanged later run.id (fun _ changed => changed = run) ∨
      (∀ other ∈ p.runs, other.id ≠ run.id) ∧ later = p.addRun run
  -- The change is the caller's own, and may give the run another id.
  | mutateRun .., answer =>
    p.RunChanged later answer.2.id (fun _ changed => changed = answer.2) ∨ later = p
  | setStepResult _ run _ _, _ | setScenarioResult _ run _ _, _ | bulkSetResult _ run _ _, _
  | setStepNote _ run _ _, _ | setScenarioNote _ run _ _, _ | addStepAttachment _ run _ _, _
  | addScenarioAttachment _ run _ _, _ | resetRun _ run, _ =>
    p.RunChanged later run Run.Resembles
  | completeRun _ run _, _ => p.RunChanged later run Run.Resembles ∨ later = p
  | resetFeatureRuns _ feature, _ =>
    ∃ runs, later = { p with runs } ∧ List.Forall₂
      (fun run changed => changed = run ∨ run.featureId = feature ∧ run.Resembles changed)
      p.runs runs
  | resetAllRuns .., _ => later = { p with runs := [] }
  | _, _ => later = p

/-! ### In memory -/

variable {α : Type} {op : Operation} {answer : op.Answer} {ids later : IdSource}
  {live : List Project} {project id : String} {after : Store}

def Reaches (op : Operation) (answer : op.Answer) (ids : IdSource) (live : List Project)
    (project : String) (after : Store) : Prop :=
  ∃ p changed live' last, Shelf.get? live project = some p ∧ after = ⟨.memory live', last⟩ ∧
    (∀ other, Shelf.get? live' other =
      if other = project then some changed else Shelf.get? live other) ∧
    op.Touches ids p changed answer

theorem reaches_self {p : Project} (stands : Shelf.get? live project = some p)
    (touches : op.Touches ids p p answer) :
    op.Reaches answer ids live project ⟨.memory live, later⟩ := by
  refine ⟨p, p, live, later, stands, rfl, ?_, touches⟩
  intro other
  split
  · rename_i same
    rw [same, stands]
  · rfl

theorem reaches_asked {asked : Except Error α} {result : α}
    (done : (asked, (⟨.memory live, later⟩ : Store)) = (.ok result, after))
    (loads : asked = .ok result → ∃ p, Store.load ⟨.memory live, later⟩ project = .ok p)
    (names : ∀ p, op.Touches ids p p answer) : op.Reaches answer ids live project after := by
  obtain ⟨found, rfl⟩ := Prod.ext_iff.mp done
  obtain ⟨p, loaded⟩ := loads found
  exact reaches_self (load_memory_eq_ok.mp loaded) (names p)

theorem reaches_put {p changed : Project} (stands : Shelf.get? live project = some p)
    (same : changed.id = p.id) (touches : op.Touches ids p changed answer) :
    op.Reaches answer ids live project ⟨.memory (Shelf.put live changed), later⟩ := by
  refine ⟨p, changed, _, later, stands, rfl, ?_, touches⟩
  intro other
  rw [Shelf.get?_put, same, (Shelf.mem_of_get? stands).2]

theorem reaches_edit {f : Project → Except Error (α × Option Project)} {result : α}
    (done : Store.edit ⟨.memory live, later⟩ project f = (.ok result, after))
    (each : ∀ p changed?, Shelf.get? live project = some p → f p = .ok (result, changed?) →
      (changed?.getD p).id = p.id ∧ op.Touches ids p (changed?.getD p) answer) :
    op.Reaches answer ids live project after := by
  obtain ⟨p, changed?, stands, made, rfl⟩ := edit_eq_ok done
  obtain ⟨same, touches⟩ := each p changed? stands made
  cases changed? with
  | none => exact reaches_self stands touches
  | some changed => exact reaches_put stands same touches

theorem reaches_rewrite {f : Project → Except Error (α × Project)} {result : α}
    (done : Store.rewrite ⟨.memory live, later⟩ project f = (.ok result, after))
    (each : ∀ p changed, Shelf.get? live project = some p → f p = .ok (result, changed) →
      changed.id = p.id ∧ op.Touches ids p changed answer) :
    op.Reaches answer ids live project after := by
  obtain ⟨p, changed, stands, made, rfl⟩ := rewrite_eq_ok done
  obtain ⟨same, touches⟩ := each p changed stands made
  exact reaches_put stands same touches

theorem reaches_mutateRun {f : Run → Except Error α × Run} {result : α × Run}
    (done : Store.mutateRun ⟨.memory live, later⟩ project id f = (.ok result, after))
    (each : ∀ p found, Shelf.get? live project = some p → p.findRun? id = some found →
      f found = (.ok result.1, result.2) → op.Touches ids p (p.replaceRun result.2) answer) :
    op.Reaches answer ids live project after := by
  refine reaches_rewrite done ?_
  intro p changed stands made
  obtain ⟨found, known, edited, rfl⟩ := Project.mutateRun_eq_ok.mp made
  exact ⟨rfl, each p found stands known edited⟩

/-- A run that the store's own operations edit is still the same run. -/
theorem runChanged_edit {op : Operation} (own : op.IsOwn) {f : Run → Except Error Run}
    (edits : op.edit? = some (project, id, f)) {p : Project} {found changed : Run}
    (distinct : (p.runs.map (·.id)).Nodup) (known : p.findRun? id = some found)
    (edited : f found = .ok changed) : p.RunChanged (p.replaceRun changed) id Run.Resembles :=
  have resembles := Operation.edit?_resembles own edits edited
  Project.runChanged_replaceRun distinct known resembles.id resembles

/-- A run that takes results, or that is annotated, where no other run has its id. -/
theorem reaches_result (own : op.IsOwn) {f : Run → Except Error α × Run} {result : α × Run}
    (edits : op.edit? = some (project, id, fun run => Run.kept (f run)))
    (names : ∀ {p later}, p.RunChanged later id Run.Resembles → op.Touches ids p later answer)
    (distinct : ∀ p, Shelf.get? live project = some p → (p.runs.map (·.id)).Nodup)
    (done : Store.mutateRun ⟨.memory live, later⟩ project id f = (.ok result, after)) :
    op.Reaches answer ids live project after := by
  refine reaches_mutateRun done ?_
  intro p found stands known edited
  exact names (runChanged_edit own edits (distinct p stands) known (Run.kept_eq_ok.mpr ⟨_, edited⟩))

theorem reaches_annotation (own : op.IsOwn) {f : Run → Except Error Unit × Run} {result : Run}
    (edits : op.edit? = some (project, id, fun run => Run.kept (f run)))
    (names : ∀ {p later}, p.RunChanged later id Run.Resembles → op.Touches ids p later answer)
    (distinct : ∀ p, Shelf.get? live project = some p → (p.runs.map (·.id)).Nodup)
    (done : Store.annotate ⟨.memory live, later⟩ project id f = (.ok result, after)) :
    op.Reaches answer ids live project after :=
  reaches_result own edits names distinct (Store.annotate_eq_ok.mp done)

/-- An operation that has succeeded in memory has touched no more than it names. -/
theorem reaches_memory (op : Operation) (answer : op.Answer) (subject : op.subject? = some project)
    (done : op.perform ⟨.memory live, ids⟩ = (.ok answer, after))
    (distinct : ∀ p, Shelf.get? live project = some p → (p.runs.map (·.id)).Nodup) :
    op.Reaches answer ids live project after := by
  cases op with
  | getProject =>
    cases subject
    exact reaches_asked done (fun loaded => ⟨_, loaded⟩) fun _ => rfl
  | exportProject =>
    cases subject
    exact reaches_asked done (fun written => (map_eq_ok.mp written).imp fun _ => And.left) fun _ => rfl
  | getFeature =>
    cases subject
    exact reaches_asked done (fun found => (bind_eq_ok.mp found).imp fun _ => And.left) fun _ => rfl
  | getRun =>
    cases subject
    exact reaches_asked done (fun found => (bind_eq_ok.mp found).imp fun _ => And.left) fun _ => rfl
  | listRuns =>
    cases subject
    exact reaches_asked done (fun listed => (map_eq_ok.mp listed).imp fun _ => And.left) fun _ => rfl
  | addFeature _ feature =>
    cases subject
    refine reaches_edit done ?_
    intro p changed? stands made
    have took := Project.took_of_addFeature (Except.ok.inj made)
    exact ⟨took.id_eq, took⟩
  | uploadFeature _ file content =>
    cases subject
    refine reaches_edit done ?_
    intro p changed? stands made
    have took := Project.took_of_addFeature (Except.ok.inj made)
    exact ⟨took.id_eq, took⟩
  | openRun =>
    cases subject
    obtain ⟨p, _, loaded, _, ⟨known, rfl⟩ | ⟨_, _, _, _, put, rfl⟩⟩ := openRun_eq_ok done
    · exact reaches_self (load_memory_eq_ok.mp loaded)
        (Or.inl ⟨List.mem_of_find?_eq_some known, rfl⟩)
    · cases put
      exact reaches_put (load_memory_eq_ok.mp loaded) rfl (Or.inr rfl)
  | startRun =>
    cases subject
    obtain ⟨p, _, _, _, loaded, _, _, _, _, put, rfl⟩ := startRun_eq_ok done
    cases put
    exact reaches_put (load_memory_eq_ok.mp loaded) rfl rfl
  | updateRun _ run =>
    cases subject
    refine reaches_rewrite done ?_
    rintro p changed stands made
    cases made
    exact ⟨rfl, Project.updateRun_cases (distinct p stands)⟩
  | mutateRun _ run f =>
    cases subject
    refine reaches_mutateRun done ?_
    intro p found stands known edited
    exact Project.replaceRun_cases (distinct p stands)
  | setStepResult =>
    cases subject
    exact reaches_result trivial rfl (fun changes => changes) distinct done
  | setScenarioResult =>
    cases subject
    exact reaches_result trivial rfl (fun changes => changes) distinct done
  | bulkSetResult =>
    cases subject
    exact reaches_result trivial rfl (fun changes => changes) distinct done
  | setStepNote =>
    cases subject
    exact reaches_annotation trivial rfl (fun changes => changes) distinct done
  | setScenarioNote =>
    cases subject
    exact reaches_annotation trivial rfl (fun changes => changes) distinct done
  | addStepAttachment =>
    cases subject
    exact reaches_annotation trivial rfl (fun changes => changes) distinct done
  | addScenarioAttachment =>
    cases subject
    exact reaches_annotation trivial rfl (fun changes => changes) distinct done
  | resetRun target run =>
    cases subject
    refine reaches_rewrite done ?_
    intro p changed stands made
    obtain ⟨found, known, rest⟩ := bind_eq_ok.mp made
    split at rest
    · cases rest
    · cases rest
      exact ⟨rfl, Project.runChanged_replaceRun (distinct p stands) (Project.getRun_eq_ok.mp known) rfl
        found.reset_resembles⟩
  | completeRun target run now =>
    cases subject
    refine reaches_edit done ?_
    intro p changed? stands made
    rcases Project.completeRun_cases (Except.ok.inj made) with rfl | ⟨found, known, rfl⟩
    · exact ⟨rfl, Or.inr rfl⟩
    · have resembles := found.complete_resembles now
      exact ⟨rfl, Or.inl
        (Project.runChanged_replaceRun (distinct p stands) known resembles.id resembles)⟩
  | resetFeatureRuns target feature =>
    cases subject
    refine reaches_rewrite done ?_
    intro p changed stands made
    obtain ⟨_, _, reset⟩ := bind_eq_ok.mp made
    cases reset
    obtain ⟨runs, same, each⟩ := forall₂_resetEach feature [] p.runs
    exact ⟨rfl, runs, by rw [same, List.nil_append], each⟩
  | resetAllRuns =>
    cases subject
    refine reaches_rewrite done ?_
    intro p changed stands made
    cases made
    exact ⟨rfl, rfl⟩
  | _ => cases subject

/-! ### Elsewhere -/

theorem Changes.subject {p changed : Project} (changes : op.Changes ids later p changed) :
    op.subject? = some p.id := by
  cases changes with
  | takesFeature offers => cases op <;> cases offers <;> rfl
  | beginsRun asks => rcases asks with rfl | rfl <;> rfl
  | editsRun edits => cases op <;> cases edits <;> rfl
  | _ => rfl

theorem named?_of_subject? (subject : op.subject? = some project) : op.named? ids = some project := by
  cases op <;> first | exact subject | cases subject

/-- A project that an operation does not name stays as it is, whatever becomes of the operation. -/
theorem Effect.elsewhere {live' : List Project} (effect : op.Effect ids live later live')
    {other : String} (apart : op.named? ids ≠ some other) :
    Shelf.get? live' other = Shelf.get? live other := by
  cases effect with
  | unchanged => rfl
  | created asks fresh =>
    subst asks
    rw [Shelf.get?_put, if_neg]
    rintro rfl
    exact apart (congrArg some fresh.symm)
  | removed asks =>
    subst asks
    rw [Shelf.get?_remove, if_neg]
    rintro rfl
    exact apart rfl
  | imported asks read =>
    subst asks
    rw [Shelf.get?_put, if_neg]
    rintro rfl
    exact apart (by rw [named?, read, Option.map_some])
  | changed _ _ changes =>
    rw [Shelf.get?_put, changes.id_eq, if_neg]
    rintro rfl
    exact apart (named?_of_subject? changes.subject)

end Operation

/-- An operation that succeeds, on any backend that keeps what a shelf would hold, where the runs of a
project have ids of their own: every project that it does not name can be had as before, and of the one
that it names it has touched only what it is meant for. A run that was put is found by its id. -/
theorem operations_touch_what_they_name {store : Store} {kind : BackendKind} {live : List Project}
    {ids : IdSource} (keeps : store.Keeps kind live ids) (small : Store.Small kind live)
    (distinct : ∀ id p, store.getProject id = .ok p → (p.runs.map (·.id)).Nodup)
    (op : Operation) (sized : kind = .memory ∨ op.Fits) {answer : op.Answer} {after : Store}
    (done : op.perform store = (.ok answer, after)) :
    (∀ other, op.named? store.ids ≠ some other → after.getProject other = store.getProject other) ∧
    (∀ project, op.subject? = some project → ∃ p changed, store.getProject project = .ok p ∧
      after.getProject project = .ok changed ∧ op.Touches store.ids p changed answer) ∧
    ∀ project run, op = .updateRun project run → after.getRun project run.id = .ok run := by
  obtain ⟨live', later, same, effect, _, kept⟩ := Store.perform_step op keeps small sized
  rw [done] at same kept
  have subject (project : String) (about : op.subject? = some project) :
      ∃ p changed, store.getProject project = .ok p ∧ after.getProject project = .ok changed ∧
        op.Touches store.ids p changed answer := by
    have distinct' (p : Project) (stands : Shelf.get? live project = some p) :
        (p.runs.map (·.id)).Nodup :=
      distinct project p (keeps.getProject_eq_ok.mpr stands)
    have reaches := Operation.reaches_memory op answer about same distinct'
    obtain ⟨p, changed, live₂, last, stands, moved, becomes, touches⟩ := reaches
    cases moved
    refine ⟨p, changed, keeps.getProject_eq_ok.mpr stands, ?_, keeps.ids ▸ touches⟩
    exact kept.getProject_eq_ok.mpr ((becomes project).trans (if_pos rfl))
  refine ⟨?_, subject, ?_⟩
  · intro other apart
    rw [keeps.ids] at apart
    rw [Store.getProject, Store.getProject, kept.load, keeps.load, Operation.load_memory,
      Operation.load_memory, effect.elsewhere apart]
  · rintro project run rfl
    obtain ⟨p, changed, _, stored, touches⟩ := subject project rfl
    have found : changed.findRun? run.id = some run := by
      rcases touches with replaced | ⟨absent, appended⟩
      · obtain ⟨_, _, rfl, found⟩ := replaced.findRun? fun _ _ put => congrArg Run.id put
        exact found
      · rw [appended]
        exact Project.findRun?_addRun_new absent
    exact bind_eq_ok.mpr ⟨changed, stored, Project.getRun_eq_ok.mpr found⟩

/-- One of two runs is completed. -/
theorem operations_touch_what_they_name_sample :
    let first : Run :=
      { id := "r-1", featureId := "login", createdAt := .epoch, environment := .staging
        version := "1.0" }
    let shop : Project :=
      { id := "shop", name := "Shop", runs := [first, { first with id := "r-2", version := "1.1" }] }
    let bank : Project := { id := "bank", name := "Bank" }
    let store : Store := ⟨.memory [shop, bank], .sequential "id"⟩
    let after := ((Operation.completeRun "shop" "r-2" .epoch).perform store).2
    after.getProject "bank" = .ok bank ∧ ∃ changed, after.getProject "shop" = .ok changed ∧
      changed ≠ shop ∧ (shop.RunChanged changed "r-2" Run.Resembles ∨ changed = shop) := by
  intro first shop bank store after
  have keeps : store.Keeps .memory [shop, bank] (.sequential "id") :=
    ⟨rfl, rfl, .memory (by simp [Shelf.Distinct, shop, bank])⟩
  have distinct : ∀ id p, store.getProject id = .ok p → (p.runs.map (·.id)).Nodup := by
    intro id p stored
    have member := (Shelf.mem_of_get? (keeps.getProject_eq_ok.mp stored)).1
    simp only [List.mem_cons, List.not_mem_nil, or_false] at member
    rcases member with rfl | rfl
    · simp [shop, first]
    · simp [bank]
  obtain ⟨others, subject, _⟩ := operations_touch_what_they_name keeps (Or.inl rfl) distinct
    (.completeRun "shop" "r-2" .epoch) (Or.inl rfl) rfl
  refine ⟨others "bank" (by simp [Operation.named?, Operation.subject?]), ?_⟩
  obtain ⟨p, changed, stood, stored, touches⟩ := subject "shop" rfl
  cases stood
  refine ⟨changed, stored, ?_, touches⟩
  have statuses : changed.runs.map (·.status) = [.inProgress, .completed] := by
    cases stored
    rfl
  intro same
  rw [same] at statuses
  exact absurd statuses (by decide)

end Testbook
