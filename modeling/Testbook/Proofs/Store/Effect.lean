import Testbook.Proofs.Except
import Testbook.Proofs.Feature.Reader
import Testbook.Proofs.Operation
import Testbook.Proofs.Project.Runs
import Testbook.Proofs.Store.Shelf
import Testbook.Proofs.Text.Blank

/-! What one operation does to a shelf and to the source of ids: it puts one project or removes one, or
it leaves the shelf alone. A project that it puts is new, read from a document, or made by one of a few
changes from the project that stood there. -/

set_option autoImplicit false

namespace Testbook

/-- What an operation makes of the project that it changes. -/
inductive Operation.Changes (ids later : IdSource) (p : Project) : Operation → Project → Prop where
  | takesFeature {op : Operation} {feature : Feature} {upload : Upload} {changed : Project}
      (offers : op.offer? ids = some (p.id, feature))
      (takes : p.addFeature feature = (upload, some changed))
      (taken : ∀ {project file content : String}, op = .uploadFeature project file content →
        later = (Feature.ofFile ids file content).2) : Changes ids later p op changed
  | beginsRun {op : Operation} {feature text version : String} {environment : Environment}
      {now : Instant} {template : Feature}
      (asks : op = .openRun p.id feature environment text now ∨
        op = .startRun p.id feature environment text now)
      (valid : versionOf text = .ok version)
      (free : p.openRun? feature environment version = none)
      (found : p.getFeature feature = .ok template)
      (taken : later = ids.next.2) :
      Changes ids later p op (p.addRun (.snapshot template environment version ids.next.1 now))
  | editsRun {op : Operation} {run : String} {f : Run → Except Error Run} {found changed : Run}
      (edits : op.edit? = some (p.id, run, f)) (stands : p.findRun? run = some found)
      (result : f found = .ok changed) : Changes ids later p op (p.replaceRun changed)
  | completesRun {run : String} {now : Instant} {found : Run}
      (stands : p.findRun? run = some found) (unfinished : found.status ≠ .completed) :
      Changes ids later p (.completeRun p.id run now) (p.replaceRun (found.complete now).2)
  | resetsRun {run : String} {found : Run} (stands : p.findRun? run = some found)
      (alone : openSibling? p.runs found = none) :
      Changes ids later p (.resetRun p.id run) (p.replaceRun found.reset)
  | resetsFeature {feature : String} :
      Changes ids later p (.resetFeatureRuns p.id feature)
        { p with runs := (resetEach feature [] p.runs).1 }
  | forgetsRuns : Changes ids later p (.resetAllRuns p.id) { p with runs := [] }
  | updatesRun {run : Run} : Changes ids later p (.updateRun p.id run) (p.updateRun run)

inductive Operation.Effect (op : Operation) (ids : IdSource) (shelf : List Project) :
    IdSource → List Project → Prop where
  | unchanged {later : IdSource} (before : ids.Before later) : Effect op ids shelf later shelf
  | created {name : String} {description : Option String} {p : Project}
      (asks : op = .createProject name description) (fresh : p.id = ids.next.1)
      (noFeatures : p.features = []) (noRuns : p.runs = []) :
      Effect op ids shelf ids.next.2 (Shelf.put shelf p)
  | removed {project : String} (asks : op = .deleteProject project) :
      Effect op ids shelf ids (Shelf.remove shelf project)
  | imported {document : String} {p : Project} (asks : op = .importProject document)
      (read : Project.ofText? document = some p) : Effect op ids shelf ids (Shelf.put shelf p)
  | changed {later : IdSource} {p changed : Project} (before : ids.Before later)
      (stands : Shelf.get? shelf p.id = some p) (changes : op.Changes ids later p changed) :
      Effect op ids shelf later (Shelf.put shelf changed)

namespace Operation

variable {α : Type} {op : Operation} {ids later : IdSource} {shelf : List Project}

def Moves (op : Operation) (ids : IdSource) (shelf : List Project) (after : Store) : Prop :=
  ∃ later shelf', after = ⟨.memory shelf', later⟩ ∧ op.Effect ids shelf later shelf'

theorem moves_unchanged (before : ids.Before later) : op.Moves ids shelf ⟨.memory shelf, later⟩ :=
  ⟨later, shelf, rfl, .unchanged before⟩

theorem load_memory (project : String) :
    Store.load ⟨.memory shelf, ids⟩ project =
      match Shelf.get? shelf project with
      | some p => .ok p
      | none => .error (.missing (.project project)) := rfl

/-- A project that is changed by an operation, if what it is changed to is one of its changes. -/
theorem moves_edit (before : ids.Before later) (project : String)
    (f : Project → Except Error (α × Option Project))
    (each : ∀ p answer changed, p.id = project → f p = .ok (answer, some changed) →
      op.Changes ids later p changed) :
    op.Moves ids shelf (Store.edit ⟨.memory shelf, later⟩ project f).2 := by
  unfold Store.edit
  rw [load_memory]
  cases found : Shelf.get? shelf project with
  | none => exact moves_unchanged before
  | some p =>
    have same : p.id = project := (Shelf.mem_of_get? found).2
    simp only [bind, Except.bind]
    cases result : f p with
    | error e => exact moves_unchanged before
    | ok pair =>
      obtain ⟨answer, changed?⟩ := pair
      cases changed? with
      | none => exact moves_unchanged before
      | some changed =>
        exact ⟨later, _, rfl, .changed before (same ▸ found) (each p answer changed same result)⟩

theorem moves_rewrite (project : String) (f : Project → Except Error (α × Project))
    (each : ∀ p answer changed, p.id = project → f p = .ok (answer, changed) →
      op.Changes ids ids p changed) :
    op.Moves ids shelf (Store.rewrite ⟨.memory shelf, ids⟩ project f).2 := by
  refine moves_edit (.refl ids) project _ ?_
  intro p answer changed same result
  obtain ⟨⟨answer', changed'⟩, rewritten, pair⟩ := map_eq_ok.mp result
  simp only [Prod.mk.injEq, Option.some.injEq] at pair
  obtain ⟨rfl, rfl⟩ := pair
  exact each p answer' changed' same rewritten

theorem moves_mutateRun {project run : String} {f : Run → Except Error α × Run}
    (edits : op.edit? = some (project, run, fun r => Run.kept (f r))) :
    op.Moves ids shelf (Store.mutateRun ⟨.memory shelf, ids⟩ project run f).2 := by
  refine moves_rewrite project _ ?_
  rintro p answer changed rfl result
  obtain ⟨found, stands, edited, rfl⟩ := Project.mutateRun_eq_ok.mp result
  exact .editsRun edits stands (Run.kept_eq_ok.mpr ⟨answer.1, edited⟩)

theorem moves_annotate {project run : String} {f : Run → Except Error Unit × Run}
    (edits : op.edit? = some (project, run, fun r => Run.kept (f r))) :
    op.Moves ids shelf (Store.annotate ⟨.memory shelf, ids⟩ project run f).2 := by
  rw [Store.annotate_eq]
  exact moves_mutateRun edits

-- A run that is started is opened in the end, under a version that was trimmed before: the version that
-- is given need not be the text that was asked for.
theorem moves_openRun {project feature text : String} {environment : Environment} {now : Instant}
    (asks : op = .openRun project feature environment text now ∨
      op = .startRun project feature environment text now) {given : String}
    (means : versionOf given = versionOf text) :
    op.Moves ids shelf
      (Store.openRun ⟨.memory shelf, ids⟩ project feature environment given now).2 := by
  unfold Store.openRun
  rw [load_memory, means]
  cases valid : versionOf text with
  | error e => exact moves_unchanged (.refl ids)
  | ok version =>
    cases found : Shelf.get? shelf project with
    | none => exact moves_unchanged (.refl ids)
    | some p =>
      have same : p.id = project := (Shelf.mem_of_get? found).2
      subst same
      cases free : p.openRun? feature environment version with
      | some run =>
        simp only [free]
        exact moves_unchanged (.refl ids)
      | none =>
        cases template : p.getFeature feature with
        | error e =>
          simp only [free, template]
          exact moves_unchanged (.refl ids)
        | ok template' =>
          simp only [free, template]
          exact ⟨_, _, rfl, .changed (IdSource.before_next ids) found
            (.beginsRun asks valid free template rfl)⟩

theorem moves_startRun {project feature text : String} {environment : Environment} {now : Instant} :
    (startRun project feature environment text now).Moves ids shelf
      (Store.startRun ⟨.memory shelf, ids⟩ project feature environment text now).2 := by
  unfold Store.startRun
  cases valid : versionOf text with
  | error e => exact moves_unchanged (.refl ids)
  | ok version =>
    cases Store.load ⟨.memory shelf, ids⟩ project with
    | error e => exact moves_unchanged (.refl ids)
    | ok p =>
      dsimp only
      split
      · exact moves_unchanged (.refl ids)
      · -- The version is trimmed once more, which changes nothing.
        have again : versionOf version = .ok version :=
          versionOf_eq_ok.mpr (Text.trimmed?_spec (versionOf_eq_ok.mp valid)).2.2
        exact moves_openRun (Or.inr rfl) (again.trans valid.symm)

theorem moves_addFeature {project : String} {feature : Feature} (before : ids.Before later)
    (offers : op.offer? ids = some (project, feature))
    (taken : ∀ {project file content : String}, op = .uploadFeature project file content →
      later = (Feature.ofFile ids file content).2) :
    op.Moves ids shelf (Store.addFeature ⟨.memory shelf, later⟩ project feature).2 := by
  refine moves_edit before project _ ?_
  intro p answer changed same result
  exact .takesFeature (same ▸ offers) (Except.ok.inj result) taken

theorem moves_resetRun {project run : String} :
    (resetRun project run).Moves ids shelf (Store.resetRun ⟨.memory shelf, ids⟩ project run).2 := by
  refine moves_rewrite project _ ?_
  rintro p answer changed rfl result
  obtain ⟨found, stands, rest⟩ := bind_eq_ok.mp result
  cases alone : openSibling? p.runs found with
  | some sibling => simp [alone] at rest
  | none =>
    simp only [alone, Except.ok.injEq, Prod.mk.injEq] at rest
    rw [← rest.2]
    exact .resetsRun (Project.getRun_eq_ok.mp stands) alone

theorem moves_completeRun {project run : String} {now : Instant} :
    (completeRun project run now).Moves ids shelf
      (Store.completeRun ⟨.memory shelf, ids⟩ project run now).2 := by
  refine moves_edit (.refl ids) project _ ?_
  rintro p answer changed rfl result
  unfold Project.completeRun at result
  cases stands : p.findRun? run with
  | none => simp [stands] at result
  | some found =>
    by_cases finished : found.status = .completed
    · simp [stands, Run.complete, finished] at result
    · have changes : (found.complete now).1 = true := by simp [Run.complete, finished]
      simp only [stands, changes, if_true, Except.ok.injEq, Prod.mk.injEq, Option.some.injEq] at result
      rw [← result.2]
      exact .completesRun stands finished

theorem moves_resetFeatureRuns {project feature : String} :
    (resetFeatureRuns project feature).Moves ids shelf
      (Store.resetFeatureRuns ⟨.memory shelf, ids⟩ project feature).2 := by
  refine moves_rewrite project _ ?_
  rintro p answer changed rfl result
  obtain ⟨found, known, rest⟩ := bind_eq_ok.mp result
  simp only [Except.ok.injEq, Prod.mk.injEq] at rest
  rw [← rest.2]
  exact .resetsFeature

theorem moves_createProject {name : String} {description : Option String} :
    (createProject name description).Moves ids shelf
      (Store.createProject ⟨.memory shelf, ids⟩ name description).2 := by
  unfold Store.createProject
  cases Text.trimmed? name with
  | none => exact moves_unchanged (.refl ids)
  | some trimmed => exact ⟨_, _, rfl, .created rfl rfl rfl rfl⟩

theorem moves_deleteProject {project : String} :
    (deleteProject project).Moves ids shelf
      (Store.deleteProject ⟨.memory shelf, ids⟩ project).2 := by
  unfold Store.deleteProject
  cases Store.load ⟨.memory shelf, ids⟩ project with
  | error e => exact moves_unchanged (.refl ids)
  | ok p => exact ⟨_, _, rfl, .removed rfl⟩

theorem moves_importProject {document : String} :
    (importProject document).Moves ids shelf
      (Store.importProject ⟨.memory shelf, ids⟩ document).2 := by
  unfold Store.importProject
  cases read : Project.ofText? document with
  | none => exact moves_unchanged (.refl ids)
  | some p =>
    dsimp only
    split
    · exact moves_unchanged (.refl ids)
    · exact ⟨_, _, rfl, .imported rfl read⟩

-- Every invariant of the store is proved of these effects, and never of the operations themselves.
theorem perform_moves (op : Operation) (ids : IdSource) (shelf : List Project) :
    op.Moves ids shelf (op.perform ⟨.memory shelf, ids⟩).2 := by
  cases op with
  | takeId => exact moves_unchanged (IdSource.before_next ids)
  | createProject => exact moves_createProject
  | deleteProject => exact moves_deleteProject
  | importProject => exact moves_importProject
  | addFeature => exact moves_addFeature (.refl ids) rfl (by intro _ _ _ same; cases same)
  | uploadFeature project file content =>
    refine moves_addFeature (Feature.ofFile_before ids file content) rfl ?_
    rintro _ _ _ ⟨⟩
    rfl
  | openRun => exact moves_openRun (Or.inl rfl) rfl
  | startRun => exact moves_startRun
  | updateRun project run =>
    refine moves_rewrite project _ ?_
    rintro p answer changed rfl result
    cases result
    exact .updatesRun
  | resetRun => exact moves_resetRun
  | completeRun => exact moves_completeRun
  | resetFeatureRuns => exact moves_resetFeatureRuns
  | resetAllRuns project =>
    refine moves_rewrite project _ ?_
    rintro p answer changed rfl result
    cases result
    exact .forgetsRuns
  | mutateRun => exact moves_mutateRun rfl
  | setStepResult => exact moves_mutateRun rfl
  | setScenarioResult => exact moves_mutateRun rfl
  | bulkSetResult => exact moves_mutateRun rfl
  | setStepNote => exact moves_annotate rfl
  | setScenarioNote => exact moves_annotate rfl
  | addStepAttachment => exact moves_annotate rfl
  | addScenarioAttachment => exact moves_annotate rfl
  | listProjects => exact moves_unchanged (.refl ids)
  | getProject => exact moves_unchanged (.refl ids)
  | exportProject => exact moves_unchanged (.refl ids)
  | getFeature => exact moves_unchanged (.refl ids)
  | getRun => exact moves_unchanged (.refl ids)
  | listRuns => exact moves_unchanged (.refl ids)

end Operation

end Testbook
