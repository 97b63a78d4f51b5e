import Testbook.Proofs.Except
import Testbook.Store.Runs

/-! The public operations of a store as data, so that theorems can speak of all of them in any order.
The time is given to an operation that reads the clock, and a change of a run that callers bring is an
argument like any other. -/

set_option autoImplicit false

namespace Testbook

/-- What is kept of a call on a run: the run that it leaves, if it succeeds. -/
def Run.kept {α : Type} (result : Except Error α × Run) : Except Error Run :=
  result.1.map fun _ => result.2

namespace Run

variable {α : Type} {result : Except Error α × Run} {changed : Run}

theorem kept_eq_ok : kept result = .ok changed ↔ ∃ answer, result = (.ok answer, changed) := by
  simp [kept, Prod.ext_iff]

theorem left_of_kept (done : kept result = .ok changed) : result.2 = changed := by
  obtain ⟨_, rfl⟩ := kept_eq_ok.mp done
  rfl

end Run

namespace Store

variable {store after : Store} {project id : String} {f : Run → Except Error Unit × Run}

/-- To annotate a run is to change it and to answer the run alone. -/
theorem annotate_eq (store : Store) (project id : String) (f : Run → Except Error Unit × Run) :
    store.annotate project id f =
      ((store.mutateRun project id f).1.map Prod.snd, (store.mutateRun project id f).2) := by
  simp only [annotate, mutateRun, rewrite, edit]
  cases store.load project with
  | error e => rfl
  | ok p =>
    simp only [bind, Except.bind]
    cases p.mutateRun id f with
    | error e => rfl
    | ok made =>
      simp only [Except.map, save]
      cases store.backend.put made.2 <;> rfl

theorem annotate_eq_ok {changed : Run} : store.annotate project id f = (.ok changed, after) ↔
    store.mutateRun project id f = (.ok ((), changed), after) := by
  rw [annotate_eq]
  rcases store.mutateRun project id f with ⟨e | ⟨_, left⟩, later⟩ <;> simp [Except.map]

end Store

inductive Operation : Type 1 where
  | takeId
  | createProject (name : String) (description : Option String)
  | listProjects
  | getProject (project : String)
  | deleteProject (project : String)
  | exportProject (project : String)
  | importProject (document : String)
  | addFeature (project : String) (feature : Feature)
  | uploadFeature (project file content : String)
  | getFeature (project feature : String)
  | openRun (project feature : String) (environment : Environment) (version : String) (now : Instant)
  | startRun (project feature : String) (environment : Environment) (version : String)
      (now : Instant)
  | getRun (project run : String)
  | listRuns (project : String) (feature : Option String) (environment : Option Environment)
  | updateRun (project : String) (run : Run)
  | mutateRun {α : Type} (project run : String) (f : Run → Except Error α × Run)
  | setStepResult (project run step : String) (outcome : Outcome)
  | setScenarioResult (project run scenario : String) (outcome : Outcome)
  | bulkSetResult (project run : String) (scenarios : List String) (outcome : Outcome)
  | setStepNote (project run step text : String)
  | setScenarioNote (project run scenario text : String)
  | addStepAttachment (project run step : String) (attachment : Attachment)
  | addScenarioAttachment (project run scenario : String) (attachment : Attachment)
  | resetRun (project run : String)
  | completeRun (project run : String) (now : Instant)
  | resetFeatureRuns (project feature : String)
  | resetAllRuns (project : String)

namespace Operation

def Answer : Operation → Type
  | takeId => String
  | createProject .. => Project
  | listProjects => List Project
  | getProject .. => Project
  | deleteProject .. => Unit
  | exportProject .. => String
  | importProject .. => Project
  | addFeature .. => Upload
  | uploadFeature .. => Upload
  | getFeature .. => Feature
  | openRun .. => Run
  | startRun .. => Run
  | getRun .. => Run
  | listRuns .. => List Run
  | updateRun .. => Unit
  | @mutateRun α .. => α × Run
  | setStepResult .. => Bool × Run
  | setScenarioResult .. => Bool × Run
  | bulkSetResult .. => Bool × Run
  | setStepNote .. => Run
  | setScenarioNote .. => Run
  | addStepAttachment .. => Run
  | addScenarioAttachment .. => Run
  | resetRun .. => Run
  | completeRun .. => Option Run
  | resetFeatureRuns .. => Nat
  | resetAllRuns .. => Nat

def perform : (op : Operation) → Store → Except Error op.Answer × Store
  | takeId, store => (.ok store.takeId.1, store.takeId.2)
  | createProject name description, store => store.createProject name description
  | listProjects, store => (store.listProjects, store)
  | getProject project, store => (store.getProject project, store)
  | deleteProject project, store => store.deleteProject project
  | exportProject project, store => (store.exportProject project, store)
  | importProject document, store => store.importProject document
  | addFeature project feature, store => store.addFeature project feature
  | uploadFeature project file content, store => store.uploadFeature project file content
  | getFeature project feature, store => (store.getFeature project feature, store)
  | openRun project feature environment version now, store =>
    store.openRun project feature environment version now
  | startRun project feature environment version now, store =>
    store.startRun project feature environment version now
  | getRun project run, store => (store.getRun project run, store)
  | listRuns project feature environment, store =>
    (store.listRuns project feature environment, store)
  | updateRun project run, store => store.updateRun project run
  | mutateRun project run f, store => store.mutateRun project run f
  | setStepResult project run step outcome, store => store.setStepResult project run step outcome
  | setScenarioResult project run scenario outcome, store =>
    store.setScenarioResult project run scenario outcome
  | bulkSetResult project run scenarios outcome, store =>
    store.bulkSetResult project run scenarios outcome
  | setStepNote project run step text, store => store.setStepNote project run step text
  | setScenarioNote project run scenario text, store =>
    store.setScenarioNote project run scenario text
  | addStepAttachment project run step attachment, store =>
    store.addStepAttachment project run step attachment
  | addScenarioAttachment project run scenario attachment, store =>
    store.addScenarioAttachment project run scenario attachment
  | resetRun project run, store => store.resetRun project run
  | completeRun project run now, store => store.completeRun project run now
  | resetFeatureRuns project feature, store => store.resetFeatureRuns project feature
  | resetAllRuns project, store => store.resetAllRuns project

/-- The other operations bring in runs that were made elsewhere, or change a run in a way of the
caller's own. -/
def IsOwn : Operation → Prop
  | importProject .. => False
  | updateRun .. => False
  | mutateRun .. => False
  | _ => True

/-- The change of one run that an operation asks for, with the project and the run that it is aimed
at. -/
def edit? : Operation → Option (String × String × (Run → Except Error Run))
  | mutateRun project run f => some (project, run, fun r => Run.kept (f r))
  | setStepResult project run step outcome =>
    some (project, run, fun r => Run.kept (r.setStepResult step outcome))
  | setScenarioResult project run scenario outcome =>
    some (project, run, fun r => Run.kept (r.setScenarioResult scenario outcome))
  | bulkSetResult project run scenarios outcome =>
    some (project, run, fun r => Run.kept (r.bulkSetResult scenarios outcome))
  | setStepNote project run step text => some (project, run, fun r => Run.kept (r.setStepNote step text))
  | setScenarioNote project run scenario text =>
    some (project, run, fun r => Run.kept (r.setScenarioNote scenario text))
  | addStepAttachment project run step attachment =>
    some (project, run, fun r => Run.kept (r.addStepAttachment step attachment))
  | addScenarioAttachment project run scenario attachment =>
    some (project, run, fun r => Run.kept (r.addScenarioAttachment scenario attachment))
  | _ => none

/-- The feature that an operation offers to a project, where ids are taken from a source. -/
def offer? (ids : IdSource) : Operation → Option (String × Feature)
  | addFeature project feature => some (project, feature)
  | uploadFeature project file content => some (project, (Feature.ofFile ids file content).1)
  | _ => none

/-- A project with one feature, and a run of it in which the first of two steps passed. The ids are
those of a sequence. -/
def sample : List Operation :=
  let steps : List Step :=
    [{ id := "given", keyword := .given, text := "a user" },
      { id := "when", keyword := .when, text := "they sign in" }]
  let feature : Feature :=
    { id := "login", name := "Login", scenarios := [{ id := "plain", name := "Plain", steps }]
      source := ⟨"login.feature", "", ""⟩ }
  [createProject "Shop" none, addFeature "id-1" feature,
    openRun "id-1" "login" .staging " 1.0 " .epoch,
    setStepResult "id-1" "id-2" "given" .passed]

theorem sample_own : ∀ op ∈ sample, op.IsOwn := by
  simp [sample, IsOwn]

end Operation

def Store.after (store : Store) (ops : List Operation) : Store :=
  ops.foldl (fun store op => (op.perform store).2) store

namespace Store

@[simp] theorem after_nil (store : Store) : store.after [] = store := rfl

@[simp] theorem after_cons (store : Store) (op : Operation) (ops : List Operation) :
    store.after (op :: ops) = (op.perform store).2.after ops := rfl

@[simp] theorem after_append (store : Store) (first second : List Operation) :
    store.after (first ++ second) = (store.after first).after second :=
  List.foldl_append

end Store

end Testbook
