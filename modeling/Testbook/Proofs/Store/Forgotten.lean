import Testbook.Proofs.Run.Move
import Testbook.Proofs.Store.Grounded
import Testbook.Proofs.Store.Memory

/-! What is left of a run that is reset. Of all that was done to its results nothing is, and but for its
notes and attachments it is as if it had just been begun: no run outlives its feature, and none ever says
anything else than its feature does. -/

set_option autoImplicit false

namespace Testbook

def Step.unannotated (step : Step) : Step := { step with note := none, attachments := [] }

def Scenario.unannotated (scenario : Scenario) : Scenario :=
  { scenario with steps := scenario.steps.map Step.unannotated, note := none, attachments := [] }

def Run.unannotated (run : Run) : Run :=
  { run with scenarios := run.scenarios.map Scenario.unannotated }

/-- A scenario in which nothing is tested has only annotations beside its outline. -/
theorem Scenario.asserted_unannotated (scenario : Scenario) :
    (scenario.asserted .untested).unannotated = scenario.outline := by
  simp [asserted, unannotated, Step.unannotated, outline, Step.outline, Function.comp_def]

theorem Scenario.cleared_unannotated (scenario : Scenario) :
    scenario.cleared.unannotated = scenario.outline :=
  scenario.asserted_unannotated

theorem Run.Follows.reset {run : Run} {feature : Feature} (follows : run.Follows feature)
    (read : feature.IsRead) (now : Instant) :
    Run.unannotated { run.reset with createdAt := now } =
      (snapshot feature run.environment run.version run.id now).unannotated := by
  have length : run.scenarios.length = feature.scenarios.length := by
    simpa [Run.outlines] using congrArg List.length follows.outlines
  have scenarios : run.reset.scenarios.map Scenario.unannotated =
      (feature.scenarios.map Scenario.cleared).map Scenario.unannotated :=
    calc run.reset.scenarios.map Scenario.unannotated
        = run.outlines := by
          simp [Run.reset, Run.outlines, Scenario.asserted_unannotated, Function.comp_def]
      _ = feature.scenarios.map Scenario.outline := follows.outlines.trans read.outlines.symm
      _ = (feature.scenarios.map Scenario.cleared).map Scenario.unannotated := by
          simp [Scenario.cleared_unannotated]
  simp only [unannotated, scenarios]
  simp [Run.reset, snapshot, length, follows.id]

/-! ### In a store -/

theorem Project.resetRun_eq_ok {p changed : Project} {id : String} {answer : Run}
    (done : p.resetRun id = .ok (answer, changed)) :
    ∃ found, p.findRun? id = some found ∧ answer = found.reset ∧ changed = p.replaceRun found.reset := by
  obtain ⟨found, stands, rest⟩ := bind_eq_ok.mp done
  split at rest
  · cases rest
  · cases rest
    exact ⟨found, getRun_eq_ok.mp stands, rfl, rfl⟩

theorem Grounded.getFeature {ids : IdSource} {p : Project} (grounded : Grounded ids p)
    {feature : Feature} (member : feature ∈ p.features) : p.getFeature feature.id = .ok feature := by
  have found : p.findFeature? feature.id = some feature := find?_key_of_mem grounded.distinct member
  rw [Project.getFeature, found]

section Backends

variable {store later : Store} {kind : BackendKind} {live : List Project} {ids : IdSource}
  {project id : String} {answer : Run}

/-- A reset on any backend: the run that is answered is the one that stood there, reset, and stands there
from then on. -/
theorem Store.Keeps.resetRun (keeps : store.Keeps kind live ids) (small : Store.Small kind live)
    (done : store.resetRun project id = (.ok answer, later)) :
    ∃ p before, store.getProject project = .ok p ∧ p.findRun? id = some before ∧
      answer = before.reset ∧ later.getProject project = .ok (p.replaceRun before.reset) := by
  let reset : Operation := .resetRun project id
  obtain ⟨live', next, same, _, _, kept⟩ := Store.perform_step reset keeps small (Or.inr trivial)
  rw [show reset.perform store = _ from done] at same kept
  obtain ⟨p, changed, stands, reset_ok, moved⟩ := rewrite_eq_ok same
  cases moved
  obtain ⟨before, found, rfl, rfl⟩ := Project.resetRun_eq_ok reset_ok
  have p_id : (p.replaceRun before.reset).id = project := (Shelf.mem_of_get? stands).2
  refine ⟨p, before, keeps.getProject_eq_ok.mpr stands, found, rfl, kept.getProject_eq_ok.mpr ?_⟩
  rw [Shelf.get?_put, if_pos p_id.symm]

end Backends

/-- Whatever results a run was given and however often it was completed, it is reset to what it would have
been reset to before. And after any of the store's own operations, on any backend, where features come from
files and no id is given out twice: a run that is reset stands there as a new run of its feature would, of
the same id, environment and version, but for the time of its creation, its notes and its attachments. -/
theorem reset_leaves_new_run (kind : BackendKind) (ids : IdSource)
    (injective : Function.Injective ids.name) (ops : List Operation)
    (fromFiles : ∀ op ∈ ops, op.FromFiles) (sized : Store.Sized kind ops) :
    (∀ (run : Run) (moves : List Move), (run.afterMoves moves).reset = run.reset) ∧
      ∀ (project id : String) (answer : Run) (later : Store),
        (Store.after ⟨.empty kind, ids⟩ ops).resetRun project id = (.ok answer, later) →
          ∃ before feature,
            (Store.after ⟨.empty kind, ids⟩ ops).getRun project id = .ok before ∧
            answer = before.reset ∧ later.getRun project id = .ok answer ∧
            later.getFeature project before.featureId = .ok feature ∧
            ∀ now, Run.unannotated { answer with createdAt := now } =
              (Run.snapshot feature before.environment before.version id now).unannotated := by
  refine ⟨Run.reset_afterMoves, ?_⟩
  intro project id answer later done
  obtain ⟨live, _, _, small, kept⟩ :=
    Store.after_keeps (Store.keeps_empty kind ids) (Store.small_nil kind) sized
  obtain ⟨p, before, loaded, found, rfl, stored⟩ := kept.resetRun small done
  obtain ⟨_, was_before, lasting⟩ := grounded_lasting.stored fromFiles sized loaded
  have grounded := lasting (was_before.name ▸ injective)
  obtain ⟨member, rfl⟩ := Project.mem_findRun? found
  obtain ⟨feature, known, follows⟩ := grounded.runs before member
  have stands : (p.replaceRun before.reset).findRun? before.id = some before.reset :=
    Project.findRun?_replaceRun_same found rfl
  refine ⟨before, feature, ?_, rfl, ?_, ?_, follows.reset (grounded.read feature known)⟩
  · exact bind_eq_ok.mpr ⟨p, loaded, Project.getRun_eq_ok.mpr found⟩
  · exact bind_eq_ok.mpr ⟨_, stored, Project.getRun_eq_ok.mpr stands⟩
  · exact bind_eq_ok.mpr ⟨_, stored, follows.id ▸ grounded.getFeature known⟩

/-- A run of two steps, one of which fails and has a note, is completed before it is reset. -/
theorem reset_leaves_new_run_sample :
    let ops : List Operation := [.createProject "Shop" none,
      .uploadFeature "id-1" "login.feature" "Feature: Login\nScenario: Plain\nGiven a user\nWhen x",
      .openRun "id-1" "id-2" .staging "1.0" .epoch, .setStepResult "id-1" "id-6" "id-5" .failed,
      .setStepNote "id-1" "id-6" "id-5" "too late", .completeRun "id-1" "id-6" .epoch]
    let store := Store.after ⟨.empty .memory, .sequential "id"⟩ ops
    ∃ answer later before feature, store.resetRun "id-1" "id-6" = (.ok answer, later) ∧
      store.getRun "id-1" "id-6" = .ok before ∧ before.locked = true ∧
      later.getFeature "id-1" "id-2" = .ok feature ∧
      (answer.findStep? "id-5").map (·.note) = some (some "too late") ∧
      answer.unannotated = (Run.snapshot feature .staging "1.0" "id-6" .epoch).unannotated := by
  intro ops store
  have fromFiles : ∀ op ∈ ops, op.FromFiles := by simp [ops, Operation.FromFiles, Operation.IsOwn]
  obtain ⟨answer, later, before, done, found, locked, of, of', of'', noted, begun⟩ :
      ∃ answer later before, store.resetRun "id-1" "id-6" = (.ok answer, later) ∧
        store.getRun "id-1" "id-6" = .ok before ∧ before.locked = true ∧
        before.featureId = "id-2" ∧ before.environment = .staging ∧ before.version = "1.0" ∧
        (answer.findStep? "id-5").map (·.note) = some (some "too late") ∧
        answer.createdAt = .epoch := ⟨_, _, _, rfl, rfl, rfl, rfl, rfl, rfl, rfl, rfl⟩
  obtain ⟨_, feature, found', _, _, template, new⟩ :=
    (reset_leaves_new_run .memory (.sequential "id") (IdSource.sequential_injective "id") ops fromFiles
      (Or.inl rfl)).2 "id-1" "id-6" answer later done
  cases found.symm.trans found'
  rw [of] at template
  have same := new .epoch
  rw [← begun, of', of''] at same
  exact ⟨answer, later, before, feature, done, found, locked, template, noted, begun ▸ same⟩

end Testbook
