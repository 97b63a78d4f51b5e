import Testbook.Proofs.Run.Annotation
import Testbook.Proofs.Run.Place
import Testbook.Proofs.Store.Failure
import Testbook.Request.Performed

/-! All calls on a run mean the same step or scenario by an id, and so does a reader. Therefore the note that
is read back is the one that was written. -/

set_option autoImplicit false

namespace Testbook

def Target.missing : Target → Missing
  | step id => .step id
  | scenario id => .scenario id

namespace Run

def holds (run : Run) : Target → Bool
  | .step id => (run.findStep? id).isSome
  | .scenario id => (run.findScenario? id).isSome

def noteOn? (run : Run) : Target → Option String
  | .step id => (run.findStep? id).bind (·.note)
  | .scenario id => (run.findScenario? id).bind (·.note)

def setNote (run : Run) (target : Target) (text : String) : Except Error Unit × Run :=
  match target with
  | .step id => run.setStepNote id text
  | .scenario id => run.setScenarioNote id text

theorem setNote_missing {run : Run} {target : Target} (absent : run.holds target = false)
    (text : String) : run.setNote target text = (.error (.missing target.missing), run) := by
  cases target with
  | step id => exact (run.modifyStep_means id _).1.mpr (by simpa [holds] using absent)
  | scenario id => exact (run.modifyScenario_means id _).1.mpr (by simpa [holds] using absent)

/-- A note that is written is the one that is found, and nothing but notes is different. -/
theorem setNote_done {run : Run} {target : Target} (found : run.holds target = true) (text : String) :
    ∃ changed, run.setNote target text = (.ok (), changed) ∧ run.Annotated changed ∧
      changed.noteOn? target = noteText? text := by
  cases target with
  | step id =>
    obtain ⟨step, stands⟩ := Option.isSome_iff_exists.mp found
    obtain ⟨place, _, made⟩ :=
      (run.modifyStep_means id fun s => { s with note := noteText? text }).2 step stands
    have reads := place.findStep?_within { place.step with note := noteText? text } place.named
    have annotated := congrArg Prod.snd made ▸ run.setStepNote_annotated id text
    exact ⟨_, made, annotated, congrArg (·.bind (·.note)) reads⟩
  | scenario id =>
    obtain ⟨scenario, stands⟩ := Option.isSome_iff_exists.mp found
    obtain ⟨place, _, made⟩ :=
      (run.modifyScenario_means id fun s => { s with note := noteText? text }).2 scenario stands
    have reads := place.findScenario?_within { place.scenario with note := noteText? text } place.named
    have annotated := congrArg Prod.snd made ▸ run.setScenarioNote_annotated id text
    exact ⟨_, made, annotated, congrArg (·.bind (·.note)) reads⟩

end Run

namespace Store

variable {store : Store} {project id : String} {run changed : Run}
  {f : Run → Except Error Unit × Run}

theorem getRun_of_put {later : Store} {p : Project} (ready : store.backend.Ready)
    (loaded : store.load project = .ok p) (found : p.findRun? id = some run)
    (same : changed.id = run.id) (summary : changed.summary = run.summary)
    (put : store.backend.put (p.replaceRun changed) = .ok later.backend) :
    later.getRun project id = .ok changed := by
  obtain ⟨rfl, summaries⟩ := ready.found (load_eq_ok.mp loaded)
  have fits : store.backend.kind = .memory ∨
      ∀ r ∈ (p.replaceRun changed).runs, r.summary.Fits := by
    refine summaries.imp_right fun kept r member => ?_
    rcases Project.mem_replaceRun member with rfl | stood
    · exact summary ▸ kept run (Project.mem_findRun? found).1
    · exact kept r stood
  have becomes : store.Becomes later p.id (p.replaceRun changed) := becomes_put ready fits put
  exact bind_eq_ok.mpr ⟨_, becomes.stored,
    Project.getRun_eq_ok.mpr (Project.findRun?_replaceRun_same found same)⟩

/-- A run that was annotated is answered, and stored where the backend is ready. -/
theorem annotate_done (stored : store.getRun project id = .ok run) (made : f run = (.ok (), changed))
    (annotated : run.Annotated changed) :
    ∃ later, store.annotate project id f = (.ok changed, later) ∧
      (store.backend.Ready → later.getRun project id = .ok changed) := by
  obtain ⟨p, loaded, held⟩ := bind_eq_ok.mp stored
  have found := Project.getRun_eq_ok.mp held
  have mutated : p.mutateRun id f = .ok (((), changed), p.replaceRun changed) :=
    Project.mutateRun_eq_ok.mpr ⟨run, found, made, rfl⟩
  obtain ⟨later, done, _, put⟩ := rewrite_put loaded (f := (·.mutateRun id f)) mutated
  exact ⟨later, annotate_eq_ok.mpr done, fun ready =>
    getRun_of_put ready loaded found annotated.id annotated.summary put⟩

theorem note_eq (store : Store) (project id : String) (target : Target) (text : String) :
    store.note project id target text =
      ((store.annotate project id (·.setNote target text)).1.map (·.noteOn? target),
        (store.annotate project id (·.setNote target text)).2) := by
  cases target <;> rfl

end Store

/-- What each call on a run means by the id of a step or of a scenario, whatever ids are repeated. It fails
for a missing one exactly where a reader finds none, and leaves the run as it was. Else it changes the one
that is found, the first in the order of the document, and nothing else but what is counted; a result of a
step gives its scenario the status that its steps then have. So a note that is written is what is read back,
trimmed, or none if it is blank. -/
theorem calls_mean_what_is_found (run : Run) :
    (∀ id,
      (run.isMutable = true → ∀ outcome,
        run.MeansStep id (run.setStepResult id outcome) true fun place =>
          let scenario := place.withStep { place.step with result := outcome }
          run.withScenarios (place.within { scenario with status := scenario.derivedStatus })) ∧
      (∀ text, run.MeansStep id (run.setStepNote id text) () fun place =>
        { run with
          scenarios := place.within (place.withStep { place.step with note := noteText? text }) }) ∧
      ∀ attachment, run.MeansStep id (run.addStepAttachment id attachment) () fun place =>
        { run with
          scenarios := place.within (place.withStep
            { place.step with attachments := place.step.attachments ++ [attachment] }) }) ∧
    (∀ id,
      (run.isMutable = true → ∀ outcome,
        run.MeansScenario id (run.setScenarioResult id outcome) true fun place =>
          run.withScenarios (place.within (place.scenario.asserted outcome))) ∧
      (∀ text, run.MeansScenario id (run.setScenarioNote id text) () fun place =>
        { run with scenarios := place.within { place.scenario with note := noteText? text } }) ∧
      ∀ attachment, run.MeansScenario id (run.addScenarioAttachment id attachment) () fun place =>
        { run with
          scenarios := place.within
            { place.scenario with attachments := place.scenario.attachments ++ [attachment] } }) ∧
    ∀ (store : Store) (project id : String) (target : Target) (text : String),
      store.getRun project id = .ok run →
      let noted := if Text.allBlank text then none else some (Text.trim text)
      (run.holds target = false →
        store.note project id target text = (.error (.missing target.missing), store)) ∧
      (run.holds target = true → ∃ later, store.note project id target text = (.ok noted, later) ∧
        (store.backend.Ready →
          ∃ changed, later.getRun project id = .ok changed ∧ changed.noteOn? target = noted)) := by
  refine ⟨fun id => ⟨?_, ?_, ?_⟩, fun id => ⟨?_, ?_, ?_⟩, ?_⟩
  · exact fun takes outcome => Run.setStepResult_means takes id outcome
  · exact fun text => run.modifyStep_means id _
  · exact fun attachment => run.modifyStep_means id _
  · exact fun takes outcome => Run.setScenarioResult_means takes id outcome
  · exact fun text => run.modifyScenario_means id _
  · exact fun attachment => run.modifyScenario_means id _
  · intro store project id target text stored noted
    rw [store.note_eq]
    constructor
    · intro absent
      rw [Store.annotate_failed stored (congrArg Prod.fst (Run.setNote_missing absent text))]
      rfl
    · intro found
      obtain ⟨changed, made, annotated, reads⟩ := Run.setNote_done found text
      obtain ⟨later, done, kept⟩ :=
        Store.annotate_done stored (f := (·.setNote target text)) made annotated
      refine ⟨later, ?_, fun ready => ⟨changed, kept ready, reads⟩⟩
      rw [done]
      exact congrArg (fun note => (Except.ok note, later)) reads

/-- Two scenarios have one id, and the steps of one id stand in both. -/
theorem calls_mean_what_is_found_sample :
    let step (id : String) : Step := { id, keyword := .given, text := "a user" }
    let scenario (steps : List Step) : Scenario :=
      { id := "c-1", name := "Plain", steps, status := .skipped }
    let run : Run :=
      { id := "r-1", featureId := "login", createdAt := .epoch, environment := .staging
        version := "1.0"
        scenarios := [scenario [step "s-1", step "s-2", step "s-2"], scenario [step "s-2"]] }
    let store : Store :=
      ⟨.memory [{ id := "shop", name := "Shop", runs := [run] }], .sequential "id"⟩
    run.setStepResult "s-3" .failed = (.error (.missing (.step "s-3")), run) ∧
      (∃ changed, run.setStepResult "s-2" .failed = (.ok true, changed) ∧
        changed.scenarios.map (fun c => (c.status, c.steps.map (·.result))) =
          [(.failed, [.untested, .failed, .untested]), (.skipped, [.untested])]) ∧
      ∃ later changed,
        store.note "shop" "r-1" (.step "s-2") " flaky " = (.ok (some "flaky"), later) ∧
        later.getRun "shop" "r-1" = .ok changed ∧ changed.noteOn? (.step "s-2") = some "flaky" := by
  intro step scenario run store
  obtain ⟨steps, _, notes⟩ := calls_mean_what_is_found run
  have takes : run.isMutable = true := by decide
  refine ⟨((steps "s-3").1 takes .failed).1.mpr (by decide), ?_, ?_⟩
  · obtain ⟨place, _, made⟩ := ((steps "s-2").1 takes .failed).2 (step "s-2") (by decide)
    have shows : (run.setStepResult "s-2" .failed).2.scenarios.map
        (fun c => (c.status, c.steps.map (·.result))) =
          [(.failed, [.untested, .failed, .untested]), (.skipped, [.untested])] := by decide
    rw [made] at shows
    exact ⟨_, made, shows⟩
  · have trimmed : (if Text.allBlank " flaky " then none else some (Text.trim " flaky ")) =
        some "flaky" := by decide +kernel
    obtain ⟨later, done, kept⟩ := (notes store "shop" "r-1" (.step "s-2") " flaky " rfl).2 (by decide)
    obtain ⟨changed, stored, reads⟩ := kept (.memory _)
    exact ⟨later, changed, trimmed ▸ done, stored, reads.trans trimmed⟩

end Testbook
