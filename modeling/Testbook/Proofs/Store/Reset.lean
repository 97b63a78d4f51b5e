import Testbook.Proofs.Project.Reset
import Testbook.Proofs.Store.Progress

/-! A reset of a feature's runs leaves one run in progress for each version, in which nothing is tested,
and all others as they were. To reset the feature again changes nothing. -/

set_option autoImplicit false

namespace Testbook

/-- In the project the runs of a feature have been reset, as many as are answered. -/
structure Project.FeatureReset (p : Project) (feature : String) (count : Nat) (later : Project) :
    Prop where
  counted : count = (p.editionsOf feature).length
  /-- The one in progress, or the first that is stored where none is. -/
  leader : ∀ edition ∈ p.editionsOf feature,
    ∃! run, run ∈ p.runs ∧ (run.featureId = feature ∧ run.edition = edition) ∧ run.Leads p.runs
  others : later = { p with
    runs := p.runs.map fun run =>
      if run.featureId = feature ∧ run.Leads p.runs then run.reset else run }
  clean : ∀ run ∈ p.runs, run.featureId = feature → run.Leads p.runs →
    run.reset ∈ later.runs ∧ run.reset.Untested ∧ run.reset.completedAt = none
  inProgress : ∀ edition ∈ p.editionsOf feature, ∃! run, run ∈ later.runs ∧
    (run.featureId = feature ∧ run.edition = edition) ∧ run.status = .inProgress
  again : later.resetFeatureRuns feature = .ok (count, later)

theorem Run.reset_untested (run : Run) : run.reset.Untested where
  scenarios := by
    simp only [reset, List.mem_map]
    rintro _ ⟨scenario, _, rfl⟩
    simp [Scenario.asserted]
  summary := by simp [reset]
  status := rfl
  locked := rfl

namespace Project

variable {p : Project} {feature : String} {edition : Environment × String}

theorem mem_editionsOf : edition ∈ p.editionsOf feature ↔
    ∃ run ∈ p.runs, run.featureId = feature ∧ run.edition = edition := by
  simp [editionsOf, runsOf, and_assoc]

theorem existsUnique_leader (holds : OneEach p.runs) (tested : edition ∈ p.editionsOf feature) :
    ∃! run, run ∈ p.runs ∧ (run.featureId = feature ∧ run.edition = edition) ∧
      run.Leads p.runs := by
  obtain ⟨run, member, rfl, rfl⟩ := mem_editionsOf.mp tested
  obtain ⟨leader, stands, same, leads⟩ := OneEach.exists_leader member
  refine ⟨leader, ⟨stands, Run.matches_iff.mp same, leads⟩, ?_⟩
  rintro other ⟨stands', same', leads'⟩
  exact holds.leader_unique stands stands' ((same.congr other).mpr (Run.matches_iff.mpr same')) leads
    leads'

theorem mem_afterReset_of_leads {run : Run} (member : run ∈ p.runs) (of : run.featureId = feature)
    (leads : run.Leads p.runs) : run.reset ∈ (p.afterReset feature).runs :=
  List.mem_map.mpr ⟨run, member, Run.afterReset_leader of leads⟩

theorem existsUnique_inProgress (holds : OneEach p.runs) (tested : edition ∈ p.editionsOf feature) :
    ∃! run, run ∈ (p.afterReset feature).runs ∧
      (run.featureId = feature ∧ run.edition = edition) ∧ run.status = .inProgress := by
  obtain ⟨leader, ⟨stands, ⟨of, rfl⟩, leads⟩, _⟩ := existsUnique_leader holds tested
  have reset := mem_afterReset_of_leads stands of leads
  refine ⟨leader.reset, ⟨reset, ⟨of, rfl⟩, rfl⟩, ?_⟩
  rintro other ⟨member, ⟨of', same⟩, inProgress⟩
  exact (holds.afterReset feature).alone other member leader.reset reset
    ⟨inProgress, rfl, Run.matches_iff.mpr ⟨of.trans of'.symm, same.symm⟩⟩

theorem afterReset_featureReset (holds : OneEach p.runs)
    (known : ∃ template ∈ p.features, template.id = feature) :
    p.FeatureReset feature (p.editionsOf feature).length (p.afterReset feature) where
  counted := rfl
  leader _ tested := existsUnique_leader holds tested
  others := rfl
  clean run member of leads := ⟨mem_afterReset_of_leads member of leads, run.reset_untested, rfl⟩
  inProgress _ tested := existsUnique_inProgress holds tested
  again := by
    have once := resetFeatureRuns_eq (p := p.afterReset feature) (holds.afterReset feature) known
    rw [editionsOf_afterReset, afterReset_afterReset] at once
    exact once

/-- What is reset can be written down where the scenarios can be counted. -/
theorem afterReset_summaries {inMemory : Prop} (feature : String)
    (kept : inMemory ∨ ∀ run ∈ p.runs, run.summary.Fits)
    (small : inMemory ∨ ∀ run ∈ p.runs, run.scenarios.length < Json.wordLimit) :
    inMemory ∨ ∀ run ∈ (p.afterReset feature).runs, run.summary.Fits := by
  refine kept.elim Or.inl fun kept => small.imp_right fun small changed member => ?_
  obtain ⟨run, stood, rfl⟩ := List.mem_map.mp member
  unfold Run.afterReset
  split
  · exact RunSummary.allUntested_fits (small run stood)
  · exact kept run stood

end Project

namespace Store

variable {store : Store} {project feature : String} {p : Project}

/-- In a stored project whose runs have ids of their own, and of which at most one is in progress for each
feature, environment and version, the runs of every known feature can be reset: of each version the one in
progress, or the first where none is, and no other run. The project is read back so from every store that
operations have led to, and it is done again without any change. -/
theorem resets_one_run_each (stored : store.getProject project = .ok p) (holds : OneEach p.runs)
    (known : ∃ template ∈ p.features, template.id = feature) :
    ∃ count document later, store.resetFeatureRuns project feature = (.ok count, later) ∧
      p.FeatureReset feature count document ∧
      later.ids = store.ids ∧ store.backend.put document = .ok later.backend ∧
      (store.Reached ∨ store.backend.Ready ∧
          (store.backend.kind = .memory ∨ ∀ run ∈ p.runs, run.scenarios.length < Json.wordLimit) →
        store.Becomes later project document ∧
          ∃ last, later.resetFeatureRuns project feature = (.ok count, last) ∧
            later.Becomes last project document) := by
  have reset := Project.afterReset_featureReset holds known
  obtain ⟨later, done, ids, put⟩ := rewrite_put (f := (·.resetFeatureRuns feature)) stored
    (Project.resetFeatureRuns_eq holds known)
  refine ⟨_, p.afterReset feature, later, done, reset, ids, put, ?_⟩
  intro readable
  obtain ⟨ready, small⟩ :=
    ready_of stored (fun fits run member => (fits.runs run member).scenarios) readable
  obtain ⟨rfl, kept⟩ := ready.found (load_eq_ok.mp stored)
  have fits := Project.afterReset_summaries feature kept small
  have becomes : store.Becomes later p.id (p.afterReset feature) := becomes_put ready fits put
  obtain ⟨last, again, _, put'⟩ :=
    rewrite_put (f := (·.resetFeatureRuns feature)) becomes.stored reset.again
  exact ⟨becomes, last, again, becomes_put becomes.ready (becomes.kind ▸ fits) put'⟩

/-- Runs of two versions take turns: of one a run is in progress, of the other none is, and another feature
has a run of the same version. -/
theorem resets_one_run_each_sample :
    let step (result : Outcome) : Step := { id := "s-1", keyword := .given, text := "a user", result }
    let run (id featureId version : String) (status : RunStatus) (result : Outcome) : Run :=
      { id, featureId, createdAt := .epoch, environment := .staging, version, status
        scenarios := [{ id := "c-1", name := "Plain", status := result, steps := [step result] }]
        summary := .ofScenarios [{ id := "c-1", name := "Plain", status := result }] }
    let closed (id featureId version : String) : Run :=
      { run id featureId version .completed .passed with completedAt := some .epoch, locked := true }
    let shop (second third : Run) : Project :=
      { id := "shop", name := "Shop"
        features := [{ id := "f-1", name := "Login", source := ⟨"login.feature", "", ""⟩ }]
        runs := [closed "r-1" "f-1" "1.0", second, third, closed "r-4" "f-1" "2.0",
          closed "r-5" "f-2" "1.0"] }
    let before := shop (run "r-2" "f-1" "2.0" .paused .passed) (run "r-3" "f-1" "1.0" .inProgress .failed)
    let after := shop (run "r-2" "f-1" "2.0" .inProgress .untested)
      (run "r-3" "f-1" "1.0" .inProgress .untested)
    ∃ later last, resetFeatureRuns ⟨.memory [before], .sequential "id"⟩ "shop" "f-1" = (.ok 2, later) ∧
      later.getProject "shop" = .ok after ∧ later.resetFeatureRuns "shop" "f-1" = (.ok 2, last) ∧
      last.getProject "shop" = .ok after := by
  intro step run closed shop before after
  have holds : OneEach before.runs := ⟨by decide, by unfold Run.Rivals; decide⟩
  have stored : getProject ⟨.memory [before], .sequential "id"⟩ "shop" = .ok before := rfl
  have known : ∃ template ∈ before.features, template.id = "f-1" := by decide
  obtain ⟨count, document, later, done, reset, _, _, becomes⟩ :=
    resets_one_run_each stored holds known
  obtain ⟨changed, last, again, unchanged⟩ := becomes (Or.inr ⟨.memory _, Or.inl rfl⟩)
  obtain rfl : document = after := reset.others.trans (by decide +kernel)
  obtain rfl : count = 2 := reset.counted.trans (by decide +kernel)
  exact ⟨later, last, done, changed.stored, again, unchanged.stored⟩

end Store

end Testbook
