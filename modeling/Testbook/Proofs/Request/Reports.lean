import Testbook.Answer.Written
import Testbook.Proofs.Feature.Ids
import Testbook.Proofs.Report.Comparison
import Testbook.Proofs.Store.Current
import Testbook.Proofs.Store.Grounded
import Testbook.Request.Performed

/-! What reports count. Two runs that stand side by side are of one feature as it is stored, since runs do
not outlive a feature that is replaced, and the scenarios of a feature are told apart by their ids. -/

set_option autoImplicit false

namespace Testbook

/-! ### Scenarios are told apart -/

theorem distinctIds_lasting : Lasting Operation.FromFiles fun ids p =>
    Function.Injective ids.name → ∀ feature ∈ p.features, feature.ids.Nodup where
  later before distinct injective := distinct (before.name ▸ injective)
  created _ noFeatures _ _ := by simp [noFeatures]
  imported fromFiles := fromFiles.elim
  changed {op} _ _ _ _ fromFiles before changes distinct injective := by
    have injective' := before.name ▸ injective
    intro feature member
    rcases changes.features feature member with stood | offered
    · exact distinct injective' feature stood
    · cases op with
      | uploadFeature project file content =>
        cases offered
        exact Feature.nodup_ofFile_ids injective' file content
      | addFeature => exact fromFiles.elim
      | _ => cases offered

/-! ### Scenarios of one status -/

/-- All scenarios of one status and no others, in the order of the run, and as many as the summary of the
whole run says, which is shown with them. -/
structure Run.ShownFor (run : Run) (outcome : Outcome) (shown : Run) : Prop where
  status : ∀ scenario, scenario ∈ shown.scenarios ↔ scenario ∈ run.scenarios ∧ scenario.status = outcome
  order : shown.scenarios.Sublist run.scenarios
  count : shown.scenarios.length = run.summary.count outcome
  summary : shown.summary = run.summary

theorem Run.showing_shownFor {run : Run} (summary : run.summary = .ofScenarios run.scenarios)
    (outcome : Outcome) : run.ShownFor outcome (run.showing (some outcome)) where
  status scenario := by simp [showing, withStatus]
  order := List.filter_sublist
  count := by
    rw [summary, RunSummary.count_ofScenarios, statusCount, List.countP_eq_length_filter]
    rfl
  summary := rfl

theorem Run.showing_perm (run : Run) :
    (Outcome.all.flatMap fun outcome => (run.showing (some outcome)).scenarios).Perm run.scenarios := by
  have each (scenario : Scenario) (outcome : Outcome) :
      (run.showing (some outcome)).scenarios.count scenario =
        if scenario.status = outcome then run.scenarios.count scenario else 0 := by
    split
    · rename_i shown
      exact List.count_filter (by simpa using shown)
    · rename_i hidden
      exact List.count_eq_zero.mpr fun member => hidden (by simpa using (List.mem_filter.mp member).2)
  refine List.perm_iff_count.mpr ?_
  intro scenario
  simp only [Outcome.all, List.flatMap_cons, List.flatMap_nil, List.count_append, each]
  cases scenario.status <;> simp

/-! ### Answers -/

namespace Store

variable {store : Store}

theorem comparison_eq_ok {project feature before after : String} {environment : Environment}
    {answer : Answer}
    (compared : store.comparison project feature environment before after = .ok answer) :
    ∃ p c, store.getProject project = .ok p ∧
      Report.Comparison.ofVersions p feature environment (Text.trim before) (Text.trim after) = .ok c ∧
      answer = .comparison feature environment c := by
  obtain ⟨p, stored, rest⟩ := bind_eq_ok.mp compared
  obtain ⟨c, found, same⟩ := bind_eq_ok.mp rest
  cases same
  exact ⟨p, c, stored, found, rfl⟩

theorem getRun_eq_ok {project id : String} {run : Run} (stored : store.getRun project id = .ok run) :
    ∃ p, store.getProject project = .ok p ∧ p.findRun? id = some run := by
  obtain ⟨p, found, rest⟩ := bind_eq_ok.mp stored
  exact ⟨p, found, Project.getRun_eq_ok.mp rest⟩

end Store

theorem Answer.json_comparison (feature : String) (environment : Environment)
    (c : Report.Comparison) : ∃ members, (Answer.comparison feature environment c).json =
      .record (members ++ [("changed", .nat c.changedRows.length)]) :=
  ⟨_, rfl⟩

/-! ### Any operations -/

/-- A stored run of a feature that is found, and the feature itself, say the same. -/
theorem Grounded.outlines {ids : IdSource} {p : Project} (grounded : Grounded ids p)
    {feature : Feature} (found : p.findFeature? feature.id = some feature) {run : Run}
    (member : run ∈ p.runs) (same : run.featureId = feature.id) :
    run.outlines = feature.scenarios := by
  obtain ⟨other, known, follows⟩ := grounded.runs run member
  have is_other : p.findFeature? other.id = some other := find?_key_of_mem grounded.distinct known
  rw [follows.id, same, found] at is_other
  cases is_other
  exact follows.outlines

/-- After any of the store's own operations, on any backend, where features come from files and no id is
given out twice: two versions of a feature are compared by two of its stored runs, and every scenario
counts, once; and a stored run can be shown for each outcome, which divides its scenarios as its summary
says. -/
theorem reports_add_up (kind : BackendKind) (ids : IdSource) (injective : Function.Injective ids.name)
    (ops : List Operation) (fromFiles : ∀ op ∈ ops, op.FromFiles) (sized : Store.Sized kind ops)
    (context : Context) {session : Session}
    (reached : session.store = Store.after ⟨.empty kind, ids⟩ ops) :
    (∀ (project feature : String) (environment : Option Environment) (before after : String)
        (answer : Answer),
      (StoreRequest.perform context session
          (.compare project feature environment before after)).1 = .ok answer →
        ∃ p template first second c members,
          session.store.getProject project = .ok p ∧ p.findFeature? feature = some template ∧
          first ∈ p.runs ∧ second ∈ p.runs ∧
          Report.Comparison.completedRun? p feature (context.environment environment)
            (Text.trim before) = some first ∧
          Report.Comparison.completedRun? p feature (context.environment environment)
            (Text.trim after) = some second ∧
          answer = .comparison feature (context.environment environment) c ∧
          c.beforeRun = first.id ∧ c.afterRun = second.id ∧ c.AddsUp template first second ∧
          answer.json = .record (members ++
            [("changed", .nat (c.rows.countP fun row => row.before ≠ row.after))])) ∧
      ∀ (project id : String) (run : Run), session.store.getRun project id = .ok run →
        (∀ outcome, ∃ name,
          let shown := run.showing (some outcome)
          (StoreRequest.perform context session (.showRun project id (some outcome))).1 =
              .ok (.run name run (some outcome)) ∧
            (Answer.run name run (some outcome)).json = .record
              [("feature_name", .text name), ("status_filter", .text outcome.name),
                ("run", shown.json)] ∧
            run.ShownFor outcome shown) ∧
          (Outcome.all.flatMap fun outcome => (run.showing (some outcome)).scenarios).Perm
            run.scenarios := by
  have own : ∀ op ∈ ops, op.IsOwn := fun op member => (fromFiles op member).own
  constructor
  · intro project feature environment before after answer compared
    obtain ⟨p, c, stored, versions, rfl⟩ := Store.comparison_eq_ok compared
    obtain ⟨template, first, second, found, first_found, second_found, rfl⟩ :=
      Report.Comparison.ofVersions_eq_ok versions
    obtain ⟨first_stored, _, _, _, first_id⟩ := Report.Comparison.mem_of_completedRun? first_found
    obtain ⟨second_stored, _, _, _, second_id⟩ := Report.Comparison.mem_of_completedRun? second_found
    obtain ⟨template_stored, template_id⟩ := mem_of_find?_key found
    subst template_id
    rw [reached] at stored
    obtain ⟨_, before_ids, lasting⟩ := grounded_lasting.stored fromFiles sized stored
    have grounded := lasting (before_ids.name ▸ injective)
    obtain ⟨_, before_ids', apart⟩ := distinctIds_lasting.stored fromFiles sized stored
    have distinct := apart (before_ids'.name ▸ injective) template template_stored
    obtain ⟨_, _, current⟩ := current_lasting.stored own sized stored
    have addsUp := Report.Comparison.ofRuns_addsUp (Feature.nodup_scenarios distinct)
      (grounded.outlines found first_stored first_id) (grounded.outlines found second_stored second_id)
      (current first first_stored).summary (current second second_stored).summary
    obtain ⟨members, json⟩ := Answer.json_comparison template.id (context.environment environment)
      (.ofRuns first second)
    rw [addsUp.changed] at json
    exact ⟨p, template, first, second, _, members, reached ▸ stored, found, first_stored,
      second_stored, first_found, second_found, rfl, rfl, rfl, addsUp, json⟩
  · intro project id run stored
    have summary : run.summary = .ofScenarios run.scenarios := by
      obtain ⟨p, held, found⟩ := Store.getRun_eq_ok stored
      rw [reached] at held
      obtain ⟨_, _, current⟩ := current_lasting.stored own sized held
      exact (current run (Project.mem_findRun? found).1).summary
    refine ⟨?_, run.showing_perm⟩
    intro outcome
    refine ⟨session.featureName project run, ?_, rfl, Run.showing_shownFor summary outcome⟩
    exact map_eq_ok.mpr ⟨run, stored, rfl⟩

/-- Two versions of a feature of two scenarios, of which one passed and then failed. -/
theorem reports_add_up_sample :
    let ops : List Operation := [.createProject "Shop" none,
      .uploadFeature "id-1" "a.feature" "Feature: A\nScenario: One\nGiven a user\nScenario: Two",
      .openRun "id-1" "id-2" .staging "1" .epoch, .setStepResult "id-1" "id-6" "id-4" .passed,
      .completeRun "id-1" "id-6" .epoch, .openRun "id-1" "id-2" .staging "2" .epoch,
      .setStepResult "id-1" "id-7" "id-4" .failed, .completeRun "id-1" "id-7" .epoch]
    let context : Context := ⟨⟨"0.1.0", "", ""⟩, "data", "settings", {},
      ⟨⟨.json, .default⟩, ⟨.memory, .default⟩, ⟨.staging, .default⟩, ⟨true, .default⟩⟩, .epoch⟩
    ∃ session c template first second run,
      session.store = Store.after ⟨.empty .memory, .sequential "id"⟩ ops ∧
      (StoreRequest.perform context session (.compare "id-1" "id-2" none " 1 " "2")).1 =
        .ok (.comparison "id-2" .staging c) ∧
      c.AddsUp template first second ∧ c.changedRows.length = 1 ∧
      session.store.getRun "id-1" "id-7" = .ok run ∧
      run.ShownFor .failed (run.showing (some .failed)) ∧ run.summary.count .failed = 1 := by
  intro ops context
  let store := Store.after ⟨.empty .memory, .sequential "id"⟩ ops
  let session : Session := ⟨⟨[]⟩, .shelf (store.getProject "id-1").toOption.toList, store.ids⟩
  have reached : session.store = store := rfl
  obtain ⟨c, compared, one⟩ : ∃ c, (StoreRequest.perform context session
      (.compare "id-1" "id-2" none " 1 " "2")).1 = .ok (.comparison "id-2" .staging c) ∧
        c.changedRows.length = 1 := ⟨_, rfl, rfl⟩
  obtain ⟨run, stored, failed⟩ : ∃ run, session.store.getRun "id-1" "id-7" = .ok run ∧
      run.summary.count .failed = 1 := ⟨_, rfl, rfl⟩
  have fromFiles : ∀ op ∈ ops, op.FromFiles := by simp [ops, Operation.FromFiles, Operation.IsOwn]
  obtain ⟨comparisons, runs⟩ := reports_add_up .memory (.sequential "id")
    (IdSource.sequential_injective "id") ops fromFiles (Or.inl rfl) context reached
  obtain ⟨_, template, first, second, _, _, _, _, _, _, _, _, same, _, _, addsUp, _⟩ :=
    comparisons _ _ _ _ _ _ compared
  cases same
  obtain ⟨_, _, _, shown⟩ := (runs _ _ run stored).1 .failed
  exact ⟨session, c, template, first, second, run, reached, compared, addsUp, one, stored, shown,
    failed⟩

end Testbook
