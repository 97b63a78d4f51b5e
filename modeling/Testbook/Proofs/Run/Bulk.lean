import Mathlib.Data.List.Induction
import Testbook.Proofs.Run.Calls
import Testbook.Proofs.Store.Failure

/-! Asserting one outcome for several scenarios at once comes to asserting it for one after another, in
whatever order. Only a missing scenario makes a difference: one after another, those before it have been
asserted by then; at once, nothing has happened yet. -/

set_option autoImplicit false

namespace Testbook

namespace Scenario

def called (scenario : Scenario) (ids : List String) (outcome : Outcome) : Scenario :=
  if scenario.id ∈ ids then scenario.asserted outcome else scenario

variable {scenario : Scenario} {ids : List String} {outcome : Outcome}

theorem called_nil (scenario : Scenario) (outcome : Outcome) : scenario.called [] outcome = scenario := by
  simp [called]

theorem called_id (scenario : Scenario) (ids : List String) (outcome : Outcome) :
    (scenario.called ids outcome).id = scenario.id := by
  unfold called
  split <;> rfl

theorem called_congr {order : List String} (same : ∀ id, id ∈ order ↔ id ∈ ids) (scenario : Scenario)
    (outcome : Outcome) : scenario.called order outcome = scenario.called ids outcome := by
  simp only [called, same]

theorem called_append (scenario : Scenario) (ids : List String) (id : String) (outcome : Outcome) :
    scenario.called (ids ++ [id]) outcome =
      if (scenario.called ids outcome).id = id then (scenario.called ids outcome).asserted outcome
      else scenario.called ids outcome := by
  have again : (scenario.asserted outcome).asserted outcome = scenario.asserted outcome := by
    simp [asserted]
  rw [called_id]
  by_cases before : scenario.id ∈ ids
  · simp [called, before, again]
  · by_cases now : scenario.id = id
    · subst now
      simp [called, before]
    · simp [called, before, now]

end Scenario

namespace Run

variable {run : Run} {ids order : List String} {outcome : Outcome}

/-- Assert one outcome for scenarios, one call after another. The first call that fails is the last one. -/
def assertEach (run : Run) (scenarios : List String) (outcome : Outcome) : Except Error Unit × Run :=
  run.calls (fun scenario run => run.setScenarioResult scenario outcome) scenarios

def withCalled (run : Run) (ids : List String) (outcome : Outcome) : Run :=
  run.withScenarios (run.scenarios.map (·.called ids outcome))

theorem hasScenario_iff {id : String} :
    run.hasScenario id = true ↔ ∃ scenario ∈ run.scenarios, scenario.id = id := by
  simp [hasScenario]

theorem hasScenario_withCalled (run : Run) (ids : List String) (outcome : Outcome) (id : String) :
    (run.withCalled ids outcome).hasScenario id = run.hasScenario id := by
  simp [hasScenario, withCalled, withScenarios, Scenario.called_id, Function.comp_def]

theorem bulkSetResult_eq (takes : run.isMutable = true)
    (known : ∀ id ∈ ids, run.hasScenario id = true) (outcome : Outcome) :
    run.bulkSetResult ids outcome = (.ok true, run.withCalled ids outcome) := by
  have all : ids.find? (!run.hasScenario ·) = none :=
    List.find?_eq_none.mpr fun id member => by simp [known id member]
  simp [bulkSetResult, takes, all, withCalled, Scenario.called]

theorem setScenarioResult_called (takes : run.isMutable = true)
    (distinct : (run.scenarios.map (·.id)).Nodup) {id : String} (known : run.hasScenario id = true)
    (ids : List String) (outcome : Outcome) :
    (run.withCalled ids outcome).setScenarioResult id outcome =
      (.ok true, run.withCalled (ids ++ [id]) outcome) := by
  have takes' : (run.withCalled ids outcome).isMutable = true := takes
  have known' := (run.hasScenario_withCalled ids outcome id).trans known
  have distinct' : ((run.withCalled ids outcome).scenarios.map (·.id)).Nodup := by
    simpa [withCalled, withScenarios, Scenario.called_id, Function.comp_def] using distinct
  rw [setScenarioResult, takes', known', modifyFirst_eq_map distinct']
  simp [withCalled, withScenarios, Scenario.called_append, Function.comp_def]

theorem withCalled_nil (counted : run.summary = .ofScenarios run.scenarios) (outcome : Outcome) :
    run.withCalled [] outcome = run := by
  simp [withCalled, withScenarios, Scenario.called_nil, ← counted]

-- By induction from the end: what the calls so far have made of the run depends only on which ids they
-- were given.
theorem assertEach_eq (takes : run.isMutable = true)
    (distinct : (run.scenarios.map (·.id)).Nodup)
    (counted : run.summary = .ofScenarios run.scenarios)
    (known : ∀ id ∈ ids, run.hasScenario id = true) (outcome : Outcome) :
    run.assertEach ids outcome = (.ok (), run.withCalled ids outcome) := by
  induction ids using List.reverseRecOn with
  | nil => rw [withCalled_nil counted, assertEach, calls]
  | append_singleton ids id ih =>
    have before := ih fun id member => known id (by simp [member])
    have last := setScenarioResult_called takes distinct (known id (by simp)) ids outcome
    exact (calls_append before [id]).trans (calls_cons_of_ok last [])

/-- At once, a missing scenario is found before any other one is asserted. -/
theorem bulkSetResult_missing (takes : run.isMutable = true) {front : List String} (back : List String)
    {absent : String} (known : ∀ id ∈ front, run.hasScenario id = true)
    (missing : run.hasScenario absent = false) (outcome : Outcome) :
    run.bulkSetResult (front ++ absent :: back) outcome =
      (.error (.missing (.scenario absent)), run) := by
  have before : front.find? (!run.hasScenario ·) = none :=
    List.find?_eq_none.mpr fun id member => by simp [known id member]
  have first : (front ++ absent :: back).find? (!run.hasScenario ·) = some absent := by
    simp [before, missing]
  simp [bulkSetResult, takes, first]

/-- One after another, it is found after all that come before it have been asserted. -/
theorem assertEach_missing (takes : run.isMutable = true)
    (distinct : (run.scenarios.map (·.id)).Nodup)
    (counted : run.summary = .ofScenarios run.scenarios) {front : List String} (back : List String)
    {absent : String} (known : ∀ id ∈ front, run.hasScenario id = true)
    (missing : run.hasScenario absent = false) (outcome : Outcome) :
    run.assertEach (front ++ absent :: back) outcome =
      (.error (.missing (.scenario absent)), run.withCalled front outcome) := by
  have takes' : (run.withCalled front outcome).isMutable = true := takes
  have missing' := (run.hasScenario_withCalled front outcome absent).trans missing
  have stops : (run.withCalled front outcome).setScenarioResult absent outcome =
      (.error (.missing (.scenario absent)), run.withCalled front outcome) := by
    simp [setScenarioResult, takes', missing']
  have before := assertEach_eq takes distinct counted known outcome
  exact (calls_append before _).trans (calls_cons_of_error stops back)

/-- On a run that takes results, whose scenarios have ids of their own and are counted: where all scenarios
that are called are there, asserting an outcome for them at once makes of the run what asserting it for one
after another makes of it, in any order. Otherwise both fail for the first that is missing. One after
another, those that are called before it have been asserted by then; at once, the run is left as it was, and
so is a store in which it stands. -/
theorem bulk_as_one_by_one (takes : run.isMutable = true)
    (distinct : (run.scenarios.map (·.id)).Nodup)
    (counted : run.summary = .ofScenarios run.scenarios) (ids : List String) (outcome : Outcome) :
    ((∀ id ∈ ids, ∃ scenario ∈ run.scenarios, scenario.id = id) →
      ∃ changed, run.bulkSetResult ids outcome = (.ok true, changed) ∧
        ∀ order, (∀ id, id ∈ order ↔ id ∈ ids) → run.assertEach order outcome = (.ok (), changed)) ∧
    ((∃ id ∈ ids, ∀ scenario ∈ run.scenarios, scenario.id ≠ id) →
      ∃ front absent back begun, ids = front ++ absent :: back ∧
        (∀ id ∈ front, ∃ scenario ∈ run.scenarios, scenario.id = id) ∧
        (∀ scenario ∈ run.scenarios, scenario.id ≠ absent) ∧
        run.assertEach front outcome = (.ok (), begun) ∧
        run.assertEach ids outcome = (.error (.missing (.scenario absent)), begun) ∧
        run.bulkSetResult ids outcome = (.error (.missing (.scenario absent)), run) ∧
        ∀ (store : Store) (project : String), store.getRun project run.id = .ok run →
          store.bulkSetResult project run.id ids outcome =
            (.error (.missing (.scenario absent)), store)) := by
  constructor
  · intro present
    have known : ∀ id ∈ ids, run.hasScenario id = true :=
      fun id member => hasScenario_iff.mpr (present id member)
    refine ⟨_, bulkSetResult_eq takes known outcome, ?_⟩
    intro order same
    have known' : ∀ id ∈ order, run.hasScenario id = true :=
      fun id member => known id ((same id).mp member)
    rw [assertEach_eq takes distinct counted known' outcome]
    simp only [withCalled, Scenario.called_congr same]
  · rintro ⟨id, member, absent⟩
    have missing : run.hasScenario id = false := by
      rw [Bool.eq_false_iff, Ne, hasScenario_iff]
      rintro ⟨scenario, stands, same⟩
      exact absent scenario stands same
    obtain ⟨first, found⟩ := Option.isSome_iff_exists.mp
      (List.find?_isSome (p := (!run.hasScenario ·)).mpr ⟨id, member, by simp [missing]⟩)
    obtain ⟨gone, front, back, rfl, before⟩ := List.find?_eq_some_iff_append.mp found
    have known : ∀ id ∈ front, run.hasScenario id = true :=
      fun id member => by simpa using before id member
    have first_gone : run.hasScenario first = false := by simpa using gone
    have atOnce := bulkSetResult_missing takes back known first_gone outcome
    refine ⟨front, first, back, run.withCalled front outcome, rfl,
      fun id member => hasScenario_iff.mp (known id member), ?_,
      assertEach_eq takes distinct counted known outcome,
      assertEach_missing takes distinct counted back known first_gone outcome, atOnce,
      fun store project stored => Store.mutateRun_failed stored (congrArg Prod.fst atOnce)⟩
    intro scenario stands same
    have there := hasScenario_iff.mpr ⟨scenario, stands, same⟩
    simp [first_gone] at there

/-- Two of three scenarios fail, one of them called twice; then one is called that is not there. -/
theorem bulk_as_one_by_one_sample :
    let scenario (id : String) : Scenario := { id, name := id }
    let scenarios := [scenario "a", scenario "b", scenario "c"]
    let run : Run :=
      { id := "r-1", featureId := "login", createdAt := .epoch, environment := .staging
        version := "1.0", scenarios, summary := .ofScenarios scenarios }
    let store : Store :=
      ⟨.memory [{ id := "shop", name := "Shop", runs := [run] }], .sequential "id"⟩
    (∃ changed, run.bulkSetResult ["c", "a", "c"] .failed = (.ok true, changed) ∧
      run.assertEach ["a", "c"] .failed = (.ok (), changed) ∧ changed.summary.failed = 2) ∧
    (∃ begun, run.assertEach ["a", "x", "y"] .failed = (.error (.missing (.scenario "x")), begun) ∧
      begun.summary.failed = 1) ∧
    run.bulkSetResult ["a", "x", "y"] .failed = (.error (.missing (.scenario "x")), run) ∧
    store.bulkSetResult "shop" "r-1" ["a", "x", "y"] .failed =
      (.error (.missing (.scenario "x")), store) := by
  intro scenario scenarios run store
  have takes : run.isMutable = true := by decide
  have distinct : (run.scenarios.map (·.id)).Nodup := by decide
  have counted : run.summary = .ofScenarios run.scenarios := rfl
  obtain ⟨changed, atOnce, oneByOne⟩ :=
    (bulk_as_one_by_one takes distinct counted ["c", "a", "c"] .failed).1 (by decide)
  obtain ⟨front, absent, back, begun, split, _, gone, begins, stops, failed, unchanged⟩ :=
    (bulk_as_one_by_one takes distinct counted ["a", "x", "y"] .failed).2 (by decide)
  refine ⟨⟨changed, atOnce, oneByOne ["a", "c"] (by simp), ?_⟩, ?_⟩
  · cases atOnce
    decide
  · cases failed
    refine ⟨⟨begun, stops, ?_⟩, rfl, unchanged store "shop" rfl⟩
    cases stops
    decide

end Run

end Testbook
