import Testbook.Proofs.Store.Agreement

/-! The summary of a run and the statuses of its scenarios are stored beside the results that they are
derived from. As long as runs are changed by the store's own operations, neither is ever stale. -/

set_option autoImplicit false

namespace Testbook

theorem Run.complete_current (run : Run) (now : Instant) (current : run.Current) :
    (run.complete now).2.Current := by
  unfold complete
  split
  · exact current
  · exact ⟨current.summary, current.scenarios⟩

-- Each way to change a run either counts it anew or leaves every result as it was.
theorem current_lasting :
    Lasting Operation.IsOwn fun _ p => ∀ run ∈ p.runs, run.Current where
  later _ current := current
  created _ _ noRuns := by simp [noRuns]
  imported own := own.elim
  changed {op} _ _ p _ own _ changes current := by
    have keeps : op.KeepsRuns p Run.Current :=
      { begun := fun template _ environment version id now =>
          Run.snapshot_current template environment version id now
        edited := fun edits result current => (Operation.edited own edits result).current current
        completed := fun run now _ => run.complete_current now
        reset := fun run _ => run.reset_current
        updated := by
          rintro project run rfl
          exact own.elim }
    exact changes.runs keeps current

/-- After any of the store's own operations, on any backend and with features of any shape, every run
is counted and derived from the results that it holds. -/
theorem derived_data_current (kind : BackendKind) (ids : IdSource) (ops : List Operation)
    (own : ∀ op ∈ ops, op.IsOwn) (sized : Store.Sized kind ops) {id : String} {p : Project}
    (stored : (Store.after ⟨.empty kind, ids⟩ ops).getProject id = .ok p) :
    ∀ run ∈ p.runs,
      run.summary = .ofScenarios run.scenarios ∧
      run.summary.total = run.scenarios.length ∧
      run.summary.passed + run.summary.failed + run.summary.skipped + run.summary.untested =
        run.summary.total ∧
      ∀ scenario ∈ run.scenarios, scenario.steps ≠ [] →
        scenario.status = scenario.derivedStatus := by
  intro run member
  obtain ⟨later, _, all⟩ := current_lasting.stored own sized stored
  have current := all run member
  refine ⟨current.summary, ?_, ?_, current.scenarios⟩
  · rw [current.summary]
    rfl
  · rw [current.summary]
    exact ofScenarios_total run.scenarios

theorem derived_data_current_sample :
    ∃ p, (Store.after ⟨.empty .memory, .sequential "id"⟩ Operation.sample).getProject "id-1" =
        .ok p ∧ p.runs.length = 1 ∧ ∀ run ∈ p.runs, run.summary = .ofScenarios run.scenarios := by
  obtain ⟨p, stored, one⟩ :
      ∃ p, (Store.after ⟨.empty .memory, .sequential "id"⟩ Operation.sample).getProject "id-1" =
        .ok p ∧ p.runs.length = 1 := ⟨_, rfl, rfl⟩
  refine ⟨p, stored, one, ?_⟩
  intro run member
  exact (derived_data_current .memory (.sequential "id") Operation.sample Operation.sample_own
    (Or.inl rfl) stored run member).1

end Testbook
