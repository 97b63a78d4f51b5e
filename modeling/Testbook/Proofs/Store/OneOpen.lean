import Testbook.Proofs.Project.OneOpen
import Testbook.Proofs.Store.Agreement

/-! For each feature, environment and version of a project at most one run is in progress. Four
operations can make a run one in progress, each with its own guard; the rest leaves what is in progress
as it is, or completes it. -/

set_option autoImplicit false

namespace Testbook

theorem Operation.Changes.oneOpen {op : Operation} {ids later : IdSource} {p changed : Project}
    (own : op.IsOwn) (injective : Function.Injective ids.name) (before : ids.Before later)
    (changes : op.Changes ids later p changed) (holds : OneOpen ids p.runs) :
    OneOpen later changed.runs := by
  cases changes with
  | takesFeature _ takes =>
    rcases Project.addFeature_cases takes with ⟨_, _, rfl⟩ | ⟨_, _, _, rfl⟩
    · exact holds.mono before
    · exact (holds.sublist List.filter_sublist).mono before
  | @beginsRun _ feature _ version environment now template _ valid free found taken =>
    have template_id : template.id = feature := (Project.mem_getFeature found).2
    have trimmed := Text.trimmed?_spec (versionOf_eq_ok.mp valid)
    subst taken
    refine (holds.mono before).append (IdSource.next_issued ids) ?_ ⟨trimmed.1, trimmed.2.1⟩ ?_
    · intro run member same
      have fresh : run.id = ids.next.1 := same
      exact IdSource.next_not_issued injective (fresh ▸ holds.issued run member)
    · -- The run was begun because none was found in progress.
      rintro run member ⟨_, inProgress, same⟩
      have no := List.find?_eq_none.mp free run member
      have same' : run.isFor feature environment version = true := template_id ▸ same
      simp [same', inProgress] at no
  | editsRun edits stands result =>
    have frame := (Operation.edited own edits result).sameFrame
    obtain ⟨front, back, runs, replaced⟩ := Project.replaceRun_split stands frame.id
    rw [replaced]
    rw [runs] at holds
    refine (holds.swap frame.id frame.version ?_).mono before
    rintro other member apart ⟨inProgress, open', same⟩
    rw [frame.featureId, frame.environment, frame.version] at same
    exact apart (holds.alone _ (by simp) other member ⟨frame.status ▸ inProgress, open', same⟩).symm
  | @completesRun _ now found stands unfinished =>
    have completed := Run.complete_eq unfinished now
    have same : (found.complete now).2.id = found.id := by rw [completed]
    obtain ⟨front, back, runs, replaced⟩ := Project.replaceRun_split stands same
    rw [replaced]
    rw [runs] at holds
    refine (holds.swap same (by rw [completed]) ?_).mono before
    rintro other member apart ⟨inProgress, _⟩
    simp [completed] at inProgress
  | @resetsRun _ found stands alone =>
    have same : found.reset.id = found.id := rfl
    obtain ⟨front, back, runs, replaced⟩ := Project.replaceRun_split stands same
    rw [replaced]
    rw [runs] at holds alone
    exact (holds.swap same rfl fun other member apart =>
      OneOpen.not_rivals_of_openSibling? alone member apart).mono before
  | resetsFeature =>
    have start : OneOpen ids ([] ++ p.runs) := holds
    exact start.resetEach.mono before
  | forgetsRuns => exact .nil later
  | updatesRun => exact own.elim

theorem oneOpen_lasting :
    Lasting Operation.IsOwn fun ids p => Function.Injective ids.name → OneOpen ids p.runs where
  later before holds injective := (holds (before.name ▸ injective)).mono before
  created _ _ noRuns _ := noRuns ▸ .nil _
  imported own := own.elim
  changed own before changes holds injective :=
    have injective' := before.name ▸ injective
    changes.oneOpen own injective' before (holds injective')

/-- After any of the store's own operations, on any backend, where no id is given out twice: the runs of
a project have ids of their own and trimmed versions, and at most one of them is in progress for a
feature, an environment and a version. -/
theorem one_open_run_per_version (kind : BackendKind) (ids : IdSource)
    (injective : Function.Injective ids.name) (ops : List Operation) (own : ∀ op ∈ ops, op.IsOwn)
    (sized : Store.Sized kind ops) {id : String} {p : Project}
    (stored : (Store.after ⟨.empty kind, ids⟩ ops).getProject id = .ok p) :
    (p.runs.map (·.id)).Nodup ∧
      (∀ run ∈ p.runs, run.version ≠ "" ∧ Text.trim run.version = run.version) ∧
      ∀ feature environment version, p.runs.countP
        (fun run => run.isFor feature environment version && run.status = .inProgress) ≤ 1 := by
  obtain ⟨later, before, oneOpen⟩ := oneOpen_lasting.stored own sized stored
  have holds := oneOpen (before.name ▸ injective)
  exact ⟨holds.distinct, holds.versions, holds.countP_le_one⟩

theorem one_open_run_per_version_sample :
    ∃ p, (Store.after ⟨.empty .memory, .sequential "id"⟩ Operation.sample).getProject "id-1" =
        .ok p ∧ p.runs.length = 1 ∧ p.runs.countP
          (fun run => run.isFor "login" .staging "1.0" && run.status = .inProgress) ≤ 1 := by
  obtain ⟨p, stored, one⟩ :
      ∃ p, (Store.after ⟨.empty .memory, .sequential "id"⟩ Operation.sample).getProject "id-1" =
        .ok p ∧ p.runs.length = 1 := ⟨_, rfl, rfl⟩
  refine ⟨p, stored, one, ?_⟩
  exact (one_open_run_per_version .memory (.sequential "id") (IdSource.sequential_injective "id")
    Operation.sample Operation.sample_own (Or.inl rfl) stored).2.2 "login" .staging "1.0"

end Testbook
