import Testbook.Proofs.Report.History

/-! Which run stands for a version. A history and a comparison both take the newest that was completed, but
of several that were created at the same time the history takes the first and the comparison the last. -/

set_option autoImplicit false

namespace Testbook.Report

def completedFor (project : Project) (feature : String) (edition : Environment × String) : List Run :=
  project.runs.filter fun run =>
    run.featureId = feature && run.status = .completed && run.edition = edition

variable {p : Project} {feature version : String} {environment : Environment} {run : Run}

theorem mem_completedFor : run ∈ completedFor p feature (environment, version) ↔
    run ∈ p.runs ∧ run.featureId = feature ∧ run.environment = environment ∧
      run.version = version ∧ run.status = .completed := by
  simp only [completedFor, List.mem_filter, Run.edition, Prod.mk.injEq, Bool.and_eq_true,
    decide_eq_true_eq]
  tauto

/-- Whether a history is of one environment or of all does not matter for what it sees of this one. -/
theorem ofEdition_completedRuns {asked : Option Environment}
    (reaches : ∀ other ∈ asked, other = environment) :
    ofEdition (completedRuns p feature asked) (environment, version) =
      completedFor p feature (environment, version) := by
  simp only [ofEdition, completedRuns, completedFor, Project.runsOf, List.filter_filter]
  refine List.filter_congr fun run _ => ?_
  have reached : run.environment = environment → asked.all (run.environment = ·) = true := by
    rintro rfl
    rw [Option.all_eq_true]
    exact fun other holds => decide_eq_true (reaches other holds).symm
  rw [Bool.eq_iff_iff]
  simp only [Run.edition, Prod.mk.injEq, Bool.and_eq_true, decide_eq_true_eq]
  tauto

theorem completedRun?_eq_getLast? : Comparison.completedRun? p feature environment version =
    (latest (completedFor p feature (environment, version))).getLast? := by
  rw [Comparison.completedRun?, newest?_eq_getLast?]
  simp only [Project.runsOf, List.filter_filter, completedFor]
  congr 2
  refine List.filter_congr fun run _ => ?_
  rw [Bool.eq_iff_iff]
  simp only [Run.edition, Prod.mk.injEq, Bool.and_eq_true, decide_eq_true_eq]
  tauto

theorem mem_newestPerVersion_iff {asked : Option Environment}
    (reaches : ∀ other ∈ asked, other = environment) :
    run ∈ newestPerVersion p feature asked ∧ run.edition = (environment, version) ↔
      (latest (completedFor p feature (environment, version))).head? = some run := by
  rw [← ofEdition_completedRuns reaches]
  have keeps := keeps_newestPerVersion p feature asked
  constructor
  · rintro ⟨member, same⟩
    exact same ▸ keeps.mem_iff.mp member
  · intro stands
    have same := (mem_of_standing? stands).2
    exact ⟨keeps.mem_iff.mpr (same ▸ stands), same⟩

/-- The first of the newest runs is the last of them too if there is no other. -/
theorem head_eq_getLast_iff {newest : List Run} (once : newest.Nodup) {first last : Run}
    (head : newest.head? = some first) (final : newest.getLast? = some last) :
    first = last ↔ newest.length = 1 := by
  cases newest with
  | nil => cases head
  | cons run others =>
    cases head
    cases others with
    | nil => simpa using final
    | cons second others =>
      have later : last ∈ second :: others := List.mem_of_getLast? (by simpa using final)
      have apart : first ≠ last := fun same => (List.nodup_cons.mp once).1 (same ▸ later)
      simp [apart]

theorem latest_createdAt {runs : List Run} {first last : Run} (head : first ∈ latest runs)
    (final : last ∈ latest runs) : first.createdAt = last.createdAt := by
  obtain ⟨member, newest⟩ := mem_latest.mp head
  obtain ⟨member', newest'⟩ := mem_latest.mp final
  exact Instant.notAfter_antisymm (newest' first member) (newest last member')

/-- The run that a history keeps for an environment and a version, and the one that a comparison takes. -/
structure StandFor (p : Project) (feature : String) (environment : Environment) (version : String)
    (kept compared : Run) : Prop where
  first : (latest (completedFor p feature (environment, version))).head? = some kept
  last : (latest (completedFor p feature (environment, version))).getLast? = some compared
  history : ∀ asked : Option Environment, (∀ other ∈ asked, other = environment) → ∀ run,
    run ∈ newestPerVersion p feature asked ∧ run.edition = (environment, version) ↔ run = kept
  comparison : Comparison.completedRun? p feature environment version = some compared
  before : ∀ other rival, Comparison.completedRun? p feature environment other = some rival →
    Comparison.ofVersions p feature environment version other = .ok (.ofRuns compared rival)
  after : ∀ other rival, Comparison.completedRun? p feature environment other = some rival →
    Comparison.ofVersions p feature environment other version = .ok (.ofRuns rival compared)

/-- A history keeps the first of the newest completed runs of a version, and a comparison takes the last.
They were created at the same time, and are one run if and only if there is one newest. -/
theorem version_stands_by_newest (distinct : (p.runs.map (·.id)).Nodup)
    (known : (p.findFeature? feature).isSome)
    (tested : ∃ run ∈ p.runs, run.featureId = feature ∧ run.environment = environment ∧
      run.version = version ∧ run.status = .completed) :
    ∃ kept compared, StandFor p feature environment version kept compared ∧
      kept.createdAt = compared.createdAt ∧
      (kept = compared ↔ (latest (completedFor p feature (environment, version))).length = 1) := by
  obtain ⟨run, stored⟩ := tested
  have some_newest : latest (completedFor p feature (environment, version)) ≠ [] := by
    rw [Ne, latest_eq_nil]
    exact List.ne_nil_of_mem (mem_completedFor.mpr stored)
  have head := List.head?_eq_some_head some_newest
  have final := List.getLast?_eq_some_getLast some_newest
  have selected := completedRun?_eq_getLast?.trans final
  have once : (latest (completedFor p feature (environment, version))).Nodup :=
    ((List.Nodup.of_map _ distinct).filter _).filter _
  refine ⟨_, _, ⟨head, final, ?_, selected, ?_, ?_⟩, ?_, head_eq_getLast_iff once head final⟩
  · intro asked reaches run
    rw [mem_newestPerVersion_iff reaches, head, Option.some.injEq, eq_comm]
  · intro other rival found
    simp [Comparison.ofVersions, selected, found, Option.isNone_eq_false_iff.mpr known]
  · intro other rival found
    simp [Comparison.ofVersions, selected, found, Option.isNone_eq_false_iff.mpr known]
  · exact latest_createdAt (List.mem_of_head? head) (List.mem_of_getLast? final)

/-- Of two runs that were created at the same time each stands for the version once. -/
theorem version_stands_by_newest_sample : ∃ kept compared,
    StandFor leveled "f" .staging "2" kept compared ∧ kept.createdAt = compared.createdAt ∧
      kept.id = "r-2" ∧ compared.id = "r-3" := by
  have tested : ∃ run ∈ leveled.runs, run.featureId = "f" ∧ run.environment = .staging ∧
      run.version = "2" ∧ run.status = .completed := by decide
  obtain ⟨kept, compared, stand, level, -⟩ :=
    version_stands_by_newest (by decide) (by decide) tested
  have first := congrArg (Option.map Run.id) stand.first
  have last := congrArg (Option.map Run.id) stand.last
  rw [show (latest _).head?.map Run.id = some "r-2" by decide] at first
  rw [show (latest _).getLast?.map Run.id = some "r-3" by decide] at last
  exact ⟨kept, compared, stand, level, (Option.some.inj first).symm, (Option.some.inj last).symm⟩

end Testbook.Report
