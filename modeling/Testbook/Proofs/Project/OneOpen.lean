import Testbook.Proofs.First
import Testbook.Proofs.IdSource
import Testbook.Proofs.Run.Edited
import Testbook.Proofs.Text.Blank
import Testbook.Project.Runs

/-! Runs of which at most one is in progress for each feature, environment and version. That a run has no
open sibling is asked by ids, so that it says something only where no two runs have one id. -/

set_option autoImplicit false

namespace Testbook

/-- Both in progress, for the same feature, environment and version. -/
def Run.Rivals (a b : Run) : Prop :=
  a.status = .inProgress ∧ b.status = .inProgress ∧
    b.isFor a.featureId a.environment a.version = true

theorem Run.isFor_iff {run : Run} {feature : String} {environment : Environment} {version : String} :
    run.isFor feature environment version = true ↔
      run.featureId = feature ∧ run.environment = environment ∧ run.version = version := by
  simp [isFor, and_assoc]

theorem Run.Rivals.symm {a b : Run} (rivals : a.Rivals b) : b.Rivals a := by
  obtain ⟨first, second, same⟩ := rivals
  rw [isFor_iff] at same
  exact ⟨second, first, isFor_iff.mpr ⟨same.1.symm, same.2.1.symm, same.2.2.symm⟩⟩

-- Rivals are told apart by ids, so that distinct ids have to be part of the invariant, and issued ids
-- make the next one distinct from them.
structure OneOpen (ids : IdSource) (runs : List Run) : Prop where
  issued : ∀ run ∈ runs, ids.Issued run.id
  distinct : (runs.map (·.id)).Nodup
  versions : ∀ run ∈ runs, run.version ≠ "" ∧ Text.trim run.version = run.version
  alone : ∀ a ∈ runs, ∀ b ∈ runs, a.Rivals b → a.id = b.id

namespace OneOpen

variable {ids later : IdSource} {runs before after : List Run} {run new : Run}

theorem nil (ids : IdSource) : OneOpen ids [] := by
  constructor <;> simp

theorem mono (holds : OneOpen ids runs) (before : ids.Before later) : OneOpen later runs :=
  { holds with issued := fun run member => (holds.issued run member).mono before }

theorem sublist (holds : OneOpen ids runs) {kept : List Run} (sub : kept.Sublist runs) :
    OneOpen ids kept where
  issued run member := holds.issued run (sub.subset member)
  distinct := holds.distinct.sublist (sub.map _)
  versions run member := holds.versions run (sub.subset member)
  alone a first b second := holds.alone a (sub.subset first) b (sub.subset second)

theorem append (holds : OneOpen ids runs) (issued : ids.Issued new.id)
    (fresh : ∀ run ∈ runs, run.id ≠ new.id)
    (version : new.version ≠ "" ∧ Text.trim new.version = new.version)
    (noRival : ∀ run ∈ runs, ¬new.Rivals run) : OneOpen ids (runs ++ [new]) where
  issued run member := by
    rcases List.mem_append.mp member with stood | same
    · exact holds.issued run stood
    · rw [List.mem_singleton.mp same]
      exact issued
  distinct := by
    rw [List.map_append, List.nodup_append']
    refine ⟨holds.distinct, List.nodup_singleton _, ?_⟩
    rw [List.map_singleton, List.disjoint_singleton]
    intro member
    obtain ⟨run, stood, same⟩ := List.mem_map.mp member
    exact fresh run stood same
  versions run member := by
    rcases List.mem_append.mp member with stood | same
    · exact holds.versions run stood
    · rw [List.mem_singleton.mp same]
      exact version
  alone a first b second rivals := by
    rcases List.mem_append.mp first with stood | same <;>
      rcases List.mem_append.mp second with stood' | same'
    · exact holds.alone a stood b stood' rivals
    · rw [List.mem_singleton.mp same'] at rivals
      exact absurd rivals.symm (noRival a stood)
    · rw [List.mem_singleton.mp same] at rivals
      exact absurd rivals (noRival b stood')
    · rw [List.mem_singleton.mp same, List.mem_singleton.mp same']

theorem swap (holds : OneOpen ids (before ++ run :: after)) (id : new.id = run.id)
    (version : new.version = run.version)
    (noRival : ∀ other ∈ before ++ run :: after, other.id ≠ run.id → ¬new.Rivals other) :
    OneOpen ids (before ++ new :: after) := by
  have stood : run ∈ before ++ run :: after := by simp
  -- Those beside the run have other ids.
  have beside {other : Run} (member : other ∈ before ++ new :: after) :
      other = new ∨ (other ∈ before ++ run :: after ∧ other.id ≠ run.id) := by
    have distinct := holds.distinct
    simp only [List.map_append, List.map_cons, List.nodup_append, List.nodup_cons, List.mem_map,
      List.mem_cons] at distinct
    rcases List.mem_append.mp member with early | late
    · refine Or.inr ⟨List.mem_append_left _ early, ?_⟩
      exact distinct.2.2 _ ⟨other, early, rfl⟩ _ (Or.inl rfl)
    · rcases List.mem_cons.mp late with same | late
      · exact Or.inl same
      · refine Or.inr ⟨List.mem_append_right _ (List.mem_cons_of_mem _ late), ?_⟩
        exact fun same => distinct.2.1.1 ⟨other, late, same⟩
  constructor
  · intro other member
    rcases beside member with rfl | ⟨stands, _⟩
    · exact id ▸ holds.issued run stood
    · exact holds.issued other stands
  · simpa [id] using holds.distinct
  · intro other member
    rcases beside member with rfl | ⟨stands, _⟩
    · exact version ▸ holds.versions run stood
    · exact holds.versions other stands
  · intro a first b second rivals
    rcases beside first with rfl | ⟨stands, apart⟩ <;> rcases beside second with rfl | ⟨stands', apart'⟩
    · rfl
    · exact absurd rivals (noRival b stands' apart')
    · exact absurd rivals.symm (noRival a stands apart)
    · exact holds.alone a stands b stands' rivals

theorem not_rivals_of_openSibling? {other : Run} (alone : openSibling? runs run = none)
    (member : other ∈ runs) (apart : other.id ≠ run.id) : ¬run.reset.Rivals other := by
  rintro ⟨_, inProgress, same⟩
  have no := List.find?_eq_none.mp alone other member
  have same' : other.isFor run.featureId run.environment run.version = true := same
  simp [apart, same', inProgress] at no

-- By induction on the runs still to come: those done have been put back into the list before the next
-- one is asked about.
/-- Resetting one run after another, each where none beside it is in progress by then. -/
theorem resetEach {feature : String} {done rest : List Run} (holds : OneOpen ids (done ++ rest)) :
    OneOpen ids (Testbook.resetEach feature done rest).1 := by
  induction rest generalizing done with
  | nil => simpa [Testbook.resetEach] using holds
  | cons run rest ih =>
    unfold Testbook.resetEach
    split
    · rename_i asked
      have alone : openSibling? (done ++ run :: rest) run = none := by simpa using asked.2
      have swapped : OneOpen ids (done ++ run.reset :: rest) :=
        holds.swap rfl rfl fun other member apart => not_rivals_of_openSibling? alone member apart
      exact ih (by simpa using swapped)
    · exact ih (by simpa using holds)

theorem countP_le_one (holds : OneOpen ids runs) (feature : String) (environment : Environment)
    (version : String) :
    runs.countP (fun run => run.isFor feature environment version && run.status = .inProgress) ≤
      1 := by
  rw [List.countP_eq_length_filter]
  generalize kept : runs.filter _ = found
  have sub : found.Sublist runs := kept ▸ List.filter_sublist
  have each : ∀ run ∈ found, run.isFor feature environment version = true ∧
      run.status = .inProgress := by
    intro run member
    rw [← kept] at member
    simpa using (List.mem_filter.mp member).2
  have distinct := holds.distinct.sublist (sub.map _)
  match found, each, distinct, sub with
  | [], _, _, _ => exact Nat.zero_le 1
  | [_], _, _, _ => exact Nat.le_refl 1
  | a :: b :: others, each, distinct, sub =>
    have first := each a (by simp)
    have second := each b (by simp)
    obtain ⟨rfl, rfl, rfl⟩ := Run.isFor_iff.mp first.1
    have same : a.id = b.id :=
      holds.alone a (sub.subset (by simp)) b (sub.subset (by simp)) ⟨first.2, second.2, second.1⟩
    exact absurd same (by
      simp only [List.map_cons, List.nodup_cons, List.mem_cons, not_or] at distinct
      exact distinct.1.1)

/-! ### The run in progress -/

variable {id : String} {p : Project}

theorem find?_of_mem (holds : OneOpen ids runs) (member : run ∈ runs) :
    runs.find? (·.id = run.id) = some run :=
  find?_key_of_mem holds.distinct member

theorem openSibling?_of_mem (holds : OneOpen ids runs) (member : run ∈ runs)
    (inProgress : run.status = .inProgress) : openSibling? runs run = none := by
  refine List.find?_eq_none.mpr ?_
  intro other stands
  by_contra sibling
  simp only [Bool.and_eq_true, decide_eq_true_eq, ne_eq] at sibling
  obtain ⟨⟨apart, same⟩, open'⟩ := sibling
  exact apart (holds.alone run member other stands ⟨inProgress, open', same⟩).symm

theorem openRun?_of_mem (holds : OneOpen ids p.runs) (member : run ∈ p.runs)
    (inProgress : run.status = .inProgress) {feature version : String} {environment : Environment}
    (isFor : run.isFor feature environment version = true) :
    p.openRun? feature environment version = some run := by
  cases found : p.openRun? feature environment version with
  | none =>
    have no := List.find?_eq_none.mp found run member
    simp [isFor, inProgress] at no
  | some first =>
    have stands := List.mem_of_find?_eq_some found
    have open' := List.find?_some found
    simp only [Bool.and_eq_true, decide_eq_true_eq] at open'
    obtain ⟨rfl, rfl, rfl⟩ := Run.isFor_iff.mp isFor
    have same := holds.alone run member first stands ⟨inProgress, open'.2, open'.1⟩
    rw [List.inj_on_of_nodup_map holds.distinct stands member same.symm]

theorem mem_resetEach_done {feature : String} {done rest : List Run} (member : run ∈ done) :
    run ∈ (Testbook.resetEach feature done rest).1 := by
  induction rest generalizing done with
  | nil => exact member
  | cons first rest ih =>
    unfold Testbook.resetEach
    split
    · exact ih (List.mem_append_left _ member)
    · exact ih (List.mem_append_left _ member)

-- By induction on the runs still to come. A run in progress is reset in its turn, since until then
-- nothing else can have come into progress beside it.
/-- When the runs of a feature are reset, so is the one in progress. -/
theorem mem_resetEach_reset {done rest : List Run} (holds : OneOpen ids (done ++ rest))
    (member : run ∈ rest) (inProgress : run.status = .inProgress) :
    run.reset ∈ (Testbook.resetEach run.featureId done rest).1 := by
  induction rest generalizing done with
  | nil => cases member
  | cons first rest ih =>
    unfold Testbook.resetEach
    split
    · rename_i asked
      rcases List.mem_cons.mp member with rfl | later
      · exact mem_resetEach_done (by simp)
      · have alone : openSibling? (done ++ first :: rest) first = none := by simpa using asked.2
        have swapped : OneOpen ids (done ++ first.reset :: rest) :=
          holds.swap rfl rfl fun other member apart => not_rivals_of_openSibling? alone member apart
        exact ih (by simpa using swapped) later
    · rename_i skipped
      rcases List.mem_cons.mp member with rfl | later
      · have alone := holds.openSibling?_of_mem (by simp) inProgress
        exact absurd ⟨rfl, by simp [alone]⟩ skipped
      · exact ih (by simpa using holds) later

end OneOpen

end Testbook
