import Mathlib.Data.List.Dedup
import Testbook.Proofs.Project.OneOpen
import Testbook.Proofs.Project.Runs

/-! What the reset of a feature's runs makes of them. Each version has one run that leads it: the one in
progress, or the first that is stored where none is. The leaders are reset and the others are not, although
a run is passed over for what is in progress by then, and not for what led in the beginning. -/

set_option autoImplicit false

namespace Testbook

namespace Run

def edition (run : Run) : Environment × String := (run.environment, run.version)

def Matches (run other : Run) : Prop :=
  other.isFor run.featureId run.environment run.version = true

instance (run other : Run) : Decidable (run.Matches other) :=
  inferInstanceAs (Decidable (other.isFor run.featureId run.environment run.version = true))

/-- Of the runs for its feature, environment and version it is the one in progress, or the first one if
none is. -/
def Leads (run : Run) (runs : List Run) : Prop :=
  run.status = .inProgress ∨
    (∀ other ∈ runs, run.Matches other → other.status ≠ .inProgress) ∧
      runs.find? (run.Matches ·) = some run

instance (run : Run) (runs : List Run) : Decidable (run.Leads runs) :=
  inferInstanceAs (Decidable (_ ∨ _ ∧ _))

def afterReset (feature : String) (runs : List Run) (run : Run) : Run :=
  if run.featureId = feature ∧ run.Leads runs then run.reset else run

variable {run other : Run}

theorem matches_iff : run.Matches other ↔
    other.featureId = run.featureId ∧ other.edition = run.edition := by
  rw [Matches, isFor_iff, edition, edition, Prod.mk.injEq]

theorem matches_self (run : Run) : run.Matches run := matches_iff.mpr ⟨rfl, rfl⟩

theorem Matches.symm (same : run.Matches other) : other.Matches run := by
  rw [matches_iff] at same ⊢
  exact ⟨same.1.symm, same.2.symm⟩

theorem Matches.congr (same : run.Matches other) (third : Run) :
    other.Matches third ↔ run.Matches third := by
  rw [matches_iff] at same
  rw [matches_iff, matches_iff, same.1, same.2]

theorem reset_reset (run : Run) : run.reset.reset = run.reset := by
  simp [reset, Scenario.asserted]

theorem afterReset_leader {feature : String} {runs : List Run} (of : run.featureId = feature)
    (leads : run.Leads runs) : run.afterReset feature runs = run.reset :=
  if_pos ⟨of, leads⟩

theorem afterReset_featureId (feature : String) (runs : List Run) (run : Run) :
    (run.afterReset feature runs).featureId = run.featureId := by
  unfold afterReset
  split <;> rfl

theorem afterReset_edition (feature : String) (runs : List Run) (run : Run) :
    (run.afterReset feature runs).edition = run.edition := by
  unfold afterReset
  split <;> rfl

theorem afterReset_matches {feature : String} {runs : List Run} :
    (run.afterReset feature runs).Matches (other.afterReset feature runs) ↔ run.Matches other := by
  simp only [matches_iff, afterReset_featureId, afterReset_edition]

theorem openSibling?_eq_none {runs : List Run} : openSibling? runs run = none ↔
    ∀ other ∈ runs, other.id ≠ run.id → run.Matches other → other.status ≠ .inProgress := by
  simp [openSibling?, Matches]

end Run

/-- Runs with ids of their own, of which at most one is in progress for each feature, environment and
version. -/
structure OneEach (runs : List Run) : Prop where
  distinct : (runs.map (·.id)).Nodup
  alone : ∀ a ∈ runs, ∀ b ∈ runs, a.Rivals b → a = b

namespace OneEach

variable {runs before rest : List Run} {run other : Run} {feature : String}

/-! ### Leaders -/

/-- Where one is in progress, it leads alone; where none is, only one is the first. -/
theorem leader_unique (holds : OneEach runs) (member : run ∈ runs) (member' : other ∈ runs)
    (same : run.Matches other) (leads : run.Leads runs) (leads' : other.Leads runs) : other = run := by
  rcases leads with open' | ⟨none_open, first⟩ <;> rcases leads' with open'' | ⟨none_open', first'⟩
  · exact (holds.alone run member other member' ⟨open', open'', same⟩).symm
  · exact absurd open' (none_open' run member same.symm)
  · exact absurd open'' (none_open other member' same)
  · simp only [same.congr, first, Option.some.injEq] at first'
    exact first'.symm

theorem exists_leader (member : run ∈ runs) :
    ∃ leader ∈ runs, run.Matches leader ∧ leader.Leads runs := by
  by_cases some_open : ∃ other ∈ runs, run.Matches other ∧ other.status = .inProgress
  · obtain ⟨other, stands, same, inProgress⟩ := some_open
    exact ⟨other, stands, same, Or.inl inProgress⟩
  · obtain ⟨first, found⟩ := Option.isSome_iff_exists.mp
      (List.find?_isSome (p := (run.Matches ·)).mpr ⟨run, member, by simp [run.matches_self]⟩)
    have same : run.Matches first := by simpa using List.find?_some found
    refine ⟨first, List.mem_of_find?_eq_some found, same, Or.inr ⟨?_, ?_⟩⟩
    · intro other stands same' inProgress
      exact some_open ⟨other, stands, (same.congr other).mp same', inProgress⟩
    · simpa only [same.congr] using found

/-- A leader that has not had its turn is in progress: it is not the first of its version. -/
theorem leader_later (member : other ∈ rest) (notBefore : other ∉ before) (apart : other ≠ run)
    (same : run.Matches other) (leads : other.Leads (before ++ run :: rest)) :
    other.status = .inProgress := by
  rcases leads with inProgress | ⟨_, first⟩
  · exact inProgress
  · simp only [same.congr, List.find?_append] at first
    cases found : before.find? (run.Matches ·) with
    | some earlier =>
      rw [found] at first
      cases first
      exact absurd (List.mem_of_find?_eq_some found) notBefore
    | none =>
      rw [found, Option.none_or, List.find?_cons_of_pos (by simp [run.matches_self])] at first
      cases first
      exact absurd rfl apart

/-! ### The turn of one run -/

/-- A run without an open sibling leads: the leader of its version would be one, since it has been reset by
now or is still in progress. -/
theorem leads_of_alone (holds : OneEach (before ++ run :: rest)) (of : run.featureId = feature)
    (alone : openSibling?
      (before.map (·.afterReset feature (before ++ run :: rest)) ++ run :: rest) run = none) :
    run.Leads (before ++ run :: rest) := by
  have member : run ∈ before ++ run :: rest := by simp
  obtain ⟨leader, stands, same, leads⟩ := exists_leader member
  by_contra behind
  have apart : leader ≠ run := by
    rintro rfl
    exact behind leads
  have apart_id : leader.id ≠ run.id :=
    fun same_id => apart (List.inj_on_of_nodup_map holds.distinct stands member same_id)
  rw [Run.openSibling?_eq_none] at alone
  by_cases stood : leader ∈ before
  · have of' : leader.featureId = feature := (Run.matches_iff.mp same).1.trans of
    have reset : leader.reset ∈ before.map (·.afterReset feature (before ++ run :: rest)) :=
      List.mem_map.mpr ⟨leader, stood, Run.afterReset_leader of' leads⟩
    exact alone leader.reset (List.mem_append_left _ reset) apart_id same rfl
  · have late : leader ∈ rest := by simpa [stood, apart] using stands
    exact alone leader (by simp [late]) apart_id same (leader_later late stood apart same leads)

/-- A leader has no open sibling: what is in progress beside it would lead as well. -/
theorem alone_of_leads (holds : OneEach (before ++ run :: rest)) (feature : String)
    (leads : run.Leads (before ++ run :: rest)) : openSibling?
      (before.map (·.afterReset feature (before ++ run :: rest)) ++ run :: rest) run = none := by
  have member : run ∈ before ++ run :: rest := by simp
  have sole {other : Run} (stands : other ∈ before ++ run :: rest) (apart : other.id ≠ run.id)
      (same : run.Matches other) : ¬other.Leads (before ++ run :: rest) := by
    intro leads'
    exact apart (congrArg Run.id (holds.leader_unique member stands same leads leads'))
  refine Run.openSibling?_eq_none.mpr ?_
  intro other stands apart same inProgress
  rcases List.mem_append.mp stands with done | todo
  · obtain ⟨stood, early, rfl⟩ := List.mem_map.mp done
    have stands' : stood ∈ before ++ run :: rest := by simp [early]
    unfold Run.afterReset at apart same inProgress
    split at apart
    · rename_i reset
      rw [if_pos reset] at same
      exact sole stands' apart same reset.2
    · rename_i kept
      rw [if_neg kept] at same inProgress
      exact sole stands' apart same (Or.inl inProgress)
  · exact sole (List.mem_append_right before todo) apart same (Or.inl inProgress)

/-! ### One run after another -/

-- By induction on the runs still to come. Those that have had their turn are as the whole reset leaves
-- them, while who leads is asked of the runs as they were in the beginning.
theorem resetEach_from (before : List Run) (holds : OneEach (before ++ rest)) (feature : String) :
    resetEach feature (before.map (·.afterReset feature (before ++ rest))) rest =
      ((before ++ rest).map (·.afterReset feature (before ++ rest)),
        rest.countP fun run => run.featureId = feature ∧ run.Leads (before ++ rest)) := by
  induction rest generalizing before with
  | nil => simp [resetEach]
  | cons run rest ih =>
    have shift : before ++ run :: rest = (before ++ [run]) ++ rest := by simp
    have next := ih (before ++ [run]) (shift ▸ holds)
    rw [← shift, List.map_append, List.map_singleton] at next
    by_cases leads : run.featureId = feature ∧ run.Leads (before ++ run :: rest)
    · have alone := holds.alone_of_leads feature leads.2
      rw [Run.afterReset_leader leads.1 leads.2] at next
      simp [resetEach, leads, alone, next]
    · have kept : run.afterReset feature (before ++ run :: rest) = run := if_neg leads
      rw [kept] at next
      have passed : ¬(run.featureId = feature ∧
          (openSibling? (before.map (·.afterReset feature (before ++ run :: rest)) ++ run :: rest)
            run).isNone) := by
        rintro ⟨of, none⟩
        exact leads ⟨of, holds.leads_of_alone of (by simpa using none)⟩
      rw [resetEach, if_neg passed, next]
      simp [leads]

theorem resetEach_eq (holds : OneEach runs) (feature : String) :
    resetEach feature [] runs = (runs.map (·.afterReset feature runs),
      runs.countP fun run => run.featureId = feature ∧ run.Leads runs) :=
  resetEach_from [] holds feature

theorem countP_leaders (holds : OneEach runs) (feature : String) :
    runs.countP (fun run => run.featureId = feature ∧ run.Leads runs) =
      ((runs.filter (·.featureId = feature)).map Run.edition).dedup.length := by
  rw [List.countP_eq_length_filter, ← List.length_map Run.edition]
  refine List.Perm.length_eq ((List.perm_ext_iff_of_nodup ?_ (List.nodup_dedup _)).mpr ?_)
  · refine List.Nodup.map_on ?_ ((List.Nodup.of_map _ holds.distinct).filter _)
    intro a first b second same
    simp only [List.mem_filter, decide_eq_true_eq] at first second
    refine (holds.leader_unique first.1 second.1 ?_ first.2.2 second.2.2).symm
    exact Run.matches_iff.mpr ⟨second.2.1.trans first.2.1.symm, same.symm⟩
  · intro edition
    simp only [List.mem_dedup, List.mem_map, List.mem_filter, decide_eq_true_eq]
    constructor
    · rintro ⟨run, ⟨member, of, _⟩, rfl⟩
      exact ⟨run, ⟨member, of⟩, rfl⟩
    · rintro ⟨run, ⟨member, of⟩, rfl⟩
      obtain ⟨leader, stands, same, leads⟩ := exists_leader member
      obtain ⟨of', same_edition⟩ := Run.matches_iff.mp same
      exact ⟨leader, ⟨stands, of'.trans of, leads⟩, same_edition⟩

/-- A run that is in progress after the reset has led its version before. -/
theorem leads_of_inProgress {run : Run}
    (inProgress : (run.afterReset feature runs).status = .inProgress) : run.Leads runs := by
  unfold Run.afterReset at inProgress
  split at inProgress
  · rename_i reset
    exact reset.2
  · exact Or.inl inProgress

theorem afterReset (holds : OneEach runs) (feature : String) :
    OneEach (runs.map (·.afterReset feature runs)) where
  distinct := by
    have ids (run : Run) : (run.afterReset feature runs).id = run.id := by
      unfold Run.afterReset
      split <;> rfl
    simpa [ids, Function.comp_def] using holds.distinct
  alone := by
    rintro a' first b' second ⟨open', open'', same⟩
    obtain ⟨a, member, rfl⟩ := List.mem_map.mp first
    obtain ⟨b, member', rfl⟩ := List.mem_map.mp second
    rw [holds.leader_unique member member' (Run.afterReset_matches.mp same) (leads_of_inProgress open')
      (leads_of_inProgress open'')]

-- A run that was passed over leads nothing now either: the leader of its version is in progress.
theorem afterReset_again (member : run ∈ runs) :
    (run.afterReset feature runs).afterReset feature (runs.map (·.afterReset feature runs)) =
      run.afterReset feature runs := by
  by_cases leads : run.featureId = feature ∧ run.Leads runs
  · rw [Run.afterReset_leader leads.1 leads.2, Run.afterReset]
    split
    · exact run.reset_reset
    · rfl
  · have kept : run.afterReset feature runs = run := if_neg leads
    rw [kept]
    refine if_neg ?_
    rintro ⟨of, inProgress | ⟨none_open, _⟩⟩
    · exact leads ⟨of, Or.inl inProgress⟩
    · obtain ⟨leader, stands, same, leads'⟩ := exists_leader member
      have of' : leader.featureId = feature := (Run.matches_iff.mp same).1.trans of
      have reset : leader.reset ∈ runs.map (·.afterReset feature runs) :=
        List.mem_map.mpr ⟨leader, stands, Run.afterReset_leader of' leads'⟩
      exact none_open leader.reset reset same rfl

end OneEach

namespace Project

def editionsOf (p : Project) (feature : String) : List (Environment × String) :=
  ((p.runsOf feature).map Run.edition).dedup

def afterReset (p : Project) (feature : String) : Project :=
  { p with runs := p.runs.map (·.afterReset feature p.runs) }

variable {p : Project} {feature : String}

theorem resetFeatureRuns_eq (holds : OneEach p.runs)
    (known : ∃ template ∈ p.features, template.id = feature) :
    p.resetFeatureRuns feature = .ok ((p.editionsOf feature).length, p.afterReset feature) := by
  obtain ⟨template, member, rfl⟩ := known
  obtain ⟨found, get⟩ := getFeature_of_mem member
  rw [resetFeatureRuns, get, holds.resetEach_eq, holds.countP_leaders]
  rfl

theorem editionsOf_afterReset (p : Project) (feature : String) :
    (p.afterReset feature).editionsOf feature = p.editionsOf feature := by
  simp [editionsOf, runsOf, afterReset, List.filter_map, Run.afterReset_featureId,
    Run.afterReset_edition, Function.comp_def]

theorem afterReset_afterReset (p : Project) (feature : String) :
    (p.afterReset feature).afterReset feature = p.afterReset feature := by
  simp only [afterReset, List.map_map]
  congr 1
  exact List.map_congr_left fun run member => OneEach.afterReset_again member

end Project

end Testbook
