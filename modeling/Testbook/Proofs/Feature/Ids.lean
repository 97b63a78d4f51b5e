import Testbook.Proofs.Feature.Reader

/-! The ids of a feature that is read, in the order in which they stand there, are those that the source
issues next. So no id stands twice in a feature if the source never repeats itself. -/

set_option autoImplicit false

namespace Testbook

def Scenario.ids (scenario : Scenario) : List String := scenario.id :: scenario.steps.map (·.id)

def Feature.ids (feature : Feature) : List String := feature.id :: feature.scenarios.flatMap Scenario.ids

theorem Feature.nodup_scenarios {feature : Feature} (distinct : feature.ids.Nodup) :
    (feature.scenarios.map (·.id)).Nodup := by
  have part (scenarios : List Scenario) :
      (scenarios.map (·.id)).Sublist (scenarios.flatMap Scenario.ids) := by
    induction scenarios with
    | nil => exact .slnil
    | cons scenario scenarios ih =>
      exact (ih.trans (List.sublist_append_right _ _)).cons_cons scenario.id
  exact (List.nodup_cons.mp distinct).2.sublist (part feature.scenarios)

namespace Feature

namespace Draft

variable {draft : Draft} {start : IdSource} {n : Nat}

/-- The scenarios that have been recognised bear the first ids of a source, and it stands behind them. -/
structure Numbered (start : IdSource) (n : Nat) (draft : Draft) : Prop where
  ids : draft.ids = start.skip n
  borne : draft.scenarios.flatMap Scenario.ids = start.upcoming n

theorem Numbered.next (numbered : draft.Numbered start n) :
    draft.ids.next = (start.name (start.issued + n), start.skip (n + 1)) := by
  rw [numbered.ids, IdSource.next_skip]

theorem Numbered.beginScenario (numbered : draft.Numbered start n) (name : String) :
    (draft.beginScenario name).Numbered start (n + 1) := by
  constructor
  · simp only [Draft.beginScenario, numbered.next]
  · rw [IdSource.upcoming_succ, ← numbered.borne]
    simp [Draft.beginScenario, numbered.next, scenarios, Scenario.ids]

theorem Numbered.addStep (numbered : draft.Numbered start n) (keyword : StepKeyword) (text : String) :
    ∃ m, (draft.addStep keyword text).Numbered start m := by
  unfold Draft.addStep
  cases held : draft.current with
  | none => exact ⟨n, numbered⟩
  | some current =>
    -- The scenario in hand stands last, and so does its new step.
    have stood : draft.finished.flatMap Scenario.ids ++ current.ids = start.upcoming n := by
      simpa [scenarios, held] using numbered.borne
    refine ⟨n + 1, by simp only [numbered.next], ?_⟩
    simp [scenarios, numbered.next, Scenario.ids, IdSource.upcoming_succ, ← stood]

theorem numbered_kept (start : IdSource) : Kept fun draft => ∃ n, draft.Numbered start n where
  heading _ _ _ := fun ⟨n, numbered⟩ => ⟨n, numbered.ids, numbered.borne⟩
  scenario name := fun ⟨n, numbered⟩ => ⟨n + 1, numbered.beginScenario name⟩
  step keyword text := fun ⟨_, numbered⟩ => numbered.addStep keyword text

end Draft

/-- A feature bears the ids that come next, and takes no others. -/
theorem ofFile_ids (ids : IdSource) (file content : String) :
    let feature := (ofFile ids file content).1
    (ofFile ids file content).2 = ids.skip feature.ids.length ∧
      feature.ids = ids.upcoming feature.ids.length := by
  have start : Draft.Numbered (ids.skip 1) 0 { ids := ids.next.2 } := ⟨rfl, rfl⟩
  obtain ⟨n, numbered⟩ := (Draft.numbered_kept _).foldl_read ⟨0, start⟩ (lines content)
  have all : (ofFile ids file content).1.ids = ids.upcoming (n + 1) := by
    rw [IdSource.upcoming_cons, ← numbered.borne]
    rfl
  have count : (ofFile ids file content).1.ids.length = n + 1 := by
    rw [all, IdSource.length_upcoming]
  refine ⟨?_, all.trans (by rw [count])⟩
  rw [count, ← IdSource.skip_skip_one]
  exact numbered.ids

theorem nodup_ofFile_ids {ids : IdSource} (injective : Function.Injective ids.name)
    (file content : String) : (ofFile ids file content).1.ids.Nodup := by
  rw [(ofFile_ids ids file content).2]
  exact IdSource.nodup_upcoming injective _

end Feature

end Testbook
