import Testbook.Proofs.Run.Outline

/-! The attachments of a run, wherever they hang. Adding one adds just that one, and nothing else that is
done to a run adds, drops or moves any. -/

set_option autoImplicit false

namespace Testbook

/-! ### One entry of a list -/

section Lists

variable {α β : Type} {g : α → List β} {f : α → α}

theorem flatMap_modifyFirst (kept : ∀ x, g (f x) = g x) (p : α → Bool) (xs : List α) :
    (modifyFirst p f xs).flatMap g = xs.flatMap g := by
  rw [List.flatMap_def, List.flatMap_def, map_modifyFirst kept]

theorem flatMap_modifyFirst_perm {p : α → Bool} {xs : List α} {x : α} {b : β}
    (found : xs.find? p = some x) (adds : (g (f x)).Perm (b :: g x)) :
    ((modifyFirst p f xs).flatMap g).Perm (b :: xs.flatMap g) := by
  obtain ⟨before, after, same, changed⟩ := modifyFirst_split f found
  rw [changed, same, List.flatMap_append, List.flatMap_append, List.flatMap_cons, List.flatMap_cons]
  have here : (g (f x) ++ after.flatMap g).Perm (b :: (g x ++ after.flatMap g)) := adds.append_right _
  exact (here.append_left _).trans List.perm_middle

end Lists

/-! ### Scenarios -/

namespace Scenario

def attached (scenario : Scenario) : List Attachment :=
  scenario.attachments ++ scenario.steps.flatMap (·.attachments)

variable {scenario : Scenario} {step : String}

theorem asserted_attached (scenario : Scenario) (outcome : Outcome) :
    (scenario.asserted outcome).attached = scenario.attached := by
  simp [attached, asserted, List.flatMap_map]

theorem cleared_attached (scenario : Scenario) : scenario.cleared.attached = scenario.attached :=
  asserted_attached scenario .untested

theorem outline_attached (scenario : Scenario) : scenario.outline.attached = [] := by
  simp [attached, outline, Step.outline, List.flatMap_map]

theorem modifyStep_attached {f : Step → Step} (kept : ∀ s : Step, (f s).attachments = s.attachments)
    (scenario : Scenario) (step : String) :
    (scenario.modifyStep step f).attached = scenario.attached := by
  rw [attached, modifyStep, flatMap_modifyFirst kept, attached]

theorem marked_attached (scenario : Scenario) (step : String) (outcome : Outcome) :
    (scenario.marked step outcome).attached = scenario.attached := by
  have kept (s : Step) : { s with result := outcome : Step }.attachments = s.attachments := rfl
  exact modifyStep_attached kept scenario step

theorem Tested.attached {later : Scenario} (tested : scenario.Tested later) :
    later.attached = scenario.attached := by
  cases tested with
  | kept => rfl
  | marked step outcome => exact scenario.marked_attached step outcome
  | asserted outcome => exact scenario.asserted_attached outcome

theorem modifyStep_attaches (has : scenario.hasStep step = true) (attachment : Attachment) :
    (scenario.modifyStep step fun s =>
      { s with attachments := s.attachments ++ [attachment] }).attached.Perm
        (attachment :: scenario.attached) := by
  obtain ⟨found, first⟩ :=
    Option.isSome_iff_exists.mp (List.find?_isSome.mpr (List.any_eq_true.mp has))
  have adds : (found.attachments ++ [attachment]).Perm (attachment :: found.attachments) :=
    List.perm_append_singleton attachment _
  exact ((flatMap_modifyFirst_perm first adds).append_left _).trans List.perm_middle

end Scenario

/-! ### Runs -/

namespace Run

def attached (run : Run) : List Attachment := run.scenarios.flatMap Scenario.attached

variable {run changed : Run} {attachment : Attachment}

theorem snapshot_attached (feature : Feature) (environment : Environment) (version id : String)
    (now : Instant) :
    (snapshot feature environment version id now).attached =
      feature.scenarios.flatMap Scenario.attached := by
  simp [snapshot, attached, List.flatMap_map, Scenario.cleared_attached]

theorem reset_attached (run : Run) : run.reset.attached = run.attached := by
  simp [reset, attached, List.flatMap_map, Scenario.asserted_attached]

theorem complete_attached (run : Run) (now : Instant) :
    (run.complete now).2.attached = run.attached := by
  unfold complete
  split <;> rfl

theorem Tested.attached (tested : run.Tested changed) : changed.attached = run.attached := by
  cases tested with
  | kept => rfl
  | counted _ each =>
    have lists := map_eq_of_forall₂ (fun _ _ same => Scenario.Tested.attached same) each
    exact congrArg List.flatten lists

theorem setStepNote_attached (run : Run) (step text : String) :
    (run.setStepNote step text).2.attached = run.attached := by
  rw [setStepNote, modifyStep_eq]
  split
  · have kept (s : Step) : { s with note := noteText? text : Step }.attachments = s.attachments := rfl
    exact flatMap_modifyFirst (fun scenario => scenario.modifyStep_attached kept step) _ _
  · rfl

theorem setScenarioNote_attached (run : Run) (scenario text : String) :
    (run.setScenarioNote scenario text).2.attached = run.attached := by
  unfold setScenarioNote modifyScenario
  split
  · have kept (s : Scenario) : { s with note := noteText? text : Scenario }.attached = s.attached := rfl
    exact flatMap_modifyFirst kept _ _
  · rfl

theorem addStepAttachment_attaches {step : String}
    (result : Run.kept (run.addStepAttachment step attachment) = .ok changed) :
    changed.attached.Perm (attachment :: run.attached) := by
  rw [addStepAttachment, modifyStep_eq] at result
  split at result
  · rename_i has
    cases result
    obtain ⟨found, first⟩ :=
      Option.isSome_iff_exists.mp (List.find?_isSome.mpr (List.any_eq_true.mp has))
    have has' := List.find?_some first
    exact flatMap_modifyFirst_perm first (Scenario.modifyStep_attaches has' attachment)
  · cases result

theorem addScenarioAttachment_attaches {scenario : String}
    (result : Run.kept (run.addScenarioAttachment scenario attachment) = .ok changed) :
    changed.attached.Perm (attachment :: run.attached) := by
  unfold addScenarioAttachment modifyScenario at result
  split at result
  · rename_i has
    cases result
    obtain ⟨found, first⟩ :=
      Option.isSome_iff_exists.mp (List.find?_isSome.mpr (List.any_eq_true.mp has))
    have adds : ((found.attachments ++ [attachment]) ++ found.steps.flatMap (·.attachments)).Perm
        (attachment :: found.attached) :=
      (List.perm_append_singleton attachment _).append_right _
    exact flatMap_modifyFirst_perm first adds
  · cases result

end Run

def Operation.attachment? : Operation → Option Attachment
  | addStepAttachment _ _ _ attachment => some attachment
  | addScenarioAttachment _ _ _ attachment => some attachment
  | _ => none

/-- A run that the store's own operations edit keeps what was attached to it, and may get one more. -/
theorem Operation.edit?_attached {op : Operation} (own : op.IsOwn) {project id : String}
    {f : Run → Except Error Run} (edits : op.edit? = some (project, id, f)) {run changed : Run}
    (result : f run = .ok changed) :
    changed.attached.Perm (op.attachment?.toList ++ run.attached) := by
  cases op with
  | mutateRun => exact own.elim
  | setStepResult _ _ step outcome =>
    cases edits
    exact .of_eq (Run.left_of_kept result ▸ (run.setStepResult_tested step outcome).attached)
  | setScenarioResult _ _ scenario outcome =>
    cases edits
    exact .of_eq (Run.left_of_kept result ▸ (run.setScenarioResult_tested scenario outcome).attached)
  | bulkSetResult _ _ scenarios outcome =>
    cases edits
    exact .of_eq (Run.left_of_kept result ▸ (run.bulkSetResult_tested scenarios outcome).attached)
  | setStepNote _ _ step text =>
    cases edits
    exact .of_eq (Run.left_of_kept result ▸ run.setStepNote_attached step text)
  | setScenarioNote _ _ scenario text =>
    cases edits
    exact .of_eq (Run.left_of_kept result ▸ run.setScenarioNote_attached scenario text)
  | addStepAttachment =>
    cases edits
    exact Run.addStepAttachment_attaches result
  | addScenarioAttachment =>
    cases edits
    exact Run.addScenarioAttachment_attaches result
  | _ => cases edits

end Testbook
