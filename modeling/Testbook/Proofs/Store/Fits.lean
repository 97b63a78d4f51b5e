import Testbook.Proofs.Document.Fits
import Testbook.Proofs.Run.Edited
import Testbook.Proofs.Store.Lasting

/-! As long as what callers bring has lists and counts of less than 64 bits, so has everything that is
stored. -/

set_option autoImplicit false

namespace Testbook

open Json (wordLimit)

/-- What a caller brings is no longer than 64 bits can count. Texts in memory, lists in memory and
machine words never are. -/
def Operation.Fits : Operation → Prop
  | addFeature _ feature => feature.Fits
  | uploadFeature _ _ content => content.length < wordLimit
  | importProject document => document.length < wordLimit
  | updateRun _ run => run.Fits
  | mutateRun _ _ f => ∀ run answer changed, run.Fits → f run = (.ok answer, changed) → changed.Fits
  | _ => True

namespace Run

variable {run changed : Run}

theorem snapshot_fits {template : Feature} (fits : template.Fits) (environment : Environment)
    (version id : String) (now : Instant) :
    (snapshot template environment version id now).Fits where
  scenarios := by
    simp only [snapshot, List.length_map]
    exact fits
  summary := RunSummary.allUntested_fits fits

theorem Edited.fits (edited : run.Edited changed) (fits : run.Fits) : changed.Fits := by
  cases edited with
  | annotated same =>
    have length := same.scenarios.length_eq
    exact ⟨length ▸ fits.scenarios, same.summary ▸ fits.summary⟩
  | marked _ length =>
    have bound := length ▸ fits.scenarios
    exact ⟨bound, RunSummary.ofScenarios_fits bound⟩

theorem complete_fits (run : Run) (now : Instant) (fits : run.Fits) : (run.complete now).2.Fits := by
  unfold complete
  split
  · exact fits
  · exact ⟨fits.scenarios, fits.summary⟩

theorem reset_fits (run : Run) (fits : run.Fits) : run.reset.Fits where
  scenarios := by simpa [reset] using fits.scenarios
  summary := RunSummary.allUntested_fits fits.scenarios

end Run

namespace Operation

variable {op : Operation}

-- The store's own edits keep the number of scenarios; a caller's edit is asked to keep to 64 bits.
theorem edit?_fits (brought : op.Fits) {project id : String} {f : Run → Except Error Run}
    (edits : op.edit? = some (project, id, f)) {run changed : Run} (result : f run = .ok changed)
    (fits : run.Fits) : changed.Fits := by
  by_cases own : op.IsOwn
  · exact (edited own edits result).fits fits
  · cases op with
    | mutateRun =>
      cases edits
      obtain ⟨answer, left⟩ := Run.kept_eq_ok.mp result
      exact brought run answer changed fits left
    | importProject => cases edits
    | updateRun => cases edits
    | _ => exact absurd trivial own

theorem offer?_fits (brought : op.Fits) {ids : IdSource} {project : String} {feature : Feature}
    (offers : op.offer? ids = some (project, feature)) : feature.Fits := by
  cases op with
  | addFeature =>
    cases offers
    exact brought
  | uploadFeature _ file content =>
    cases offers
    exact Nat.lt_of_le_of_lt (Feature.ofFile_length ids file content) brought
  | _ => cases offers

end Operation

theorem fits_lasting : Lasting Operation.Fits fun _ p => p.Fits where
  later _ fits := fits
  created _ noFeatures noRuns := ⟨by simp [noFeatures], by simp [noRuns]⟩
  imported brought read := Project.ofText?_fits read brought
  changed {op} _ _ p _ brought _ changes fits := by
    constructor
    · intro feature member
      rcases changes.features feature member with stays | offers
      · exact fits.features feature stays
      · exact Operation.offer?_fits brought offers
    · have keeps : op.KeepsRuns p Run.Fits :=
        { begun := fun template member environment version id now =>
            Run.snapshot_fits (fits.features template member) environment version id now
          edited := fun edits result fits => Operation.edit?_fits brought edits result fits
          completed := fun run now _ => run.complete_fits now
          reset := Run.reset_fits
          updated := by
            rintro project run rfl
            exact brought }
      exact changes.runs keeps fits.runs

end Testbook
