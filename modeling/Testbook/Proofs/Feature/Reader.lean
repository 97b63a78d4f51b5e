import Testbook.Feature.Reader
import Testbook.Proofs.IdSource

/-! Reading a feature file takes ids from the source, and yields no more scenarios than the file has
characters. -/

set_option autoImplicit false

namespace Testbook

namespace Feature.Draft

open IdSource

structure Kept (Holds : Draft → Prop) : Prop where
  heading : ∀ {draft : Draft} (name : String) (description : List String) (describing : Bool),
    Holds draft → Holds { draft with name, description, describing }
  scenario : ∀ {draft : Draft} (name : String), Holds draft → Holds (draft.beginScenario name)
  step : ∀ {draft : Draft} (keyword : StepKeyword) (text : String),
    Holds draft → Holds (draft.addStep keyword text)

namespace Kept

variable {Holds : Draft → Prop} {draft : Draft}

theorem readLive (kept : Kept Holds) (start : Holds draft) (line : List Char) :
    Holds (draft.readLive line) := by
  unfold Draft.readLive
  split
  · exact start
  split
  · exact kept.heading _ _ _ start
  split
  · exact kept.scenario _ start
  split
  · exact kept.step _ _ start
  · exact start

theorem read (kept : Kept Holds) (start : Holds draft) (line : List Char) :
    Holds (draft.read line) := by
  unfold Draft.read
  split
  · split
    · exact start
    · exact kept.heading draft.name _ draft.describing start
  · exact kept.readLive (kept.heading draft.name draft.description false start) line

theorem foldl_read (kept : Kept Holds) (start : Holds draft) (lines : List (List Char)) :
    Holds (lines.foldl Draft.read draft) := by
  induction lines generalizing draft with
  | nil => exact start
  | cons line lines ih => exact ih (kept.read start line)

end Kept

theorem before_kept (ids : IdSource) : Kept fun draft => Before ids draft.ids where
  heading _ _ _ before := before
  scenario _ before := before.trans (before_next _)
  step _ _ before := by
    unfold addStep
    split
    · exact before
    · exact before.trans (before_next _)

theorem foldl_read_before (draft : Draft) (lines : List (List Char)) :
    Before draft.ids (lines.foldl read draft).ids :=
  (before_kept draft.ids).foldl_read (Before.refl draft.ids) lines

/-! ### How many scenarios there are -/

-- Only a line that is not empty begins a scenario, and such a line has a character to itself.

theorem length_scenarios_beginScenario (draft : Draft) (name : String) :
    (draft.beginScenario name).scenarios.length = draft.scenarios.length + 1 := by
  simp [beginScenario, scenarios, Nat.add_assoc]

theorem length_scenarios_addStep (draft : Draft) (keyword : StepKeyword) (text : String) :
    (draft.addStep keyword text).scenarios.length = draft.scenarios.length := by
  unfold addStep
  split
  · rfl
  · rename_i current
    simp [scenarios, current]

theorem length_scenarios_readLive (draft : Draft) (line : List Char) :
    (draft.readLive line).scenarios.length ≤
      draft.scenarios.length + if line.isEmpty then 0 else 1 := by
  unfold readLive
  split
  · exact Nat.le_add_right _ _
  rename_i visible
  have some_line : line.isEmpty = false := by simp_all
  rw [some_line]
  split
  · exact Nat.le_add_right _ _
  split
  · exact Nat.le_of_eq (length_scenarios_beginScenario _ _)
  split
  · rw [length_scenarios_addStep]
    exact Nat.le_add_right _ _
  · exact Nat.le_add_right _ _

theorem length_scenarios_read (draft : Draft) (line : List Char) :
    (draft.read line).scenarios.length ≤
      draft.scenarios.length + if line.isEmpty then 0 else 1 := by
  unfold read
  split
  · split <;> exact Nat.le_add_right _ _
  · exact length_scenarios_readLive { draft with describing := false } line

theorem length_scenarios_foldl (draft : Draft) (lines : List (List Char)) :
    (lines.foldl read draft).scenarios.length ≤
      draft.scenarios.length + lines.countP (!·.isEmpty) := by
  induction lines generalizing draft with
  | nil => exact Nat.le_refl _
  | cons line lines ih =>
    have first := length_scenarios_read draft line
    have others := ih (draft.read line)
    rw [List.foldl_cons, List.countP_cons]
    cases empty : line.isEmpty <;> simp [empty] at first ⊢ <;> omega

end Feature.Draft

theorem Text.countP_piecesFrom (begun cs : List Char) :
    (Text.piecesFrom begun cs).countP (!·.isEmpty) ≤ begun.length + cs.length := by
  induction cs generalizing begun with
  | nil => cases begun <;> simp [piecesFrom]
  | cons c cs ih =>
    unfold piecesFrom
    split
    · have others := ih []
      rw [List.countP_cons]
      cases begun <;> simp at others ⊢ <;> omega
    · have others := ih (c :: begun)
      simp only [List.length_cons] at others ⊢
      omega

namespace Feature

theorem ofFile_before (ids : IdSource) (file content : String) :
    ids.Before (ofFile ids file content).2 :=
  (IdSource.before_next ids).trans
    (Draft.foldl_read_before { ids := ids.next.2 } (lines content))

theorem ofFile_issued (ids : IdSource) (file content : String) :
    (ofFile ids file content).2.Issued (ofFile ids file content).1.id :=
  (IdSource.next_issued ids).mono (Draft.foldl_read_before { ids := ids.next.2 } (lines content))

theorem countP_lines (content : String) : (lines content).countP (!·.isEmpty) ≤ content.length := by
  have trimmed (piece : List Char) :
      (!(Text.trimChars piece).isEmpty) = true → (!piece.isEmpty) = true := by
    cases piece with
    | nil => decide
    | cons => simp
  have pieces := Text.countP_piecesFrom [] content.toList
  rw [lines, List.countP_map]
  refine Nat.le_trans (List.countP_mono_left fun piece _ => trimmed piece) ?_
  rw [← String.length_toList]
  simpa [Text.pieces] using pieces

theorem ofFile_length (ids : IdSource) (file content : String) :
    (ofFile ids file content).1.scenarios.length ≤ content.length := by
  have read := Draft.length_scenarios_foldl { ids := ids.next.2 } (lines content)
  have lines := countP_lines content
  simp only [Draft.scenarios, List.nil_append, Option.toList_none, List.length_nil] at read
  exact Nat.le_trans read (by omega)

end Feature

end Testbook
