import Testbook.Proofs.Feature.Ids
import Testbook.Proofs.Feature.LineByLine

/-! Ids from a sequence number a feature that is read: the feature, then each scenario and its steps, in the
order of the document. Lines that say nothing take no number. -/

set_option autoImplicit false

namespace Testbook

namespace IdSource

def sequentialFrom (lead : String) (n : Nat) : IdSource := (sequential lead).skip n

theorem sequentialFrom_skip (lead : String) (n m : Nat) :
    (sequentialFrom lead n).skip m = sequentialFrom lead (n + m) := by
  simp [sequentialFrom, skip, Nat.add_assoc]

theorem upcoming_sequentialFrom (lead : String) (n m : Nat) :
    (sequentialFrom lead n).upcoming m =
      (List.range' (n + 1) m).map fun k => lead ++ "-" ++ Decimal.text k := by
  have shifted : List.range' (n + 1) m = (List.range' n m).map (· + 1) := by
    simp only [Nat.add_comm _ 1, List.map_add_range']
  have start : (sequentialFrom lead n).issued = n := Nat.zero_add n
  rw [upcoming, start, shifted, List.map_map]
  rfl

end IdSource

namespace Feature

theorem length_ids (feature : Feature) :
    feature.ids.length = 1 + feature.scenarios.length + feature.stepCount := by
  have each (scenarios : List Scenario) : (scenarios.flatMap Scenario.ids).length =
      scenarios.length + scenarios.foldr (fun scenario n => scenario.steps.length + n) 0 := by
    induction scenarios with
    | nil => rfl
    | cons scenario scenarios ih =>
      simp only [List.flatMap_cons, List.length_append, Scenario.ids, List.length_cons,
        List.length_map, List.foldr_cons] at ih ⊢
      omega
  rw [ids, List.length_cons, each, stepCount]
  omega

/-- What is read depends on the visible lines alone, and so do the ids that are taken for it. -/
theorem ofFile_congr {content other : String} (same : Grammar.lines other = Grammar.lines content)
    (ids : IdSource) (file file' : String) :
    { (ofFile ids file' other).1 with source := (ofFile ids file content).1.source } =
        (ofFile ids file content).1 ∧
      (ofFile ids file' other).2 = (ofFile ids file content).2 := by
  have read : (lines other).foldl Draft.read { ids := ids.next.2 } =
      (lines content).foldl Draft.read { ids := ids.next.2 } := by
    rw [foldl_read_lines, foldl_read_lines, same]
  constructor
  · simp only [ofFile, read]
  · exact congrArg Draft.ids read

/-- A sequence that stands at `n` gives the numbers from `n + 1` on to a feature, in the order of the
document, and stands at the last of them afterwards. A file with the same visible lines gets the same. -/
theorem ofFile_numbered (lead : String) (n : Nat) (file content : String) :
    let feature := (ofFile (.sequentialFrom lead n) file content).1
    let count := 1 + feature.scenarios.length + feature.stepCount
    (ofFile (.sequentialFrom lead n) file content).2 = .sequentialFrom lead (n + count) ∧
      (feature.id :: feature.scenarios.flatMap fun scenario =>
          scenario.id :: scenario.steps.map (·.id)) =
        (List.range' (n + 1) count).map (fun k => lead ++ "-" ++ Decimal.text k) ∧
      feature.ids.Nodup ∧
      ∀ file' other, Grammar.lines other = Grammar.lines content →
        { (ofFile (.sequentialFrom lead n) file' other).1 with source := feature.source } = feature ∧
          (ofFile (.sequentialFrom lead n) file' other).2 =
            (ofFile (.sequentialFrom lead n) file content).2 := by
  intro feature count
  obtain ⟨later, borne⟩ := ofFile_ids (.sequentialFrom lead n) file content
  rw [length_ids] at later borne
  refine ⟨?_, ?_, ?_, ?_⟩
  · rw [later, IdSource.sequentialFrom_skip]
  · rw [← IdSource.upcoming_sequentialFrom]
    exact borne
  · have injective : Function.Injective (IdSource.sequentialFrom lead n).name :=
      IdSource.sequential_injective lead
    exact nodup_ofFile_ids injective file content
  · intro file' other same
    exact ofFile_congr same _ file file'

/-- One of two files has margins, a blank line and a carriage return that the other lacks. A step before the
first scenario takes no number, nor does a line of the description. -/
theorem ofFile_numbered_sample :
    let content := "Given a\nFeature: F\nWhen b\nScenario: S\nGiven c\nThen d"
    let other := "Given a\nFeature: F\n\n When b\nScenario: S\r\n Given c\nThen d "
    let ids := IdSource.sequentialFrom "id" 4
    Grammar.lines other = Grammar.lines content ∧
      (ofFile ids "g.feature" other).1.ids = (ofFile ids "f.feature" content).1.ids ∧
      (ofFile ids "f.feature" content).1.ids = ["id-5", "id-6", "id-7", "id-8"] ∧
      (ofFile ids "g.feature" other).2.issued = 8 := by
  intro content other ids
  have same : Grammar.lines other = Grammar.lines content := by decide
  obtain ⟨later, borne, -, again⟩ := ofFile_numbered "id" 4 "f.feature" content
  obtain ⟨tree, counter⟩ := again "g.feature" other same
  have numbers := congrArg Feature.ids tree
  refine ⟨same, numbers, borne.trans (by decide), ?_⟩
  rw [counter, later]
  decide

end Feature

end Testbook
