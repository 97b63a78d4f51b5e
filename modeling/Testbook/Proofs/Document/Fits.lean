import Testbook.Proofs.Document.RoundTrip
import Testbook.Proofs.Json.Extent
import Testbook.Proofs.Pairwise
import Testbook.Proofs.Run.Status

/-! Lists and counts of less than 64 bits. A project that is read from a document of such a length has
no longer lists, and its counts have been read as numbers of 64 bits. -/

set_option autoImplicit false

namespace Testbook

open Document Json

def Feature.Fits (feature : Feature) : Prop := feature.scenarios.length < wordLimit

structure Run.Fits (run : Run) : Prop where
  scenarios : run.scenarios.length < wordLimit
  summary : run.summary.Fits

structure Project.Fits (project : Project) : Prop where
  features : ∀ feature ∈ project.features, feature.Fits
  runs : ∀ run ∈ project.runs, run.Fits

theorem RunSummary.ofScenarios_fits {scenarios : List Scenario}
    (length : scenarios.length < wordLimit) : (RunSummary.ofScenarios scenarios).Fits where
  total := length
  passed := Nat.lt_of_le_of_lt List.countP_le_length length
  failed := Nat.lt_of_le_of_lt List.countP_le_length length
  skipped := Nat.lt_of_le_of_lt List.countP_le_length length
  untested := Nat.lt_of_le_of_lt List.countP_le_length length

theorem RunSummary.allUntested_fits {total : Nat} (bound : total < wordLimit) :
    (RunSummary.allUntested total).Fits :=
  ⟨bound, Nat.zero_lt_of_lt bound, Nat.zero_lt_of_lt bound, Nat.zero_lt_of_lt bound, bound⟩

theorem Project.Fits.summaries {project : Project} (fits : project.Fits) :
    ∀ run ∈ project.runs, run.summary.Fits :=
  fun run member => (fits.runs run member).summary

/-! ### Read from documents -/

section Fields

variable {α : Type}

-- A field that is given twice is found twice, though it is read only where it is given once.
theorem extent_le_of_under? {key : String} {members : List (Option String × Tree)}
    {items : List Tree} (found : Tree.under? key members = some items) :
    ∀ item ∈ items, item.extent ≤ Tree.memberExtents members := by
  induction members generalizing items with
  | nil => cases found; simp
  | cons member members ih =>
    obtain ⟨name, first⟩ := member
    obtain ⟨known, _, found⟩ := Option.bind_eq_some_iff.mp found
    obtain ⟨others, later, same⟩ := Option.bind_eq_some_iff.mp found
    cases same
    intro item stands
    simp only [Tree.memberExtents]
    split at stands
    · rcases List.mem_cons.mp stands with rfl | stands
      · omega
      · have := ih later item stands
        omega
    · have := ih later item stands
      omega

theorem extent_le_of_once? {key : String} {members : List (Option String × Tree)} {item : Tree}
    (found : Tree.once? key members = some (some item)) :
    item.extent ≤ Tree.memberExtents members := by
  obtain ⟨items, under, same⟩ := Option.bind_eq_some_iff.mp found
  split at same
  · cases same
  · cases same
    exact extent_le_of_under? under item List.mem_cons_self
  · cases same

theorem extent_le_of_fields? {names : List String} {t : Tree} {fields : List (Option Tree)}
    (found : t.fields? names = some fields) {item : Tree} (member : some item ∈ fields) :
    item.extent ≤ t.extent := by
  unfold Tree.fields? at found
  split at found
  · obtain ⟨name, _, once⟩ := exists_of_mem_right (forall₂_of_mapM found) member
    exact extent_le_of_once? once
  · split at found
    · cases found
      rcases List.mem_append.mp member with inside | outside
      · obtain ⟨_, stands, same⟩ := List.mem_map.mp inside
        cases same
        exact Tree.extent_le_of_mem stands
      · exact absurd (List.mem_replicate.mp outside).2 (by simp)
    · cases found
  · cases found

/-- A list has no more entries than the tree that it was read from, and each of them was read from a
tree that is no larger. -/
theorem listOf_extent {read : Tree → Option α} {t : Tree} {entries : List α}
    (found : listOf read t = some entries) :
    entries.length ≤ t.extent ∧
      ∀ entry ∈ entries, ∃ item : Tree, item.extent ≤ t.extent ∧ read item = some entry := by
  obtain ⟨items, same, found⟩ := Option.bind_eq_some_iff.mp found
  unfold Tree.items? at same
  split at same
  · cases same
    have related := forall₂_of_mapM found
    refine ⟨related.length_eq ▸ Tree.length_le_extents _, ?_⟩
    intro entry member
    obtain ⟨item, stands, read⟩ := exists_of_mem_right related member
    exact ⟨item, Tree.extent_le_of_mem stands, read⟩
  · cases same

theorem field_listOf_extent {names : List String} {t : Tree} {fields : List (Option Tree)}
    (found : t.fields? names = some fields) {field : Option Tree} (member : field ∈ fields)
    {read : Tree → Option α} {entries : List α}
    (listed : defaulting [] (listOf read) field = some entries) :
    entries.length ≤ t.extent ∧
      ∀ entry ∈ entries, ∃ item : Tree, item.extent ≤ t.extent ∧ read item = some entry := by
  cases field with
  | none =>
    cases listed
    simp
  | some inner =>
    obtain ⟨length, each⟩ := listOf_extent listed
    have small := extent_le_of_fields? found member
    refine ⟨Nat.le_trans length small, ?_⟩
    intro entry stands
    obtain ⟨item, item_small, read⟩ := each entry stands
    exact ⟨item, Nat.le_trans item_small small, read⟩

end Fields

theorem Feature.ofTree?_length {t : Tree} {feature : Feature} (read : Feature.ofTree? t = some feature) :
    feature.scenarios.length ≤ t.extent := by
  obtain ⟨fields, found, read⟩ := Option.bind_eq_some_iff.mp read
  split at read
  · obtain ⟨id, _, read⟩ := Option.bind_eq_some_iff.mp read
    obtain ⟨name, _, read⟩ := Option.bind_eq_some_iff.mp read
    obtain ⟨description, _, read⟩ := Option.bind_eq_some_iff.mp read
    obtain ⟨tags, _, read⟩ := Option.bind_eq_some_iff.mp read
    obtain ⟨scenarios, listed, read⟩ := Option.bind_eq_some_iff.mp read
    obtain ⟨source, _, read⟩ := Option.bind_eq_some_iff.mp read
    cases read
    exact (field_listOf_extent found (by simp) listed).1
  · cases read

theorem nat?_lt {field : Option Tree} {n : Nat} (read : required Tree.nat? field = some n) :
    n < wordLimit := by
  obtain ⟨t, _, read⟩ := Option.bind_eq_some_iff.mp read
  unfold Tree.nat? Numeral.nat? at read
  split at read
  · split at read
    · rename_i plain
      cases read
      exact plain.2.2.2
    · cases read
  · cases read

theorem RunSummary.ofTree?_fits {t : Tree} {summary : RunSummary}
    (read : RunSummary.ofTree? t = some summary) : summary.Fits := by
  obtain ⟨fields, found, read⟩ := Option.bind_eq_some_iff.mp read
  split at read
  · obtain ⟨total, first, read⟩ := Option.bind_eq_some_iff.mp read
    obtain ⟨passed, second, read⟩ := Option.bind_eq_some_iff.mp read
    obtain ⟨failed, third, read⟩ := Option.bind_eq_some_iff.mp read
    obtain ⟨skipped, fourth, read⟩ := Option.bind_eq_some_iff.mp read
    obtain ⟨untested, fifth, read⟩ := Option.bind_eq_some_iff.mp read
    cases read
    exact ⟨nat?_lt first, nat?_lt second, nat?_lt third, nat?_lt fourth, nat?_lt fifth⟩
  · cases read

theorem Run.ofTree?_fits {t : Tree} {run : Run} (read : Run.ofTree? t = some run) :
    run.scenarios.length ≤ t.extent ∧ run.summary.Fits := by
  obtain ⟨fields, found, read⟩ := Option.bind_eq_some_iff.mp read
  split at read
  · obtain ⟨id, _, read⟩ := Option.bind_eq_some_iff.mp read
    obtain ⟨featureId, _, read⟩ := Option.bind_eq_some_iff.mp read
    obtain ⟨createdAt, _, read⟩ := Option.bind_eq_some_iff.mp read
    obtain ⟨environment, _, read⟩ := Option.bind_eq_some_iff.mp read
    obtain ⟨version, _, read⟩ := Option.bind_eq_some_iff.mp read
    obtain ⟨scenarios, listed, read⟩ := Option.bind_eq_some_iff.mp read
    obtain ⟨summary, counted, read⟩ := Option.bind_eq_some_iff.mp read
    obtain ⟨status, _, read⟩ := Option.bind_eq_some_iff.mp read
    obtain ⟨completedAt, _, read⟩ := Option.bind_eq_some_iff.mp read
    obtain ⟨locked, _, read⟩ := Option.bind_eq_some_iff.mp read
    cases read
    refine ⟨(field_listOf_extent found (by simp) listed).1, ?_⟩
    unfold defaulting at counted
    split at counted
    · cases counted
      exact RunSummary.allUntested_fits (by decide)
    · exact RunSummary.ofTree?_fits counted
  · cases read

/-- The lists of a project are no longer than its document, and its counts are words in any case. -/
theorem Project.ofTree?_fits {t : Tree} {project : Project} (read : Project.ofTree? t = some project) :
    (∀ feature ∈ project.features, feature.scenarios.length ≤ t.extent) ∧
      ∀ run ∈ project.runs, run.scenarios.length ≤ t.extent ∧ run.summary.Fits := by
  obtain ⟨fields, found, read⟩ := Option.bind_eq_some_iff.mp read
  split at read
  · obtain ⟨id, _, read⟩ := Option.bind_eq_some_iff.mp read
    obtain ⟨name, _, read⟩ := Option.bind_eq_some_iff.mp read
    obtain ⟨description, _, read⟩ := Option.bind_eq_some_iff.mp read
    obtain ⟨features, featuresListed, read⟩ := Option.bind_eq_some_iff.mp read
    obtain ⟨runs, runsListed, read⟩ := Option.bind_eq_some_iff.mp read
    cases read
    constructor
    · intro feature member
      obtain ⟨item, small, read⟩ := (field_listOf_extent found (by simp) featuresListed).2 _ member
      exact Nat.le_trans (Feature.ofTree?_length read) small
    · intro run member
      obtain ⟨item, small, read⟩ := (field_listOf_extent found (by simp) runsListed).2 _ member
      obtain ⟨length, summary⟩ := Run.ofTree?_fits read
      exact ⟨Nat.le_trans length small, summary⟩
  · cases read

theorem Project.ofText?_fits {document : String} {project : Project}
    (read : Project.ofText? document = some project) (bound : document.length < wordLimit) :
    project.Fits := by
  obtain ⟨t, whole, read⟩ := Option.bind_eq_some_iff.mp read
  have extent : t.extent < wordLimit := Nat.lt_of_le_of_lt (Tree.ofText?_extent whole) bound
  obtain ⟨features, runs⟩ := Project.ofTree?_fits read
  constructor
  · intro feature member
    exact Nat.lt_of_le_of_lt (features feature member) extent
  · intro run member
    obtain ⟨length, summary⟩ := runs run member
    exact ⟨Nat.lt_of_le_of_lt length extent, summary⟩

/-- However long its document is. -/
theorem Project.ofText?_summaries {document : String} {project : Project}
    (read : Project.ofText? document = some project) : ∀ run ∈ project.runs, run.summary.Fits := by
  obtain ⟨t, _, read⟩ := Option.bind_eq_some_iff.mp read
  exact fun run member => ((Project.ofTree?_fits read).2 run member).2

end Testbook
