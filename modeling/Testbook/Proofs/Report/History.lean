import Mathlib.Data.String.Basic
import Testbook.Proofs.Project.Reset
import Testbook.Proofs.Report.Newest
import Testbook.Proofs.Sorted
import Testbook.Report.History

/-! What a history shows. Each environment and version has one run that stands for it: the newest that was
completed, and of several the one that is stored first. The runs are collected in one pass, in which a run
may stand for its version until a newer one comes. -/

set_option autoImplicit false

namespace Testbook

namespace Run

/-- Before the other in a history: created after it, or at the same time and of a smaller id. -/
def Precedes (run other : Run) : Prop :=
  other.createdAt.before run.createdAt = true ∨ run.createdAt = other.createdAt ∧ run.id < other.id

theorem Precedes.notAfter {run other : Run} (first : run.Precedes other) :
    other.createdAt.notAfter run.createdAt = true := by
  rcases first with newer | ⟨same, _⟩
  · exact Instant.notAfter_of_before newer
  · exact same ▸ Instant.notAfter_refl run.createdAt

theorem Precedes.asymm {run other : Run} (first : run.Precedes other) : ¬other.Precedes run := by
  rintro (newer | ⟨same, less⟩)
  · exact Instant.notAfter_iff.mp first.notAfter newer
  · rcases first with newer | ⟨_, less'⟩
    · exact Instant.before_irrefl _ (same ▸ newer)
    · exact lt_asymm less less'

theorem sameVersion_eq (a b : Run) : a.sameVersion b = decide (a.edition = b.edition) := by
  simp [sameVersion, edition]

end Run

namespace Report

def ofEdition (runs : List Run) (edition : Environment × String) : List Run :=
  runs.filter (·.edition = edition)

/-- The run that stands for an environment and a version: of the newest runs for them the first. -/
def standing? (runs : List Run) (edition : Environment × String) : Option Run :=
  (latest (ofEdition runs edition)).head?

variable {runs kept seen : List Run} {run new : Run} {edition : Environment × String}

theorem mem_of_standing? (stands : standing? runs edition = some run) :
    run ∈ runs ∧ run.edition = edition := by
  have member := (mem_latest.mp (List.mem_of_head? stands)).1
  simpa [ofEdition] using member

theorem standing?_isSome (runs : List Run) (edition : Environment × String) :
    (standing? runs edition).isSome ↔ edition ∈ runs.map Run.edition := by
  simp [standing?, latest_eq_nil, ofEdition]

theorem standing?_concat (runs : List Run) (new : Run) (edition : Environment × String) :
    standing? (runs ++ [new]) edition =
      if new.edition = edition then
        ((standing? runs edition).filter (new.createdAt.notAfter ·.createdAt)).or (some new)
      else standing? runs edition := by
  unfold standing? ofEdition
  split
  · rename_i same
    rw [List.filter_append, List.filter_singleton, decide_eq_true same, ← head?_latest_concat]
    rfl
  · rename_i apart
    simp [List.filter_append, apart]

/-! ### The pass over the runs -/

/-- Of the runs seen so far, those that stand for their environment and version, each once. -/
structure Keeps (kept seen : List Run) : Prop where
  distinct : (kept.map Run.edition).Nodup
  standing : ∀ edition, kept.find? (·.edition = edition) = standing? seen edition

theorem keepNewest_eq (distinct : (kept.map Run.edition).Nodup) (run : Run) :
    keepNewest kept run =
      if (kept.find? (·.edition = run.edition)).any (run.createdAt.notAfter ·.createdAt) then kept
      else replaceOrAppend (·.edition = run.edition) run kept := by
  unfold keepNewest
  simp only [Run.sameVersion_eq, decide_eq_true_eq]
  split
  · rename_i absent
    simp [absent, replaceOrAppend_absent absent]
  · rename_i best found
    rw [replaceOrAppend_found found, modifyFirst_eq_map distinct, found]
    rfl

theorem keeps_nil : Keeps [] [] where
  distinct := List.nodup_nil
  standing _ := rfl

theorem Keeps.step (keeps : Keeps kept seen) (run : Run) :
    Keeps (keepNewest kept run) (seen ++ [run]) := by
  have found := keeps.standing run.edition
  rw [keepNewest_eq keeps.distinct, found]
  split
  · rename_i behind
    obtain ⟨best, stands, notNewer⟩ := (Option.any_eq_true _ _).mp behind
    refine ⟨keeps.distinct, fun edition => ?_⟩
    rw [standing?_concat, keeps.standing edition]
    split
    · rename_i same
      subst same
      simp [stands, Option.filter, notNewer]
    · rfl
  · rename_i newer
    refine ⟨nodup_replaceOrAppend keeps.distinct, fun edition => ?_⟩
    rw [standing?_concat]
    split
    · rename_i same
      subst same
      have gone : (standing? seen run.edition).filter (run.createdAt.notAfter ·.createdAt) = none :=
        Option.filter_eq_none_iff.mpr fun best stands notNewer =>
          newer ((Option.any_eq_true _ _).mpr ⟨best, stands, notNewer⟩)
      rw [find?_replaceOrAppend_same, gone]
      rfl
    · rename_i apart
      rw [find?_replaceOrAppend_other (Ne.symm apart), keeps.standing edition]

theorem Keeps.mem_iff (keeps : Keeps kept seen) :
    run ∈ kept ↔ standing? seen run.edition = some run := by
  rw [← keeps.standing]
  exact ⟨find?_key_of_mem keeps.distinct, fun found => (mem_of_find?_key found).1⟩

theorem Keeps.length_eq (keeps : Keeps kept seen) :
    kept.length = (seen.map Run.edition).dedup.length := by
  rw [← List.length_map Run.edition]
  refine ((List.perm_ext_iff_of_nodup keeps.distinct (List.nodup_dedup _)).mpr ?_).length_eq
  intro edition
  rw [List.mem_dedup, ← standing?_isSome seen, ← keeps.standing, List.find?_isSome]
  simp

theorem keeps_newestPerVersion (p : Project) (feature : String) (environment : Option Environment) :
    Keeps (newestPerVersion p feature environment) (completedRuns p feature environment) := by
  unfold newestPerVersion
  induction completedRuns p feature environment using List.reverseRecOn with
  | nil => exact keeps_nil
  | append_singleton runs run ih =>
    rw [List.foldl_concat]
    exact ih.step run

/-! ### The order -/

theorem comesFirst_iff (a b : Run) : comesFirst a b = true ↔
    b.createdAt.before a.createdAt = true ∨ a.createdAt = b.createdAt ∧ a.id ≤ b.id := by
  unfold comesFirst
  split
  · rename_i same
    simp [same, Instant.before_irrefl]
  · rename_i apart
    simp [apart]

theorem comesFirst_trans (a b c : Run) (first : comesFirst a b) (second : comesFirst b c) :
    comesFirst a c := by
  rw [comesFirst_iff] at *
  rcases first with newer | ⟨same, least⟩
  · rcases second with newer' | ⟨same', _⟩
    · exact Or.inl (Instant.before_trans newer' newer)
    · exact Or.inl (same' ▸ newer)
  · rcases second with newer' | ⟨same', least'⟩
    · exact Or.inl (same ▸ newer')
    · exact Or.inr ⟨same.trans same', least.trans least'⟩

theorem comesFirst_total (a b : Run) : comesFirst a b || comesFirst b a := by
  rw [Bool.or_eq_true, comesFirst_iff, comesFirst_iff]
  rcases Instant.before_trichotomy a.createdAt b.createdAt with older | same | newer
  · exact Or.inr (Or.inl older)
  · rcases le_total a.id b.id with least | least
    · exact Or.inl (Or.inr ⟨same, least⟩)
    · exact Or.inr (Or.inr ⟨same.symm, least⟩)
  · exact Or.inl (Or.inl newer)

theorem sorts : Sorts comesFirst Run.Precedes (·.id) where
  trans := comesFirst_trans
  total := comesFirst_total
  strict a b first different :=
    ((comesFirst_iff a b).mp first).imp_right fun ⟨same, least⟩ =>
      ⟨same, lt_of_le_of_ne least different⟩
  asymm _ _ first := first.asymm

/-- The first ten of the runs that stand for a version, newest first. The others come after them, and are
no newer. -/
structure ShowsNewest (runs shown : List Run) : Prop where
  stands : ∀ run ∈ shown, standing? runs run.edition = some run
  once : (shown.map Run.edition).Nodup
  count : shown.length = min 10 (runs.map Run.edition).dedup.length
  ordered : shown.Pairwise Run.Precedes
  omitted : ∀ run, standing? runs run.edition = some run → run ∉ shown →
    ∀ other ∈ shown, other.Precedes run ∧ run.createdAt.notAfter other.createdAt = true

theorem Keeps.showsNewest (keeps : Keeps kept seen) (distinct : (kept.map (·.id)).Nodup) :
    ShowsNewest seen ((kept.mergeSort comesFirst).take historyLimit) := by
  have perm := List.mergeSort_perm kept comesFirst
  have shown := (List.take_sublist historyLimit (kept.mergeSort comesFirst))
  have ordered := sorts.pairwise distinct
  exact
    { stands := fun run member => keeps.mem_iff.mp (perm.mem_iff.mp (shown.subset member))
      once := ((perm.map _).nodup_iff.mpr keeps.distinct).sublist (shown.map _)
      count := by rw [List.length_take, perm.length_eq, keeps.length_eq, historyLimit]
      ordered := ordered.sublist shown
      omitted := by
        intro run stands unseen other member
        have listed : run ∈ kept.mergeSort comesFirst := perm.mem_iff.mpr (keeps.mem_iff.mpr stands)
        rw [← List.take_append_drop historyLimit (kept.mergeSort comesFirst)] at ordered listed
        have rest := (List.mem_append.mp listed).resolve_left unseen
        have first := (List.pairwise_append.mp ordered).2.2 other member run rest
        exact ⟨first, first.notAfter⟩ }

theorem Keeps.distinct_ids (keeps : Keeps kept seen) (distinct : (seen.map (·.id)).Nodup) :
    (kept.map (·.id)).Nodup := by
  have stood : ∀ run ∈ kept, run ∈ seen :=
    fun run member => (mem_of_standing? (keeps.mem_iff.mp member)).1
  refine (List.Nodup.of_map _ keeps.distinct).map_on ?_
  intro a first b second same
  exact List.inj_on_of_nodup_map distinct (stood a first) (stood b second) same

/-! ### The history of a feature -/

theorem completedRuns_sublist (p : Project) (feature : String) (environment : Option Environment) :
    (completedRuns p feature environment).Sublist p.runs :=
  List.filter_sublist.trans List.filter_sublist

theorem mem_completedRuns {p : Project} {feature : String} {environment : Option Environment} :
    run ∈ completedRuns p feature environment ↔ run ∈ p.runs ∧ run.featureId = feature ∧
      run.status = .completed ∧ ∀ asked ∈ environment, run.environment = asked := by
  rw [completedRuns, List.mem_filter, Project.runsOf, List.mem_filter]
  simp [and_assoc, Option.all_eq_true]

/-- A history goes through the completed runs of its feature, in one environment or in all, and of those
that stand for a version it shows the newest ten. In which order they are collected is left open: they are
shown in the same order. -/
theorem history_shows_newest {p : Project} (distinct : (p.runs.map (·.id)).Nodup) (feature : String)
    (environment : Option Environment) :
    let runs := completedRuns p feature environment
    let shown := history p feature environment
    (runs.Sublist p.runs ∧ ∀ run, run ∈ runs ↔ run ∈ p.runs ∧ run.featureId = feature ∧
      run.status = .completed ∧ ∀ asked ∈ environment, run.environment = asked) ∧
    ShowsNewest runs shown ∧
    (∀ run ∈ shown, run.status = .completed) ∧
    ∀ kept : List Run, kept.Nodup →
      (∀ run, run ∈ kept ↔ standing? runs run.edition = some run) →
      (kept.mergeSort comesFirst).take historyLimit = shown := by
  intro runs shown
  have keeps := keeps_newestPerVersion p feature environment
  have among : runs.Sublist p.runs := completedRuns_sublist p feature environment
  have ids := keeps.distinct_ids (distinct.sublist (among.map _))
  have newest : ShowsNewest runs shown := keeps.showsNewest ids
  refine ⟨⟨among, fun run => mem_completedRuns⟩, newest, ?_, ?_⟩
  · intro run member
    exact (mem_completedRuns.mp (mem_of_standing? (newest.stands run member)).1).2.2.1
  · intro kept once stand
    have perm : kept.Perm (newestPerVersion p feature environment) :=
      (List.perm_ext_iff_of_nodup once (List.Nodup.of_map _ keeps.distinct)).mpr fun run =>
        (stand run).trans keeps.mem_iff.symm
    exact congrArg (List.take historyLimit) (sorts.eq_of_perm ids perm.symm).symm

/-- Two runs of one version and one of another that were created at the same time, a later one in another
environment, and one in progress. -/
def leveled : Project where
  id := "p"
  name := "Cash register"
  features := [{ id := "f", name := "Sale", source := { name := "sale.feature", content := "", hash := "" } }]
  runs :=
    [{ id := "r-2", featureId := "f", createdAt := .epoch, environment := .staging, version := "2"
       status := .completed },
     { id := "r-3", featureId := "f", createdAt := .epoch, environment := .staging, version := "2"
       status := .completed },
     { id := "r-1", featureId := "f", createdAt := .epoch, environment := .staging, version := "1"
       status := .completed },
     { id := "r-4", featureId := "f", createdAt := ⟨60, 0, by decide⟩, environment := .uat
       version := "2", status := .completed },
     { id := "r-5", featureId := "f", createdAt := ⟨90, 0, by decide⟩, environment := .staging
       version := "3" }]

theorem history_shows_newest_sample : (leveled.runs.map (·.id)).Nodup ∧
    ShowsNewest (completedRuns leveled "f" none) (history leveled "f" none) ∧
    (history leveled "f" none).map (·.id) = ["r-4", "r-1", "r-2"] := by
  have distinct : (leveled.runs.map (·.id)).Nodup := by decide
  -- They are collected in the order in which they are stored, which is the wrong way round.
  have turned : history leveled "f" none = (newestPerVersion leveled "f" none).reverse := by
    rw [history, sorts.eq_of_perm (by decide) (List.reverse_perm _).symm,
      List.mergeSort_of_pairwise (by decide)]
    rfl
  refine ⟨distinct, (history_shows_newest distinct "f" none).2.1, ?_⟩
  rw [turned]
  decide

end Report

end Testbook
