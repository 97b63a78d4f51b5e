import Testbook.Proofs.Instant.Order
import Testbook.Proofs.Sorted
import Testbook.Store.Runs

/-! The runs of a project as they are listed: the newest first, and those created at one time as they are
stored. What is listed of a feature or of an environment is what is left of the list of all. The others are
left out before the runs are sorted; that this is no different rests on the order among runs of one time. -/

set_option autoImplicit false

namespace Testbook

namespace Run

def isOf (run : Run) (feature : Option String) : Bool := feature.all (run.featureId = ·)

def isIn (run : Run) (environment : Option Environment) : Bool := environment.all (run.environment = ·)

/-- All of the runs from the newest to the oldest, those created at one time as they come. -/
structure NewestFirst (runs listed : List Run) : Prop where
  perm : listed.Perm runs
  ordered : listed.Pairwise fun run later => later.createdAt.notAfter run.createdAt = true
  asStored : ∀ time, listed.filter (·.createdAt = time) = runs.filter (·.createdAt = time)

theorem ranks_createdAt :
    Ranks (fun a b : Run => b.createdAt.notAfter a.createdAt) (·.createdAt) where
  trans _ _ _ first second := Instant.notAfter_trans second first
  total a b := by
    rw [Bool.or_eq_true]
    exact (em _).imp_right Instant.notAfter_of_not
  level _ _ first second := Instant.notAfter_antisymm second first
  same a b same := by
    rw [same]
    exact Instant.notAfter_refl b.createdAt

theorem newestFirst_mergeSort (runs : List Run) :
    NewestFirst runs (runs.mergeSort fun a b => b.createdAt.notAfter a.createdAt) where
  perm := List.mergeSort_perm runs _
  ordered := ranks_createdAt.pairwise runs
  asStored time := ranks_createdAt.filter_rank_mergeSort runs time

theorem NewestFirst.unique {runs first second : List Run} (newest : NewestFirst runs first)
    (newest' : NewestFirst runs second) : first = second :=
  ranks_createdAt.eq_of_filter_rank newest.ordered newest'.ordered fun time =>
    (newest.asStored time).trans (newest'.asStored time).symm

end Run

namespace Project

variable (p : Project) (feature : Option String) (environment : Option Environment)

theorem newestFirst_listRuns : Run.NewestFirst p.runs (p.listRuns none none) := by
  have all := Run.newestFirst_mergeSort p.runs
  simpa [listRuns] using all

/-- Runs that are left out before sorting might as well be left out of the list. -/
theorem listRuns_eq_filter : p.listRuns feature environment =
    (p.listRuns none none).filter fun run => run.isOf feature && run.isIn environment := by
  simp only [listRuns, Option.all_none, Bool.and_self, List.filter_true]
  exact (Run.ranks_createdAt.filter_mergeSort p.runs _).symm

theorem listRuns_filter_environment :
    p.listRuns feature environment = (p.listRuns feature none).filter (·.isIn environment) := by
  rw [p.listRuns_eq_filter, p.listRuns_eq_filter feature none, List.filter_filter]
  simp [Run.isIn, Bool.and_comm]

theorem listRuns_filter_feature :
    p.listRuns feature environment = (p.listRuns none environment).filter (·.isOf feature) := by
  rw [p.listRuns_eq_filter, p.listRuns_eq_filter none environment, List.filter_filter]
  simp [Run.isOf]

end Project

namespace Store

variable {store : Store} {project : String} {p : Project}

/-- All runs of a stored project are listed from the newest to the oldest, those of one time as they are
stored, which is one list only. Asked for a feature, an environment or both, the store lists the part of it
that is of the one and in the other; and it does not matter which of the two is asked for first. -/
theorem runs_listed_newest_first (stored : store.getProject project = .ok p) :
    ∃ all, store.listRuns project none none = .ok all ∧ Run.NewestFirst p.runs all ∧
      (∀ other, Run.NewestFirst p.runs other → other = all) ∧
      ∀ feature environment,
        store.listRuns project feature environment =
          .ok (all.filter fun run => run.isOf feature && run.isIn environment) ∧
        (∃ ofFeature, store.listRuns project feature none = .ok ofFeature ∧
          store.listRuns project feature environment = .ok (ofFeature.filter (·.isIn environment))) ∧
        ∃ inEnvironment, store.listRuns project none environment = .ok inEnvironment ∧
          store.listRuns project feature environment = .ok (inEnvironment.filter (·.isOf feature)) := by
  have listed (feature : Option String) (environment : Option Environment) :
      store.listRuns project feature environment = .ok (p.listRuns feature environment) := by
    rw [listRuns, show store.load project = .ok p from stored]
    rfl
  have newest := p.newestFirst_listRuns
  refine ⟨_, listed none none, newest, fun other also => also.unique newest, ?_⟩
  intro feature environment
  refine ⟨?_, ⟨_, listed feature none, ?_⟩, ⟨_, listed none environment, ?_⟩⟩
  · rw [listed, p.listRuns_eq_filter]
  · rw [listed, p.listRuns_filter_environment]
  · rw [listed, p.listRuns_filter_feature]

/-- One run is newer than the others, which were created at the same time. -/
theorem runs_listed_newest_first_sample :
    let run (id featureId : String) (environment : Environment) : Run :=
      { id, featureId, createdAt := .epoch, environment, version := "1.0" }
    let later : Run :=
      { run "r-2" "f-2" .staging with createdAt := ⟨1, 0, by decide⟩ }
    let shop : Project :=
      { id := "shop", name := "Shop"
        runs := [run "r-1" "f-1" .staging, later, run "r-3" "f-1" .production,
          run "r-4" "f-1" .staging] }
    let store : Store := ⟨.memory [shop], .sequential "id"⟩
    store.getProject "shop" = .ok shop ∧
      store.listRuns "shop" none none = .ok [later, run "r-1" "f-1" .staging,
        run "r-3" "f-1" .production, run "r-4" "f-1" .staging] ∧
      store.listRuns "shop" (some "f-1") (some .staging) =
        .ok [run "r-1" "f-1" .staging, run "r-4" "f-1" .staging] := by
  intro run later shop store
  have stored : store.getProject "shop" = .ok shop := rfl
  obtain ⟨all, listed, -, only, parts⟩ := runs_listed_newest_first stored
  have newest : Run.NewestFirst shop.runs [later, run "r-1" "f-1" .staging,
      run "r-3" "f-1" .production, run "r-4" "f-1" .staging] := by
    refine ⟨by decide, by decide, fun time => ?_⟩
    by_cases first : later.createdAt = time
    · subst first
      decide
    · simp [shop, run, List.filter_cons, first]
  obtain rfl := only _ newest
  exact ⟨stored, listed, (parts (some "f-1") (some .staging)).1⟩

end Store

end Testbook
