import Testbook.Proofs.Feature.Renamed
import Testbook.Proofs.Store.Agreement

/-! Where features come from files only, a feature says what its file says, and a run says what its
feature says. No run outlives its feature: the runs of a feature that is replaced go with it. -/

set_option autoImplicit false

namespace Testbook

/-- One of the store's own operations, and none that takes a feature from a caller. -/
def Operation.FromFiles : Operation → Prop
  | addFeature .. => False
  | op => op.IsOwn

theorem Operation.FromFiles.own {op : Operation} (fromFiles : op.FromFiles) : op.IsOwn := by
  cases op with
  | addFeature => exact fromFiles.elim
  | _ => exact fromFiles

def Feature.IsRead (feature : Feature) : Prop :=
  ∃ ids : IdSource, feature = (ofFile ids feature.source.name feature.source.content).1

structure Run.Follows (run : Run) (feature : Feature) : Prop where
  id : feature.id = run.featureId
  outlines : run.outlines = feature.scenarios

theorem Feature.IsRead.outlines {feature : Feature} (read : feature.IsRead) :
    feature.scenarios.map Scenario.outline = feature.scenarios := by
  obtain ⟨ids, same⟩ := read
  rw [same]
  have each := ofFile_unmarked ids feature.source.name feature.source.content
  exact (List.map_congr_left fun scenario member => (each scenario member).outline).trans
    (List.map_id _)

/-! ### One project -/

-- A feature is fresh only because all ids that stand were issued, and an old feature is told from the
-- others only because names are distinct: so both are part of the invariant.
structure Grounded (ids : IdSource) (p : Project) : Prop where
  issued : ∀ feature ∈ p.features, ids.Issued feature.id
  distinct : (p.features.map (·.id)).Nodup
  names : (p.features.map (·.name)).Nodup
  read : ∀ feature ∈ p.features, feature.IsRead
  runs : ∀ run ∈ p.runs, ∃ feature ∈ p.features, run.Follows feature

namespace Grounded

variable {ids later : IdSource} {p changed : Project} {feature : Feature} {upload : Upload}

theorem mono (grounded : Grounded ids p) (before : ids.Before later) : Grounded later p :=
  { grounded with issued := fun feature member => (grounded.issued feature member).mono before }

theorem takes (grounded : Grounded ids p) (before : ids.Before later)
    (fresh : ¬ids.Issued feature.id) (issued : later.Issued feature.id) (read : feature.IsRead)
    {kept : List Feature} (kept_sub : kept.Sublist p.features)
    (apart : ∀ other ∈ kept, other.name ≠ feature.name)
    (features : changed.features.Perm (feature :: kept))
    (runs : ∀ run ∈ changed.runs, ∃ other ∈ kept, run.Follows other) : Grounded later changed where
  issued other member := by
    rcases List.mem_cons.mp (features.mem_iff.mp member) with rfl | stood
    · exact issued
    · exact (grounded.issued other (kept_sub.subset stood)).mono before
  distinct := by
    refine (features.map _).nodup_iff.mpr ?_
    rw [List.map_cons, List.nodup_cons]
    refine ⟨?_, grounded.distinct.sublist (kept_sub.map _)⟩
    intro member
    obtain ⟨other, stood, same⟩ := List.mem_map.mp member
    exact fresh (same ▸ grounded.issued other (kept_sub.subset stood))
  names := by
    refine (features.map _).nodup_iff.mpr ?_
    rw [List.map_cons, List.nodup_cons]
    refine ⟨?_, grounded.names.sublist (kept_sub.map _)⟩
    intro member
    obtain ⟨other, stood, same⟩ := List.mem_map.mp member
    exact apart other stood same
  read other member := by
    rcases List.mem_cons.mp (features.mem_iff.mp member) with rfl | stood
    · exact read
    · exact grounded.read other (kept_sub.subset stood)
  runs run member := by
    obtain ⟨other, stood, follows⟩ := runs run member
    exact ⟨other, features.mem_iff.mpr (List.mem_cons_of_mem feature stood), follows⟩

theorem addFeature (grounded : Grounded ids p) (before : ids.Before later)
    (fresh : ¬ids.Issued feature.id) (issued : later.Issued feature.id) (read : feature.IsRead)
    (result : p.addFeature feature = (upload, some changed)) : Grounded later changed := by
  rcases Project.addFeature_cases result with ⟨absent, _, rfl⟩ | ⟨old, found, _, rfl⟩
  · refine grounded.takes before fresh issued read (List.Sublist.refl p.features) ?_
      (List.perm_append_singleton _ _) grounded.runs
    intro other member
    simpa using List.find?_eq_none.mp absent other member
  · refine grounded.takes before fresh issued read List.filter_sublist ?_
      (replaceOrAppend_perm grounded.names) ?_
    · intro other member
      simpa using (List.mem_filter.mp member).2
    · -- A run that is kept is not of the old feature, which alone has the name.
      intro run member
      obtain ⟨stood, other_id⟩ := List.mem_filter.mp member
      obtain ⟨other, known, follows⟩ := grounded.runs run stood
      refine ⟨other, List.mem_filter.mpr ⟨known, ?_⟩, follows⟩
      obtain ⟨old_known, old_name⟩ := mem_of_find?_key found
      have apart : other.name ≠ feature.name := by
        intro same
        have is_old : other = old :=
          List.inj_on_of_nodup_map grounded.names known old_known (same.trans old_name.symm)
        rw [← follows.id, is_old] at other_id
        simp at other_id
      simpa using apart

end Grounded

/-! ### Any operations -/

/-- What a run says is said by its feature from the beginning, and never changes. -/
theorem Grounded.keepsRuns {op : Operation} {ids : IdSource} {p : Project} (own : op.IsOwn)
    (grounded : Grounded ids p) :
    op.KeepsRuns p fun run => ∃ feature ∈ p.features, run.Follows feature where
  begun := by
    intro template member environment version id now
    refine ⟨template, member, rfl, ?_⟩
    rw [Run.snapshot_outlines, (grounded.read template member).outlines]
  edited := by
    rintro _ _ _ found changed edits result ⟨feature, member, follows⟩
    have frame := (Operation.edited own edits result).sameFrame
    have outlines := Operation.edit?_outlines own edits result
    exact ⟨feature, member, frame.featureId ▸ follows.id, outlines.trans follows.outlines⟩
  completed := by
    rintro run now unfinished ⟨feature, member, follows⟩
    have same : (run.complete now).2.featureId = run.featureId := by
      rw [Run.complete_eq unfinished]
    exact ⟨feature, member, same ▸ follows.id, (run.complete_outlines now).trans follows.outlines⟩
  reset := by
    rintro run ⟨feature, member, follows⟩
    exact ⟨feature, member, follows.id, run.reset_outlines.trans follows.outlines⟩
  updated := by
    rintro project run rfl
    exact own.elim

theorem Operation.Changes.grounded {op : Operation} {ids later : IdSource} {p changed : Project}
    (fromFiles : op.FromFiles) (injective : Function.Injective ids.name) (before : ids.Before later)
    (changes : op.Changes ids later p changed) (grounded : Grounded ids p) :
    Grounded later changed := by
  have runs := changes.runs (grounded.keepsRuns fromFiles.own) grounded.runs
  cases changes with
  | takesFeature offers takes taken =>
    cases op with
    | uploadFeature project file content =>
      cases offers
      obtain rfl := taken rfl
      exact grounded.addFeature before (IdSource.next_not_issued injective)
        (Feature.ofFile_issued ids file content) ⟨ids, rfl⟩ takes
    | addFeature => exact fromFiles.elim
    | _ => cases offers
  | _ => exact { grounded.mono before with runs := runs }

theorem grounded_lasting :
    Lasting Operation.FromFiles fun ids p => Function.Injective ids.name → Grounded ids p where
  later before grounded injective := (grounded (before.name ▸ injective)).mono before
  created _ noFeatures noRuns _ := by constructor <;> simp [noFeatures, noRuns]
  imported fromFiles := fromFiles.elim
  changed fromFiles before changes grounded injective :=
    have injective' := before.name ▸ injective
    changes.grounded fromFiles injective' before (grounded injective')

/-- After any of the store's own operations, on any backend, where features come from files and no id is
given out twice: the features of a project have names and ids of their own, each is what its file is
read into, untested and with nothing added, whichever ids are given to it, and each run is one of a
stored feature and says what that feature says. -/
theorem runs_follow_features (kind : BackendKind) (ids : IdSource)
    (injective : Function.Injective ids.name) (ops : List Operation)
    (fromFiles : ∀ op ∈ ops, op.FromFiles) (sized : Store.Sized kind ops) {id : String} {p : Project}
    (stored : (Store.after ⟨.empty kind, ids⟩ ops).getProject id = .ok p) :
    (p.features.map (·.name)).Nodup ∧ (p.features.map (·.id)).Nodup ∧
      (∀ feature ∈ p.features,
        (∀ other : IdSource, feature.withoutIds =
          (Feature.ofFile other feature.source.name feature.source.content).1.withoutIds) ∧
        feature.scenarios.map Scenario.outline = feature.scenarios) ∧
      ∀ run ∈ p.runs, ∃ feature ∈ p.features, feature.id = run.featureId ∧
        run.scenarios.map Scenario.outline = feature.scenarios.map Scenario.outline := by
  obtain ⟨later, before, lasting⟩ := grounded_lasting.stored fromFiles sized stored
  have grounded := lasting (before.name ▸ injective)
  refine ⟨grounded.names, grounded.distinct, ?_, ?_⟩
  · intro feature member
    refine ⟨?_, (grounded.read feature member).outlines⟩
    intro other
    obtain ⟨first, same⟩ := grounded.read feature member
    rw [Feature.ofFile_withoutIds, ← Feature.ofFile_withoutIds first, ← same]
  · intro run member
    obtain ⟨feature, known, follows⟩ := grounded.runs run member
    exact ⟨feature, known, follows.id,
      follows.outlines.trans (grounded.read feature known).outlines.symm⟩

/-- A file of one scenario is taken, a run of it is opened, and its step fails. -/
theorem runs_follow_features_sample :
    let ops : List Operation := [.createProject "Shop" none,
      .uploadFeature "id-1" "login.feature" "Feature: Login\nScenario: Plain\nGiven a user",
      .openRun "id-1" "id-2" .staging "1.0" .epoch, .setStepResult "id-1" "id-5" "id-4" .failed]
    ∃ p run, (Store.after ⟨.empty .memory, .sequential "id"⟩ ops).getProject "id-1" = .ok p ∧
      run ∈ p.runs ∧ run.findStep? "id-4" =
        some { id := "id-4", keyword := .given, text := "a user", result := .failed } ∧
      ∃ feature ∈ p.features, feature.id = run.featureId ∧
        run.scenarios.map Scenario.outline = feature.scenarios.map Scenario.outline := by
  intro ops
  obtain ⟨p, run, stored, found, failed⟩ :
      ∃ p run, (Store.after ⟨.empty .memory, .sequential "id"⟩ ops).getProject "id-1" = .ok p ∧
        p.findRun? "id-5" = some run ∧ run.findStep? "id-4" =
          some { id := "id-4", keyword := .given, text := "a user", result := .failed } :=
    ⟨_, _, rfl, rfl, rfl⟩
  have member := (Project.mem_findRun? found).1
  have fromFiles : ∀ op ∈ ops, op.FromFiles := by simp [ops, Operation.FromFiles, Operation.IsOwn]
  refine ⟨p, run, stored, member, failed, ?_⟩
  exact (runs_follow_features .memory (.sequential "id") (IdSource.sequential_injective "id") ops
    fromFiles (Or.inl rfl) stored).2.2.2 run member

end Testbook
