import Mathlib.Data.List.Flatten
import Mathlib.Data.List.Pairwise
import Testbook.Proofs.Feature.Ids
import Testbook.Proofs.Run.Evidence
import Testbook.Proofs.Store.Grounded
import Testbook.Request.Performed

/-! No two things in a store have one id. Features with their scenarios and steps, runs, attachments and
projects draw on one source; ids that were drawn in vain are not given out again, and a run shares those
of its feature's scenarios and steps with the feature, since it holds a copy of them. -/

set_option autoImplicit false

namespace Testbook

def Run.ids (run : Run) : List String := run.id :: run.attached.map (·.id)

def Project.ids (p : Project) : List String :=
  p.id :: (p.features.flatMap Feature.ids ++ p.runs.flatMap Run.ids)

/-! ### Ids in the place of others -/

/-- Ids in the place of others: those that are not among the others have been issued since, and none
stands there more often. -/
def Renewed (ids later : IdSource) (old new : List String) : Prop :=
  ∃ fresh : List String, fresh.Nodup ∧ (∀ id ∈ fresh, ¬ids.Issued id ∧ later.Issued id) ∧
    ∀ id, new.count id ≤ fresh.count id + old.count id

namespace Renewed

variable {ids later : IdSource} {old new : List String} {id : String}

theorem of_count_le (fewer : ∀ id, new.count id ≤ old.count id) : Renewed ids later old new :=
  ⟨[], List.nodup_nil, by simp, by simpa using fewer⟩

theorem of_sublist (sub : new.Sublist old) : Renewed ids later old new :=
  of_count_le fun id => sub.count_le id

theorem of_fresh (fresh : ¬ids.Issued id) (issued : later.Issued id)
    (count : ∀ other, new.count other ≤ [id].count other + old.count other) :
    Renewed ids later old new :=
  ⟨[id], List.nodup_singleton id, by simpa using ⟨fresh, issued⟩, count⟩

theorem within (renewed : Renewed ids later old new) (front back : List String) :
    Renewed ids later (front ++ old ++ back) (front ++ new ++ back) := by
  obtain ⟨fresh, distinct, issued, count⟩ := renewed
  refine ⟨fresh, distinct, issued, ?_⟩
  intro id
  have := count id
  simp only [List.count_append]
  omega

theorem nodup (renewed : Renewed ids later old new) (distinct : old.Nodup)
    (issued : ∀ id ∈ old, ids.Issued id) : new.Nodup := by
  obtain ⟨fresh, freshDistinct, since, count⟩ := renewed
  refine List.nodup_iff_count_le_one.mpr ?_
  intro id
  have once := List.nodup_iff_count_le_one.mp distinct id
  have once' := List.nodup_iff_count_le_one.mp freshDistinct id
  have both := count id
  by_cases known : id ∈ old
  · have absent : fresh.count id = 0 :=
      List.count_eq_zero.mpr fun member => (since id member).1 (issued id known)
    omega
  · have absent : old.count id = 0 := List.count_eq_zero.mpr known
    omega

theorem issued (renewed : Renewed ids later old new) (before : ids.Before later)
    (issued : ∀ id ∈ old, ids.Issued id) : ∀ id ∈ new, later.Issued id := by
  obtain ⟨fresh, _, since, count⟩ := renewed
  intro id member
  have some_where := List.count_pos_iff.mpr member
  have both := count id
  by_cases known : id ∈ old
  · exact (issued id known).mono before
  · have absent : old.count id = 0 := List.count_eq_zero.mpr known
    exact (since id (List.count_pos_iff.mp (by omega))).2

end Renewed

/-! ### One project -/

section Changes

variable {op : Operation} {base ids later : IdSource} {p changed : Project} {run found : Run}
  {id : String}

theorem renewed_replaceRun (stands : p.findRun? id = some found) (same : run.id = found.id)
    (renewed : Renewed base later found.ids run.ids) :
    Renewed base later p.ids (p.replaceRun run).ids := by
  obtain ⟨front, back, runs, replaced⟩ := Project.replaceRun_split stands same
  have within := renewed.within (p.id :: (p.features.flatMap Feature.ids ++ front.flatMap Run.ids))
    (back.flatMap Run.ids)
  have features : (p.replaceRun run).features = p.features := rfl
  have id_eq : (p.replaceRun run).id = p.id := rfl
  simpa [Project.ids, runs, replaced, features, id_eq] using within

theorem Feature.IsRead.attached {feature : Feature} (read : feature.IsRead) :
    feature.scenarios.flatMap Scenario.attached = [] := by
  rw [← read.outlines, List.flatMap_map]
  simp [Scenario.outline_attached]

theorem Run.reset_ids (run : Run) : run.reset.ids = run.ids := by
  rw [ids, run.reset_attached]
  rfl

theorem Run.complete_ids (run : Run) (now : Instant) : (run.complete now).2.ids = run.ids := by
  rw [ids, run.complete_attached, ids]
  unfold complete
  split <;> rfl

theorem Run.snapshot_ids {template : Feature} (read : template.IsRead) (environment : Environment)
    (version id : String) (now : Instant) :
    (snapshot template environment version id now).ids = [id] := by
  rw [ids, snapshot_attached, read.attached]
  rfl

theorem flatMap_ids_resetEach (feature : String) (done rest : List Run) :
    (resetEach feature done rest).1.flatMap Run.ids = (done ++ rest).flatMap Run.ids := by
  induction rest generalizing done with
  | nil => simp [resetEach]
  | cons run rest ih =>
    unfold resetEach
    split
    · simp [ih, run.reset_ids]
    · simp [ih]

theorem count_ids_addFeature {feature : Feature} {upload : Upload}
    (takes : p.addFeature feature = (upload, some changed)) (id : String) :
    changed.ids.count id ≤ feature.ids.count id + p.ids.count id := by
  rcases Project.addFeature_cases takes with ⟨_, _, rfl⟩ | ⟨old, stands, _, rfl⟩
  · simp only [Project.ids, List.flatMap_append, List.flatMap_singleton, List.count_cons,
      List.count_append]
    omega
  · obtain ⟨front, back, features, replaced⟩ := replaceOrAppend_split feature stands
    have kept : (p.runs.filter (·.featureId ≠ old.id)).Sublist p.runs := List.filter_sublist
    have runs := (kept.flatMap Run.ids).count_le id
    rw [Project.ids, Project.ids, Project.replaceFeature, replaced, features]
    simp only [List.flatMap_append, List.flatMap_cons, List.count_cons, List.count_append]
    omega

/-- A run keeps its id and what was attached to it, and may get an attachment with a fresh id. -/
theorem Run.renewed_attached {added? : Option Attachment} (same : run.id = found.id)
    (attached : run.attached.Perm (added?.toList ++ found.attached))
    (fresh : ∀ attachment, added? = some attachment →
      ¬base.Issued attachment.id ∧ later.Issued attachment.id) :
    Renewed base later found.ids run.ids := by
  have count (id : String) : run.ids.count id =
      (added?.toList.map (·.id)).count id + found.ids.count id := by
    rw [Run.ids, Run.ids, same, List.count_cons, List.count_cons, (attached.map _).count_eq,
      List.map_append, List.count_append, Nat.add_assoc]
  cases added? with
  | none => exact .of_count_le fun id => by simp [count id]
  | some attachment =>
    obtain ⟨unissued, issued⟩ := fresh attachment rfl
    exact .of_fresh unissued issued fun id => (count id).le

/-- What an operation does to the ids in a project, where an attachment that it adds has an id that has
just been issued. -/
theorem Operation.Changes.renewed (changes : op.Changes ids later p changed)
    (fromFiles : op.FromFiles) (injective : Function.Injective ids.name) (earlier : base.Before ids)
    (before : ids.Before later) (grounded : Grounded ids p)
    (attaches : ∀ attachment, op.attachment? = some attachment →
      ¬base.Issued attachment.id ∧ later.Issued attachment.id) :
    Renewed base later p.ids changed.ids := by
  have coming {id : String} (next : ¬ids.Issued id) : ¬base.Issued id :=
    fun issued => next (issued.mono earlier)
  cases changes with
  | takesFeature offers takes taken =>
    cases op with
    | uploadFeature project file content =>
      cases offers
      obtain rfl := taken rfl
      refine ⟨_, Feature.nodup_ofFile_ids injective file content, ?_, count_ids_addFeature takes⟩
      obtain ⟨skipped, upcoming⟩ := Feature.ofFile_ids ids file content
      intro id member
      rw [upcoming] at member
      rw [skipped]
      exact (IdSource.upcoming_fresh injective member).imp_left coming
    | addFeature => exact fromFiles.elim
    | _ => cases offers
  | beginsRun asks valid free known taken =>
    subst taken
    have read := grounded.read _ (Project.mem_getFeature known).1
    refine .of_fresh (coming (IdSource.next_not_issued injective)) (IdSource.next_issued ids) ?_
    intro other
    simp only [Project.ids, Project.addRun, List.flatMap_append, List.flatMap_singleton,
      Run.snapshot_ids read, List.count_cons, List.count_append]
    omega
  | editsRun edits stands result =>
    have frame := (Operation.edited fromFiles.own edits result).sameFrame
    have attached := Operation.edit?_attached fromFiles.own edits result
    exact renewed_replaceRun stands frame.id (Run.renewed_attached frame.id attached attaches)
  | completesRun stands unfinished =>
    refine renewed_replaceRun stands (by rw [Run.complete_eq unfinished]) ?_
    rw [Run.complete_ids]
    exact .of_sublist (.refl _)
  | @resetsRun _ found stands =>
    refine renewed_replaceRun stands rfl ?_
    rw [found.reset_ids]
    exact .of_sublist (.refl _)
  | @resetsFeature feature =>
    refine .of_count_le ?_
    intro id
    rw [Project.ids, Project.ids, flatMap_ids_resetEach]
    exact Nat.le_refl _
  | forgetsRuns =>
    refine .of_sublist ?_
    simp [Project.ids]
  | updatesRun => exact fromFiles.own.elim

end Changes

/-! ### All projects -/

structure Unshared (ids : IdSource) (live : List Project) : Prop where
  nodup : (live.flatMap Project.ids).Nodup
  issued : ∀ id ∈ live.flatMap Project.ids, ids.Issued id
  grounded : ∀ p ∈ live, Grounded ids p

section Shelves

variable {op : Operation} {base ids later : IdSource} {live live' : List Project}

theorem Unshared.id_issued (unshared : Unshared ids live) {p : Project} (member : p ∈ live) :
    ids.Issued p.id :=
  unshared.issued p.id (List.mem_flatMap.mpr ⟨p, member, List.mem_cons_self⟩)

theorem Operation.Effect.renewed (effect : op.Effect ids live later live') (fromFiles : op.FromFiles)
    (injective : Function.Injective ids.name) (earlier : base.Before ids)
    (unshared : Unshared base live)
    (attaches : ∀ attachment, op.attachment? = some attachment →
      ¬base.Issued attachment.id ∧ later.Issued attachment.id) :
    Renewed base later (live.flatMap Project.ids) (live'.flatMap Project.ids) := by
  cases effect with
  | unchanged => exact .of_sublist (.refl _)
  | @created _ _ p asks fresh noFeatures noRuns =>
    have next := IdSource.next_not_issued injective
    have apart : ∀ q ∈ live, q.id ≠ p.id := by
      intro q member same
      exact next (fresh ▸ same ▸ (unshared.id_issued member).mono earlier)
    have ids_eq : p.ids = [ids.next.1] := by simp [Project.ids, fresh, noFeatures, noRuns]
    refine .of_fresh (fun issued => next (issued.mono earlier)) (IdSource.next_issued ids) ?_
    intro id
    rw [Shelf.put_fresh apart, List.flatMap_append, List.flatMap_singleton, ids_eq, List.count_append]
    omega
  | removed => exact .of_sublist (List.filter_sublist.flatMap Project.ids)
  | imported asks =>
    subst asks
    exact fromFiles.elim
  | changed before stands changes =>
    have grounded := (unshared.grounded _ (Shelf.mem_of_get? stands).1).mono earlier
    have renewed := changes.renewed fromFiles injective earlier before grounded attaches
    rw [← changes.id_eq] at stands
    obtain ⟨front, back, same, replaced⟩ := replaceOrAppend_split _ stands
    rw [Shelf.put, replaced, same]
    simpa using renewed.within (front.flatMap Project.ids) (back.flatMap Project.ids)

theorem Unshared.effect (unshared : Unshared base live) (fromFiles : op.FromFiles)
    (injective : Function.Injective ids.name) (earlier : base.Before ids)
    (effect : op.Effect ids live later live')
    (attaches : ∀ attachment, op.attachment? = some attachment →
      ¬base.Issued attachment.id ∧ later.Issued attachment.id) :
    ids.Before later ∧ Unshared later live' := by
  obtain ⟨before, grounded⟩ := grounded_lasting.effect fromFiles effect
    fun p member _ => (unshared.grounded p member).mono earlier
  have renewed := effect.renewed fromFiles injective earlier unshared attaches
  exact ⟨before, renewed.nodup unshared.nodup unshared.issued,
    renewed.issued (earlier.trans before) unshared.issued,
    fun p member => grounded p member (before.name ▸ injective)⟩

end Shelves

/-! ### Attaching -/

inductive Call : Type 1 where
  | operation (op : Operation)
  | attach (project run : String) (target : Target) (attachment : String → Attachment)

namespace Call

def perform : Call → Store → Store
  | operation op, store => (op.perform store).2
  | attach project run target attachment, store =>
    (store.attach project run target attachment).2

/-- Features come from files, and attachments from a call that takes an id for them. -/
def Regular : Call → Prop
  | operation op => op.FromFiles ∧ op.attachment? = none
  | attach _ _ _ attachment => ∀ id, (attachment id).id = id

def Fits : Call → Prop
  | operation op => op.Fits
  | attach .. => True

def addition (project run : String) (attachment : Attachment) : Target → Operation
  | .step step => .addStepAttachment project run step attachment
  | .scenario scenario => .addScenarioAttachment project run scenario attachment

theorem perform_attach (project run : String) (target : Target) (attachment : String → Attachment)
    (store : Store) :
    (attach project run target attachment).perform store =
      store.after [.takeId, addition project run (attachment store.ids.next.1) target] := by
  cases target <;> rfl

end Call

def Store.called (store : Store) (calls : List Call) : Store :=
  calls.foldl (fun store call => call.perform store) store

section Calls

variable {store : Store} {kind : BackendKind} {live : List Project} {ids : IdSource}

theorem Unshared.call {call : Call} (unshared : Unshared ids live) (keeps : store.Keeps kind live ids)
    (small : Store.Small kind live) (sized : kind = .memory ∨ call.Fits) (regular : call.Regular)
    (injective : Function.Injective ids.name) :
    ∃ live' later, (call.perform store).Keeps kind live' later ∧ Store.Small kind live' ∧
      ids.Before later ∧ Unshared later live' := by
  cases call with
  | operation op =>
    obtain ⟨fromFiles, noAttachment⟩ := regular
    obtain ⟨live', later, _, effect, small', kept⟩ := Store.perform_step op keeps small sized
    obtain ⟨before, unshared'⟩ := unshared.effect fromFiles injective (.refl ids) effect
      (by simp [noAttachment])
    exact ⟨live', later, kept, small', before, unshared'⟩
  | attach project run target attachment =>
    -- The id is taken first, so that it is fresh for the shelf as it was, and issued for the attachment.
    obtain ⟨live₁, next, same, _, small₁, kept₁⟩ :=
      Store.perform_step .takeId keeps small (Or.inr trivial)
    obtain ⟨⟩ : (⟨.memory live, ids.next.2⟩ : Store) = ⟨.memory live₁, next⟩ :=
      congrArg Prod.snd same
    rw [Call.perform_attach, Store.after_cons, Store.after_cons, Store.after_nil, keeps.ids]
    have name : (attachment ids.next.1).id = ids.next.1 := regular _
    generalize added : Call.addition project run (attachment ids.next.1) target = op
    obtain ⟨fromFiles, fits, adds⟩ :
        op.FromFiles ∧ op.Fits ∧ op.attachment? = some (attachment ids.next.1) := by
      subst added
      cases target <;> exact ⟨trivial, trivial, rfl⟩
    obtain ⟨live', later, _, effect, small', kept⟩ :=
      Store.perform_step op kept₁ small₁ (Or.inr fits)
    have before := IdSource.before_next ids
    obtain ⟨before', _⟩ := grounded_lasting.effect fromFiles effect
      fun p member _ => (unshared.grounded p member).mono before
    have attaches : ∀ other, op.attachment? = some other →
        ¬ids.Issued other.id ∧ later.Issued other.id := by
      intro other same
      rw [adds] at same
      cases same
      rw [name]
      exact ⟨IdSource.next_not_issued injective, (IdSource.next_issued ids).mono before'⟩
    obtain ⟨_, unshared'⟩ := unshared.effect fromFiles (before.name ▸ injective) before effect attaches
    exact ⟨live', later, kept, small', before.trans before', unshared'⟩

-- By induction on the calls.
theorem Unshared.called {calls : List Call} (unshared : Unshared ids live)
    (keeps : store.Keeps kind live ids) (small : Store.Small kind live)
    (sized : kind = .memory ∨ ∀ call ∈ calls, call.Fits) (regular : ∀ call ∈ calls, call.Regular)
    (injective : Function.Injective ids.name) :
    ∃ live' later, (store.called calls).Keeps kind live' later ∧ Unshared later live' := by
  induction calls generalizing store live ids with
  | nil => exact ⟨live, ids, keeps, unshared⟩
  | cons call calls ih =>
    obtain ⟨live₁, next, kept, small₁, before, unshared₁⟩ := unshared.call keeps small
      (sized.imp_right fun fits => fits call List.mem_cons_self) (regular call List.mem_cons_self)
      injective
    exact ih unshared₁ kept small₁
      (sized.imp_right fun fits other member => fits other (List.mem_cons_of_mem call member))
      (fun other member => regular other (List.mem_cons_of_mem call member))
      (before.name ▸ injective)

end Calls

/-! ### What is found by an id -/

theorem map_sublist_flatMap {α β : Type} {f : α → β} {g : α → List β} (among : ∀ x, f x ∈ g x)
    (xs : List α) : (xs.map f).Sublist (xs.flatMap g) := by
  rw [List.map_eq_flatMap]
  exact List.Sublist.flatMap_right xs fun x _ => List.singleton_sublist.mpr (among x)

theorem Scenario.outline_ids (scenario : Scenario) : scenario.outline.ids = scenario.ids := by
  simp [ids, outline, Step.outline, Function.comp_def]

/-- Each thing in the project is the one that is found by its id. -/
structure Project.Unambiguous (p : Project) : Prop where
  features : ∀ feature ∈ p.features, p.findFeature? feature.id = some feature
  runs : ∀ run ∈ p.runs, p.findRun? run.id = some run
  scenarios : ∀ run ∈ p.runs, ∀ scenario ∈ run.scenarios,
    run.findScenario? scenario.id = some scenario
  steps : ∀ run ∈ p.runs, ∀ scenario ∈ run.scenarios, ∀ step ∈ scenario.steps,
    run.findStep? step.id = some step ∧
      run.scenarios.find? (·.hasStep step.id) = some scenario

section Found

variable {p : Project} {run : Run} {scenario : Scenario} {step : Step} {ids : IdSource}

theorem Project.nodup_run (grounded : Grounded ids p) (distinct : p.ids.Nodup) (member : run ∈ p.runs) :
    (run.scenarios.flatMap Scenario.ids).Nodup := by
  obtain ⟨feature, known, follows⟩ := grounded.runs run member
  have same : run.scenarios.flatMap Scenario.ids = feature.scenarios.flatMap Scenario.ids := by
    rw [← follows.outlines, Run.outlines, List.flatMap_map]
    exact List.flatMap_congr fun scenario _ => scenario.outline_ids.symm
  have parts := (List.nodup_append.mp (List.nodup_cons.mp distinct).2).1
  have own := (List.nodup_flatMap.mp parts).1 feature known
  rw [same]
  exact (List.nodup_cons.mp own).2

theorem Run.findScenario?_of_mem (distinct : (run.scenarios.flatMap Scenario.ids).Nodup)
    (member : scenario ∈ run.scenarios) : run.findScenario? scenario.id = some scenario := by
  have among (scenario : Scenario) : scenario.id ∈ scenario.ids := List.mem_cons_self
  exact find?_key_of_mem (distinct.sublist (map_sublist_flatMap among run.scenarios)) member

theorem Run.findStep?_of_mem (distinct : (run.scenarios.flatMap Scenario.ids).Nodup)
    (member : scenario ∈ run.scenarios) (stands : step ∈ scenario.steps) :
    run.findStep? step.id = some step := by
  have part (scenario : Scenario) : (scenario.steps.map (·.id)).Sublist scenario.ids :=
    List.sublist_cons_self _ _
  have steps : ((run.scenarios.flatMap (·.steps)).map (·.id)).Nodup := by
    rw [List.map_flatMap]
    exact distinct.sublist (List.Sublist.flatMap_right _ fun scenario _ => part scenario)
  exact find?_key_of_mem steps (List.mem_flatMap.mpr ⟨scenario, member, stands⟩)

theorem Run.find?_hasStep_of_mem (distinct : (run.scenarios.flatMap Scenario.ids).Nodup)
    (member : scenario ∈ run.scenarios) (stands : step ∈ scenario.steps) :
    run.scenarios.find? (·.hasStep step.id) = some scenario := by
  have has (scenario : Scenario) :
      scenario.hasStep step.id = true ↔ step.id ∈ scenario.steps.map (·.id) := by
    simp [Scenario.hasStep]
  have here : step.id ∈ scenario.steps.map (·.id) := List.mem_map.mpr ⟨step, stands, rfl⟩
  cases found : run.scenarios.find? (·.hasStep step.id) with
  | none => exact absurd ((has scenario).mpr here) (List.find?_eq_none.mp found scenario member)
  | some first =>
    have there := (has first).mp (List.find?_some (p := fun s : Scenario => s.hasStep step.id) found)
    have apart := (List.nodup_flatMap.mp distinct).2
    have symm : Std.Symm (Function.onFun List.Disjoint Scenario.ids) :=
      ⟨fun _ _ disjoint _ left right => disjoint right left⟩
    by_contra other
    have different : first ≠ scenario := fun same => other (congrArg some same)
    have disjoint := apart.forall (List.mem_of_find?_eq_some found) member different
    exact disjoint (List.mem_cons_of_mem _ there) (List.mem_cons_of_mem _ here)

theorem Project.unambiguous (grounded : Grounded ids p) (distinct : p.ids.Nodup) : p.Unambiguous where
  features feature member := find?_key_of_mem grounded.distinct member
  runs run member := by
    have among (run : Run) : run.id ∈ run.ids := List.mem_cons_self
    have parts := (List.nodup_append.mp (List.nodup_cons.mp distinct).2).2.1
    exact findRun?_of_mem (parts.sublist (map_sublist_flatMap among p.runs)) member
  scenarios run member scenario stands :=
    Run.findScenario?_of_mem (nodup_run grounded distinct member) stands
  steps run member scenario stands step has :=
    have apart := nodup_run grounded distinct member
    ⟨Run.findStep?_of_mem apart stands has, Run.find?_hasStep_of_mem apart stands has⟩

end Found

/-- Attaching a file calls the store with an attachment that takes the id that it is given, or fails
before that. -/
theorem Session.attach_calls (session : Session) (project run : String) (target : Target)
    (file : String) (mime : Option String) (now : Instant) :
    (∃ e, session.attach project run target file mime now = (.error e, session)) ∨
      ∃ attachment present, (∀ id, (attachment id).id = id) ∧
        session.attach project run target file mime now =
          session.answer (·.attach project run target attachment) present := by
  unfold attach
  split
  · exact Or.inl ⟨_, rfl⟩
  · exact Or.inl ⟨_, rfl⟩
  · exact Or.inr ⟨_, _, fun _ => rfl, rfl⟩

/-- After any of the store's own operations and of attachments that are added under new ids, on any backend,
where features come from files and no id is given out twice: the ids of all projects, of their features
with scenarios and steps, of their runs and of all attachments are different and have been issued, in
each run those of scenarios and steps are different, and what is looked for by its id is found, with
nothing else in its way. -/
theorem ids_never_shared (kind : BackendKind) (ids : IdSource) (injective : Function.Injective ids.name)
    (calls : List Call) (regular : ∀ call ∈ calls, call.Regular)
    (sized : kind = .memory ∨ ∀ call ∈ calls, call.Fits) :
    let store := Store.called ⟨.empty kind, ids⟩ calls
    (∃ projects, store.listProjects = .ok projects ∧
      (∀ p, p ∈ projects ↔ store.getProject p.id = .ok p) ∧
      (projects.flatMap Project.ids).Nodup ∧
      (∀ id ∈ projects.flatMap Project.ids, store.ids.Issued id) ∧
      ∀ p ∈ projects, p.Unambiguous ∧
        ∀ run ∈ p.runs, (run.scenarios.flatMap Scenario.ids).Nodup) ∧
    ∀ (session : Session) (project run : String) (target : Target) (file : String)
      (mime : Option String) (now : Instant),
      (∃ e, session.attach project run target file mime now = (.error e, session)) ∨
        ∃ attachment present, (∀ id, (attachment id).id = id) ∧
          session.attach project run target file mime now =
            session.answer (·.attach project run target attachment) present := by
  intro store
  refine ⟨?_, Session.attach_calls⟩
  have nothing : Unshared ids [] := ⟨List.nodup_nil, by simp, by simp⟩
  obtain ⟨live, later, kept, unshared⟩ :=
    nothing.called (Store.keeps_empty kind ids) (Store.small_nil kind) sized regular injective
  have perm := (Shelf.listed_perm_self live).flatMap_right Project.ids
  have distinct := perm.nodup_iff.mpr unshared.nodup
  refine ⟨Shelf.listed live, kept.backend.list, ?_, distinct, ?_, ?_⟩
  · intro p
    rw [Shelf.mem_listed_iff kept.backend.distinct, kept.getProject_eq_ok]
  · intro id member
    rw [kept.ids]
    exact unshared.issued id (perm.mem_iff.mp member)
  · intro p member
    have own := (List.nodup_flatMap.mp distinct).1 p member
    have grounded := unshared.grounded p ((Shelf.listed_perm_self live).mem_iff.mp member)
    exact ⟨Project.unambiguous grounded own, fun run stands => Project.nodup_run grounded own stands⟩

/-- A picture is attached to the one step of a run, after one for which there is no such step. -/
theorem ids_never_shared_sample :
    let picture (id : String) : Attachment :=
      { id, name := "shot.png", kind := .image, url := "", uploadedAt := .epoch }
    let calls : List Call := [.operation (.createProject "Shop" none),
      .operation (.uploadFeature "id-1" "login.feature" "Feature: Login\nScenario: Plain\nGiven a user"),
      .operation (.openRun "id-1" "id-2" .staging "1.0" .epoch),
      .attach "id-1" "id-5" (.step "id-9") picture, .attach "id-1" "id-5" (.step "id-4") picture]
    ∃ p, (Store.called ⟨.empty .memory, .sequential "id"⟩ calls).getProject "id-1" = .ok p ∧
      p.ids = ["id-1", "id-2", "id-3", "id-4", "id-5", "id-7"] ∧ p.Unambiguous := by
  intro picture calls
  obtain ⟨p, stored, p_id, own⟩ :
      ∃ p, (Store.called ⟨.empty .memory, .sequential "id"⟩ calls).getProject "id-1" = .ok p ∧
        p.id = "id-1" ∧ p.ids = ["id-1", "id-2", "id-3", "id-4", "id-5", "id-7"] :=
    ⟨_, rfl, by decide +kernel, by decide +kernel⟩
  have regular : ∀ call ∈ calls, call.Regular := by
    simp [calls, Call.Regular, Operation.FromFiles, Operation.IsOwn, Operation.attachment?, picture]
  obtain ⟨projects, _, all, _, _, each⟩ := (ids_never_shared .memory (.sequential "id")
    (IdSource.sequential_injective "id") calls regular (Or.inl rfl)).1
  exact ⟨p, stored, own, (each p ((all p).mpr (p_id ▸ stored))).1⟩

end Testbook
