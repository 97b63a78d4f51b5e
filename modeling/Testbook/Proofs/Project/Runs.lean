import Testbook.Proofs.Except
import Testbook.Proofs.First
import Testbook.Project.Features
import Testbook.Project.Runs

/-! What is found in a project, and what is still found there when its runs or its features have
changed. -/

set_option autoImplicit false

namespace Testbook

theorem versionOf_eq_ok {text version : String} :
    versionOf text = .ok version ↔ Text.trimmed? text = some version := by
  unfold versionOf
  cases Text.trimmed? text <;> simp

/-! ### One run after another -/

theorem mem_resetEach {feature : String} {done rest : List Run} {run : Run}
    (member : run ∈ (resetEach feature done rest).1) :
    run ∈ done ∨ run ∈ rest ∨ ∃ before ∈ rest, run = before.reset := by
  induction rest generalizing done with
  | nil => exact Or.inl member
  | cons first rest ih =>
    unfold resetEach at member
    split at member
    · rcases ih member with early | later | ⟨before, stood, rfl⟩
      · rcases List.mem_append.mp early with early | new
        · exact Or.inl early
        · exact Or.inr (Or.inr ⟨first, List.mem_cons_self, List.mem_singleton.mp new⟩)
      · exact Or.inr (Or.inl (List.mem_cons_of_mem first later))
      · exact Or.inr (Or.inr ⟨before, List.mem_cons_of_mem first stood, rfl⟩)
    · rcases ih member with early | later | ⟨before, stood, rfl⟩
      · rcases List.mem_append.mp early with early | same
        · exact Or.inl early
        · exact Or.inr (Or.inl (List.mem_cons.mpr (Or.inl (List.mem_singleton.mp same))))
      · exact Or.inr (Or.inl (List.mem_cons_of_mem first later))
      · exact Or.inr (Or.inr ⟨before, List.mem_cons_of_mem first stood, rfl⟩)

/-- A run of another feature keeps its place when the runs of a feature are reset. -/
theorem find?_resetEach {feature id : String} {done rest : List Run} {run : Run}
    (found : (done ++ rest).find? (·.id = id) = some run) (other : run.featureId ≠ feature) :
    (resetEach feature done rest).1.find? (·.id = id) = some run := by
  induction rest generalizing done with
  | nil => simpa [resetEach] using found
  | cons first rest ih =>
    unfold resetEach
    split
    · rename_i asked
      refine ih ?_
      rw [List.append_assoc, List.find?_append] at *
      cases early : done.find? (·.id = id) with
      | some run' => simpa [early] using found
      | none =>
        by_cases hit : first.id = id
        · simp only [early, Option.none_or, List.find?_cons, hit, decide_true, Option.some.injEq]
            at found
          exact absurd (found ▸ asked.1) other
        · simpa [early, hit, Run.reset] using found
    · exact ih (by simpa using found)

namespace Project

variable {α : Type} {p changed : Project} {feature : Feature} {upload : Upload} {run new : Run}
  {id : String}

/-! ### What is found -/

theorem mem_findRun? (found : p.findRun? id = some run) : run ∈ p.runs ∧ run.id = id :=
  mem_of_find?_key found

theorem findRun?_of_mem (distinct : (p.runs.map (·.id)).Nodup) (member : run ∈ p.runs) :
    p.findRun? run.id = some run :=
  find?_key_of_mem distinct member

theorem getRun_eq_ok : p.getRun id = .ok run ↔ p.findRun? id = some run := by
  unfold getRun
  cases p.findRun? id <;> simp

theorem mem_getFeature (found : p.getFeature id = .ok feature) :
    feature ∈ p.features ∧ feature.id = id := by
  unfold getFeature at found
  cases first : p.findFeature? id with
  | none => simp [first] at found
  | some stored =>
    simp only [first, Except.ok.injEq] at found
    subst found
    exact mem_of_find?_key first

theorem getFeature_of_mem (member : feature ∈ p.features) :
    ∃ found, p.getFeature feature.id = .ok found := by
  unfold getFeature findFeature?
  cases found : p.features.find? (·.id = feature.id) with
  | none => simpa using List.find?_eq_none.mp found feature member
  | some first => exact ⟨first, rfl⟩

/-! ### After a run has changed -/

theorem mutateRun_found (found : p.findRun? id = some run) (f : Run → Except Error α × Run) :
    p.mutateRun id f =
      (f run).1.map fun answer => ((answer, (f run).2), p.replaceRun (f run).2) := by
  rw [mutateRun, getRun_eq_ok.mpr found]
  rfl

theorem mutateRun_eq_ok {f : Run → Except Error α × Run} {answer : α × Run} :
    p.mutateRun id f = .ok (answer, changed) ↔
      ∃ found, p.findRun? id = some found ∧ f found = (.ok answer.1, answer.2) ∧
        p.replaceRun answer.2 = changed := by
  constructor
  · intro done
    obtain ⟨found, stands, _⟩ := bind_eq_ok.mp done
    rw [mutateRun_found (getRun_eq_ok.mp stands)] at done
    obtain ⟨given, made, same⟩ := map_eq_ok.mp done
    cases same
    exact ⟨found, getRun_eq_ok.mp stands, Prod.ext made rfl, rfl⟩
  · rintro ⟨found, stands, made, rfl⟩
    rw [mutateRun_found stands, made]
    rfl

theorem mem_replaceRun (member : run ∈ (p.replaceRun new).runs) : run = new ∨ run ∈ p.runs := by
  rcases mem_modifyFirst member with stays | ⟨_, _, _, rfl⟩
  · exact Or.inr stays
  · exact Or.inl rfl

theorem replaceRun_split (found : p.findRun? id = some run) (same : new.id = run.id) :
    ∃ before after, p.runs = before ++ run :: after ∧
      (p.replaceRun new).runs = before ++ new :: after := by
  have id_eq : new.id = id := same.trans (mem_findRun? found).2
  exact modifyFirst_split (fun _ => new) (id_eq ▸ found)

theorem findRun?_replaceRun_same (found : p.findRun? id = some run) (same : new.id = run.id) :
    (p.replaceRun new).findRun? id = some new := by
  have id_eq : id = new.id := ((mem_findRun? found).2.symm.trans same.symm)
  subst id_eq
  exact find?_modifyFirst_same found

theorem findRun?_replaceRun_other (other : id ≠ new.id) :
    (p.replaceRun new).findRun? id = p.findRun? id :=
  find?_modifyFirst_other other

theorem findRun?_addRun (found : p.findRun? id = some run) : (p.addRun new).findRun? id = some run := by
  unfold findRun? at found ⊢
  rw [addRun, List.find?_append, found]
  rfl

/-! ### After a feature was taken -/

/-- Taking a feature adds it where none has its name, or puts it in the place of the one that has, whose
runs go. -/
theorem addFeature_cases (takes : p.addFeature feature = (upload, some changed)) :
    (p.features.find? (·.name = feature.name) = none ∧ upload = .added feature.id ∧
        changed = { p with features := p.features ++ [feature] }) ∨
      ∃ old, p.features.find? (·.name = feature.name) = some old ∧
        upload = .replaced feature.id old.id (p.runs.countP (·.featureId = old.id)) ∧
        changed = p.replaceFeature old.id feature := by
  unfold addFeature at takes
  split at takes
  · rename_i absent
    cases takes
    exact Or.inl ⟨absent, rfl, rfl⟩
  · rename_i old found
    split at takes
    · cases takes
    · cases takes
      exact Or.inr ⟨old, found, rfl, rfl⟩

theorem addFeature_keeps (takes : p.addFeature feature = (upload, some changed)) :
    changed.id = p.id ∧ ∀ run ∈ changed.runs, run ∈ p.runs := by
  rcases addFeature_cases takes with ⟨_, _, rfl⟩ | ⟨_, _, _, rfl⟩
  · exact ⟨rfl, fun run member => member⟩
  · exact ⟨rfl, fun run member => (List.mem_filter.mp member).1⟩

theorem findRun?_replaceFeature {previous : String}
    (found : p.findRun? id = some run) (other : run.featureId ≠ previous) :
    (p.replaceFeature previous feature).findRun? id = some run := by
  unfold findRun? at found ⊢
  rw [replaceFeature, List.find?_filter]
  obtain ⟨holds, front, back, runs, none⟩ := List.find?_eq_some_iff_append.mp found
  refine List.find?_eq_some_iff_append.mpr ⟨by simp [holds, other], front, back, runs, ?_⟩
  intro run' member
  have := none run' member
  simp_all

end Project

end Testbook
