import Testbook.Proofs.Except
import Testbook.Store.Runs

/-! What an operation writes: it puts one project or deletes one, or it writes nothing. Where a folder
stands in the place of the log or of the database nothing can be written. -/

set_option autoImplicit false

namespace Testbook

/-- What may become of a backend at once: one project is put or deleted, or the log is rewritten. -/
inductive Backend.Writes (backend : Backend) : Backend → Prop where
  | nothing : Writes backend backend
  | put {project : Project} {later : Backend} (done : backend.put project = .ok later) :
      Writes backend later
  | delete {id : String} {later : Backend} (done : backend.delete id = .ok later) :
      Writes backend later
  | compact {lines : Log.Shrinkage} {later : Backend} (done : backend.compact = .ok (lines, later)) :
      Writes backend later

theorem Backend.Writes.of_folder {backend later : Backend} (writes : backend.Writes later)
    (folder : backend = .log .folder ∨ backend = .table .folder) : later = backend := by
  cases writes with
  | nothing => rfl
  | put done | delete done | compact done =>
    rcases folder with rfl | rfl <;> cases done

namespace Store

variable {α β : Type} {store : Store}

theorem save_writes (store : Store) (p : Project) (answer : α) :
    store.backend.Writes (store.save p answer).2.backend := by
  unfold save
  split
  · rename_i done
    exact .put done
  · exact .nothing

theorem edit_writes (store : Store) (project : String)
    (f : Project → Except Error (α × Option Project)) :
    store.backend.Writes (store.edit project f).2.backend := by
  unfold edit
  split
  · exact .nothing
  · exact .nothing
  · exact store.save_writes _ _

theorem createProject_writes (store : Store) (name : String) (description : Option String) :
    store.backend.Writes (store.createProject name description).2.backend := by
  unfold createProject
  split
  · exact .nothing
  · exact store.takeId.2.save_writes _ _

theorem deleteProject_writes (store : Store) (project : String) :
    store.backend.Writes (store.deleteProject project).2.backend := by
  unfold deleteProject
  split
  · rename_i result
    obtain ⟨_, _, done⟩ := bind_eq_ok.mp result
    exact .delete done
  · exact .nothing

theorem importProject_writes (store : Store) (document : String) :
    store.backend.Writes (store.importProject document).2.backend := by
  unfold importProject
  split
  · exact .nothing
  · split
    · exact .nothing
    · split
      · exact .nothing
      · exact store.save_writes _ _

theorem uploadFeature_writes (store : Store) (project file content : String) :
    store.backend.Writes (store.uploadFeature project file content).2.backend :=
  edit_writes { store with ids := (Feature.ofFile store.ids file content).2 } project _

theorem openRun_writes (store : Store) (project feature : String) (environment : Environment)
    (version : String) (now : Instant) :
    store.backend.Writes (store.openRun project feature environment version now).2.backend := by
  unfold openRun
  split
  · exact .nothing
  · exact .nothing
  · split
    · exact .nothing
    · split
      · exact .nothing
      · exact store.takeId.2.save_writes _ _

theorem startRun_writes (store : Store) (project feature : String) (environment : Environment)
    (version : String) (now : Instant) :
    store.backend.Writes (store.startRun project feature environment version now).2.backend := by
  unfold startRun
  split
  · exact .nothing
  · exact .nothing
  · split
    · exact .nothing
    · exact store.openRun_writes project feature environment _ now

end Store

end Testbook
