import Testbook.Proofs.Directory
import Testbook.Proofs.Store.Log
import Testbook.Store.Backend

/-! What a backend keeps is a list of projects, each under its own id. Whether it stands on a shelf, is
told by a log or is written in the rows of a table, the backend answers from this list, and its
operations do to it what they do to a shelf. -/

set_option autoImplicit false

namespace Testbook

namespace Table

variable {live : List Project}

theorem projectOf_rowOf {p : Project} (fits : ∀ run ∈ p.runs, run.summary.Fits) :
    projectOf (rowOf p) = .ok p := by
  simp [projectOf, rowOf, p.ofText?_compact fits]

theorem get?_rows (fits : ∀ p ∈ live, p.Fits) (id : String) :
    get? (live.map rowOf) id = .ok (Shelf.get? live id) := by
  have rows : (live.map rowOf).find? (·.id = id) = (Shelf.get? live id).map rowOf := List.find?_map ..
  rw [get?, rows]
  cases found : Shelf.get? live id with
  | none => rfl
  | some p =>
    have p_fits := fits p (Shelf.mem_of_get? found).1
    simp [projectOf_rowOf p_fits.summaries, Except.map]

theorem put_rows (p : Project) : put (live.map rowOf) p = (Shelf.put live p).map rowOf :=
  map_replaceOrAppend rowOf _

theorem remove_rows (id : String) : remove (live.map rowOf) id = (Shelf.remove live id).map rowOf :=
  List.filter_map ..

theorem mapM_projectOf (fits : ∀ p ∈ live, p.Fits) :
    (live.map rowOf).mapM projectOf = .ok live := by
  induction live with
  | nil => rfl
  | cons p live ih =>
    have others := ih fun q member => fits q (List.mem_cons_of_mem p member)
    rw [List.map_cons, List.mapM_cons, projectOf_rowOf (fits p List.mem_cons_self).summaries, others]
    rfl

-- Rows bear the id and the name of their project, so that they are sorted as the projects are.
theorem listed_rows (fits : ∀ p ∈ live, p.Fits) :
    listed (live.map rowOf) = .ok (Shelf.listed live) := by
  have sorted : (Shelf.listed live).map rowOf = (live.map rowOf).mergeSort comesFirst :=
    List.map_mergeSort fun _ _ _ _ => rfl
  rw [listed, ← sorted]
  exact mapM_projectOf fun p member => fits p ((Shelf.listed_perm_self live).mem_iff.mp member)

end Table

namespace Backend

/-- What a backend keeps. Outside of memory only projects that can be read back are kept. -/
inductive Keeps : Backend → List Project → Prop where
  | memory {live : List Project} (distinct : Shelf.Distinct live) : Keeps (.memory live) live
  | log {content : String} {live : List Project} (distinct : Shelf.Distinct live)
      (fits : ∀ p ∈ live, p.Fits) (tells : Log.Tells content live) :
      Keeps (.log (.file content.toByteArray)) live
  | table {live : List Project} (distinct : Shelf.Distinct live) (fits : ∀ p ∈ live, p.Fits) :
      Keeps (.table (.table (live.map Table.rowOf))) live

def empty : BackendKind → Backend
  | .memory => .memory []
  | .file => .log (.file .empty)
  | .sqlite => .table (.table [])

theorem empty_kind (kind : BackendKind) : (empty kind).kind = kind := by
  cases kind <;> rfl

theorem empty_keeps (kind : BackendKind) : (empty kind).Keeps [] := by
  cases kind with
  | memory => exact .memory Shelf.distinct_nil
  | file => exact .log Shelf.distinct_nil (by simp) Log.Tells.empty
  | sqlite => exact .table Shelf.distinct_nil (by simp)

theorem logText_file (content : String) : logText (.file content.toByteArray) = .ok content := by
  simp [logText, Entry.bytes, Directory.textOf_toByteArray, Except.bind, Except.mapError]

theorem extend_file (content : String) (record : LogRecord) :
    extend (.file content.toByteArray) record =
      .ok (.log (.file (content ++ Log.line record).toByteArray)) := by
  simp [extend, Entry.bytes, Except.mapError, bind, Except.bind, String.toByteArray_append]

theorem get?_file (content id : String) :
    (log (.file content.toByteArray)).get? id = .ok (Shelf.get? (Log.replay content) id) := by
  simp [get?, logText_file, Except.map]

theorem list_file (content : String) :
    (log (.file content.toByteArray)).list = .ok (Shelf.listed (Log.replay content)) := by
  simp [list, logText_file, Except.map]

theorem compact_file (content : String) :
    (log (.file content.toByteArray)).compact =
      .ok (Log.shrinkage content, log (.file (Log.rewritten content).toByteArray)) := by
  rw [compact, logText_file]
  rfl

namespace Keeps

variable {backend : Backend} {live : List Project}

theorem distinct (keeps : backend.Keeps live) : Shelf.Distinct live := by
  cases keeps <;> assumption

theorem get? (keeps : backend.Keeps live) (id : String) :
    backend.get? id = .ok (Shelf.get? live id) := by
  cases keeps with
  | memory => rfl
  | log distinct _ tells =>
    rw [get?_file, tells.get? distinct]
  | table _ fits =>
    exact Table.get?_rows fits id

theorem list (keeps : backend.Keeps live) : backend.list = .ok (Shelf.listed live) := by
  cases keeps with
  | memory => rfl
  | log distinct _ tells =>
    rw [list_file, tells.listed distinct]
  | table _ fits =>
    exact Table.listed_rows fits

theorem put (keeps : backend.Keeps live) {p : Project} (fits : backend.kind = .memory ∨ p.Fits) :
    ∃ later, backend.put p = .ok later ∧ later.kind = backend.kind ∧ later.Keeps (Shelf.put live p) := by
  have all_fit (live_fit : ∀ q ∈ live, q.Fits) (p_fits : p.Fits) : ∀ q ∈ Shelf.put live p, q.Fits := by
    intro q member
    rcases Shelf.mem_put member with rfl | stays
    · exact p_fits
    · exact live_fit q stays
  cases keeps with
  | memory distinct => exact ⟨_, rfl, rfl, .memory (distinct.put p)⟩
  | log distinct live_fit tells =>
    have p_fits : p.Fits := fits.resolve_left (by simp [kind])
    exact ⟨_, extend_file _ _, rfl,
      .log (distinct.put p) (all_fit live_fit p_fits) (tells.project distinct p_fits)⟩
  | table distinct live_fit =>
    have p_fits : p.Fits := fits.resolve_left (by simp [kind])
    refine ⟨.table (.table ((Shelf.put live p).map Table.rowOf)), ?_, rfl,
      .table (distinct.put p) (all_fit live_fit p_fits)⟩
    simp [Backend.put, tableRows, Except.map, Table.put_rows]

theorem delete (keeps : backend.Keeps live) (id : String) :
    ∃ later, backend.delete id = .ok later ∧ later.kind = backend.kind ∧
      later.Keeps (Shelf.remove live id) := by
  have all_fit (live_fit : ∀ q ∈ live, q.Fits) : ∀ q ∈ Shelf.remove live id, q.Fits :=
    fun q member => live_fit q (List.mem_filter.mp member).1
  cases keeps with
  | memory distinct => exact ⟨_, rfl, rfl, .memory (distinct.remove id)⟩
  | log distinct live_fit tells =>
    exact ⟨_, extend_file _ _, rfl, .log (distinct.remove id) (all_fit live_fit) (tells.removal id)⟩
  | table distinct live_fit =>
    refine ⟨.table (.table ((Shelf.remove live id).map Table.rowOf)), ?_, rfl,
      .table (distinct.remove id) (all_fit live_fit)⟩
    simp [Backend.delete, tableRows, Except.map, Table.remove_rows]

theorem compact (keeps : backend.Keeps live) (isLog : backend.kind = .file) :
    ∃ shrinkage later, backend.compact = .ok (shrinkage, later) ∧ later.kind = backend.kind ∧
      later.Keeps live := by
  cases keeps with
  | memory => cases isLog
  | @log content _ distinct live_fit tells =>
    exact ⟨_, _, compact_file content, rfl,
      .log distinct live_fit (tells.rewritten distinct live_fit)⟩
  | table => cases isLog

end Keeps

end Backend

end Testbook
