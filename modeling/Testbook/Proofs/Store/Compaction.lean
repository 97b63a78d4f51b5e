import Testbook.Proofs.Store.Ready

/-! Compacting a log, whatever stands in it. What it tells of stays as it is, and the new text depends on
nothing else: it has a line for each project, by id, so that compacting it once more changes nothing. -/

set_option autoImplicit false

namespace Testbook

/-! ### Lines that count -/

-- A carriage return is blank, and so is what follows the last line feed if nothing does.
/-- Lines that are not blank are the same in number however they are cut. -/
theorem Text.countP_recordsFrom (begun cs : List Char) :
    (recordsFrom begun cs).countP (fun line => !line.all isBlank) =
      (piecesFrom begun cs).countP (fun line => !line.all isBlank) := by
  have closed (begun : List Char) : (closeRecord begun).all isBlank = begun.all isBlank := by
    unfold closeRecord
    split
    · simp [isBlank]
    · simp
  induction cs generalizing begun with
  | nil => cases begun <;> simp [recordsFrom, piecesFrom]
  | cons c cs ih =>
    unfold recordsFrom piecesFrom
    split
    · rw [List.countP_cons, List.countP_cons, ih, closed, List.all_reverse]
    · exact ih (c :: begun)

namespace Log

theorem length_lines (content : String) :
    (lines content).length =
      (content.toList.splitOn '\n').countP (fun line => !line.all Text.isBlank) := by
  rw [lines, ← List.countP_eq_length_filter, Text.records, Text.countP_recordsFrom, ← Text.pieces,
    Text.pieces_eq]

/-! ### Replaying any text -/

theorem distinct_apply {shelf : List Project} (distinct : Shelf.Distinct shelf) (line : List Char) :
    Shelf.Distinct (apply shelf line) := by
  unfold apply
  split
  · exact distinct.put _
  · exact distinct.remove _
  · exact distinct

theorem distinct_replay (content : String) : Shelf.Distinct (replay content) := by
  have each (lines : List (List Char)) {shelf : List Project} (distinct : Shelf.Distinct shelf) :
      Shelf.Distinct (lines.foldl apply shelf) := by
    induction lines generalizing shelf with
    | nil => exact distinct
    | cons line lines ih => exact ih (distinct_apply distinct line)
  exact each (lines content) Shelf.distinct_nil

def live (content : String) : List Project := (replay content).mergeSort fun a b => a.id ≤ b.id

theorem live_perm (content : String) : (live content).Perm (replay content) :=
  List.mergeSort_perm _ _

theorem replay_rewritten_live (content : String) : replay (rewritten content) = live content :=
  replay_rewritten (distinct_replay content) (replay_summaries content)

theorem sorts_by_id :
    Sorts (fun a b : Project => a.id ≤ b.id) (fun a b : Project => a.id < b.id) (·.id) where
  trans a b c first second := by
    simp only [decide_eq_true_eq] at first second ⊢
    exact first.trans second
  total a b := by simpa using le_total a.id b.id
  strict a b least different := lt_of_le_of_ne (of_decide_eq_true least) different
  asymm _ _ := lt_asymm

theorem live_sorted (content : String) : (live content).Pairwise fun a b => a.id < b.id :=
  sorts_by_id.pairwise (distinct_replay content)

theorem live_rewritten (content : String) : live (rewritten content) = live content := by
  rw [live, replay_rewritten_live]
  exact List.mergeSort_of_pairwise ((live_sorted content).imp fun less => decide_eq_true less.le)

theorem rewritten_eq (content : String) :
    rewritten content = String.join ((live content).map fun p => p.json.compact ++ "\n") := rfl

theorem rewritten_rewritten (content : String) :
    rewritten (rewritten content) = rewritten content := by
  rw [rewritten_eq, live_rewritten, rewritten_eq]

theorem records_rewritten (content : String) :
    Text.records (rewritten content).toList = (live content).map fun p => p.json.compact.toList := by
  rw [rewritten, ← live, records_join_lines]
  simp [Json.compact]

theorem length_lines_rewritten (content : String) :
    (lines (rewritten content)).length = (live content).length := by
  rw [rewritten, ← live, lines_join_lines, List.length_map]

end Log

namespace Backend

/-- Compacting a log cannot be seen in what it answers. It counts the lines that are not blank and the
projects that are left, and gives one text to all logs that tell of the same projects: their documents by
id, each on a line of its own. Doing it once more changes nothing. -/
theorem compaction_invisible (content : String) :
    let log := Backend.log (.file content.toByteArray)
    ∃ (lines : Log.Shrinkage) (live : List Project) (text : String),
      let later := Backend.log (.file text.toByteArray)
      log.compact = .ok (lines, later) ∧
        (∀ id, later.get? id = log.get? id) ∧ later.list = log.list ∧
        lines.before = (content.toList.splitOn '\n').countP (fun line => !line.all Text.isBlank) ∧
        lines.after = live.length ∧
        (∀ p : Project, p ∈ live ↔ log.get? p.id = .ok (some p)) ∧
        live.Pairwise (fun a b => a.id < b.id) ∧
        text = String.join (live.map fun p => p.json.compact ++ "\n") ∧
        Text.records text.toList = live.map (fun p => p.json.compact.toList) ∧
        later.compact = .ok (⟨lines.after, lines.after⟩, later) := by
  intro log
  have distinct := Log.distinct_replay content
  have perm := Log.live_perm content
  refine ⟨Log.shrinkage content, Log.live content, Log.rewritten content, compact_file content, ?_, ?_,
    Log.length_lines content, perm.length_eq.symm, ?_, Log.live_sorted content,
    Log.rewritten_eq content, Log.records_rewritten content, ?_⟩
  · intro id
    rw [get?_file, get?_file, Log.replay_rewritten_live, Shelf.get?_perm distinct perm.symm]
  · rw [list_file, list_file, Log.replay_rewritten_live, Shelf.listed_perm distinct perm.symm]
  · intro p
    rw [get?_file, perm.mem_iff, Except.ok.injEq]
    exact ⟨Shelf.get?_of_mem distinct, fun found => (Shelf.mem_of_get? found).1⟩
  · rw [compact_file, Log.rewritten_rewritten, Log.shrinkage, Log.replay_rewritten_live,
      Log.length_lines_rewritten, perm.length_eq]
    rfl

end Backend

end Testbook
