import Mathlib.Data.List.DropRight
import Testbook.Text.Line

/-! Writing lines one after another gives a text of these lines: each that was ended stays as it was,
whatever is written after it. -/

set_option autoImplicit false

namespace Testbook.Text

/-- A line that can be read back: it holds no line feed, and no carriage return at its end. -/
structure IsLine (body : List Char) : Prop where
  noFeed : '\n' ∉ body
  noReturn : body.getLast? ≠ some '\r'

theorem recordsFrom_append (begun front rest : List Char) :
    recordsFrom begun (front ++ '\n' :: rest) =
      recordsFrom begun (front ++ ['\n']) ++ recordsFrom [] rest := by
  induction front generalizing begun with
  | nil => simp [recordsFrom]
  | cons c front ih =>
    simp only [List.cons_append, recordsFrom]
    split <;> simp [ih]

theorem closeRecord_reverse {body : List Char} (noReturn : body.getLast? ≠ some '\r') :
    closeRecord body.reverse = body := by
  cases reversed : body.reverse with
  | nil =>
    rw [List.reverse_eq_nil_iff.mp reversed]
    rfl
  | cons c rest =>
    have same : body = (c :: rest).reverse := by rw [← reversed, List.reverse_reverse]
    unfold closeRecord
    split
    · rename_i returned
      cases returned
      exact absurd (by simp [same]) noReturn
    · exact same.symm

theorem recordsFrom_line {begun body : List Char} (noFeed : '\n' ∉ body) :
    recordsFrom begun (body ++ ['\n']) = [closeRecord (body.reverse ++ begun)] := by
  induction body generalizing begun with
  | nil => simp [recordsFrom]
  | cons c body ih =>
    have apart : c ≠ '\n' := fun same => noFeed (same ▸ List.mem_cons_self)
    have others : '\n' ∉ body := fun member => noFeed (List.mem_cons_of_mem c member)
    simp [recordsFrom, apart, ih others]

theorem records_cons {body : List Char} (line : IsLine body) (rest : List Char) :
    records (body ++ '\n' :: rest) = body :: records rest := by
  rw [records, recordsFrom_append, recordsFrom_line line.noFeed, List.append_nil,
    closeRecord_reverse line.noReturn]
  rfl

-- Only after an ended line a new one begins.
def Ended (cs : List Char) : Prop := cs = [] ∨ ∃ front, cs = front ++ ['\n']

theorem ended_append_line (cs body : List Char) : Ended (cs ++ (body ++ ['\n'])) :=
  Or.inr ⟨cs ++ body, by rw [List.append_assoc]⟩

theorem records_append_line {cs body : List Char} (ended : Ended cs) (line : IsLine body) :
    records (cs ++ (body ++ ['\n'])) = records cs ++ [body] := by
  have last : records (body ++ ['\n']) = [body] := records_cons line []
  rcases ended with rfl | ⟨front, rfl⟩
  · exact last
  · calc records (front ++ ['\n'] ++ (body ++ ['\n']))
        = recordsFrom [] (front ++ '\n' :: (body ++ ['\n'])) := by simp [records]
      _ = records (front ++ ['\n']) ++ records (body ++ ['\n']) := recordsFrom_append _ _ _
      _ = records (front ++ ['\n']) ++ [body] := by rw [last]

theorem records_flatMap {bodies : List (List Char)} (lines : ∀ body ∈ bodies, IsLine body) :
    records (bodies.flatMap (· ++ ['\n'])) = bodies := by
  induction bodies with
  | nil => rfl
  | cons body bodies ih =>
    have others := ih fun other member => lines other (List.mem_cons_of_mem body member)
    rw [List.flatMap_cons, List.append_assoc, List.singleton_append,
      records_cons (lines body List.mem_cons_self), others]

theorem ended_flatMap (bodies : List (List Char)) : Ended (bodies.flatMap (· ++ ['\n'])) := by
  cases bodies using List.reverseRecOn with
  | nil => exact Or.inl rfl
  | append_singleton bodies body =>
    rw [List.flatMap_append]
    simpa using ended_append_line (bodies.flatMap (· ++ ['\n'])) body

/-! ### The last line -/

theorem ended_rdropWhile (cs : List Char) : Ended (cs.rdropWhile (· ≠ '\n')) := by
  induction cs using List.reverseRecOn with
  | nil => exact Or.inl rfl
  | append_singleton cs c ih =>
    rw [List.rdropWhile_concat]
    split
    · exact ih
    · rename_i feed
      exact Or.inr ⟨cs, by simpa using feed⟩

theorem noFeed_rtakeWhile (cs : List Char) : '\n' ∉ cs.rtakeWhile (· ≠ '\n') := by
  intro member
  simpa using List.mem_rtakeWhile_imp member

/-- What stands before a line without a line feed is on the same line with it. -/
theorem IsLine.after {torn body : List Char} (noFeed : '\n' ∉ torn) (line : IsLine body)
    (some_body : body ≠ []) : IsLine (torn ++ body) where
  noFeed := by simp [noFeed, line.noFeed]
  noReturn := by
    rw [List.getLast?_append_of_ne_nil torn some_body]
    exact line.noReturn

theorem recordsFrom_open {begun torn : List Char} (noFeed : '\n' ∉ torn) :
    recordsFrom begun torn =
      if (torn.reverse ++ begun).isEmpty then [] else [(torn.reverse ++ begun).reverse] := by
  induction torn generalizing begun with
  | nil => rfl
  | cons c torn ih =>
    have apart : c ≠ '\n' := fun same => noFeed (same ▸ List.mem_cons_self)
    have others : '\n' ∉ torn := fun member => noFeed (List.mem_cons_of_mem c member)
    simp [recordsFrom, apart, ih others]

/-- Of a last line without an end only its emptiness counts. -/
theorem records_append_open {front torn : List Char} (ended : Ended front) (noFeed : '\n' ∉ torn) :
    records (front ++ torn) = records front ++ if torn = [] then [] else [torn] := by
  have last : records torn = if torn = [] then [] else [torn] := by
    simp [records, recordsFrom_open noFeed]
  rcases ended with rfl | ⟨front, rfl⟩
  · exact last
  · rw [← last, List.append_assoc]
    exact recordsFrom_append [] front torn

/-! ### Pieces -/

theorem noFeed_piecesFrom {begun cs piece : List Char} (noFeed : '\n' ∉ begun)
    (member : piece ∈ piecesFrom begun cs) : '\n' ∉ piece := by
  induction cs generalizing begun with
  | nil =>
    obtain rfl : piece = begun.reverse := by simpa [piecesFrom] using member
    simpa using noFeed
  | cons c cs ih =>
    unfold piecesFrom at member
    split at member
    · rcases List.mem_cons.mp member with rfl | later
      · simpa using noFeed
      · exact ih List.not_mem_nil later
    · rename_i apart
      exact ih (by simp [noFeed, Ne.symm apart]) member

theorem noFeed_pieces {cs piece : List Char} (member : piece ∈ pieces cs) : '\n' ∉ piece :=
  noFeed_piecesFrom List.not_mem_nil member

theorem piecesFrom_eq (begun cs : List Char) :
    piecesFrom begun cs = (cs.splitOn '\n').modifyHead (begun.reverse ++ ·) := by
  have whole (pieces : List (List Char)) : pieces.modifyHead ([] ++ ·) = pieces := by
    cases pieces <;> rfl
  induction cs generalizing begun with
  | nil => simp [piecesFrom]
  | cons c cs ih =>
    rw [piecesFrom, List.splitOn, List.splitOnP_cons_eq_if_modifyHead, ← List.splitOn]
    by_cases feed : c = '\n'
    · simp only [feed, if_true, beq_self_eq_true, List.modifyHead_cons, ih, List.reverse_nil, whole,
        List.append_nil]
    · simp [feed, ih, Function.comp_def]

theorem pieces_eq (cs : List Char) : pieces cs = cs.splitOn '\n' := by
  rw [pieces, piecesFrom_eq]
  cases cs.splitOn '\n' <;> rfl

/-- Lines that are written with line feeds between them are found again. -/
theorem pieces_intercalate {raws : List (List Char)} (noFeed : ∀ raw ∈ raws, '\n' ∉ raw)
    (some_raws : raws ≠ []) : pieces (['\n'].intercalate raws) = raws := by
  rw [pieces_eq, List.splitOn_intercalate '\n' noFeed some_raws]

end Testbook.Text
