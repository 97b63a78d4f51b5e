import Testbook.Directory

/-! The names along a path that was put together. A name within a folder is one more step after those to
the folder, however the folder is spelled; and the folder of a path is named without dots. -/

set_option autoImplicit false

namespace Testbook

namespace FilePath

variable {path folder name : String}

structure IsName (name : String) : Prop where
  filled : name ≠ ""
  plain : '/' ∉ name.toList

structure IsFileName (name : String) : Prop extends IsName name where
  noDot : name ≠ "."
  noDots : name ≠ ".."

/-! ### Slashes -/

theorem startsWith_slash (cs : List Char) : Text.startsWith ['/'] cs = true ↔ cs.head? = some '/' := by
  cases cs with
  | nil => simp [Text.startsWith, Text.afterLead?]
  | cons c cs =>
    simp [Text.startsWith, Text.afterLead?, eq_comm (a := '/')]

theorem isRooted_iff : isRooted path = true ↔ path.toList.head? = some '/' :=
  startsWith_slash path.toList

theorem endsWith_slash (cs : List Char) : Text.endsWith ['/'] cs = true ↔ cs.getLast? = some '/' := by
  rw [Text.endsWith, List.reverse_singleton, startsWith_slash, List.head?_reverse]

theorem toList_ne_nil (filled : name ≠ "") : name.toList ≠ [] :=
  fun empty => filled (String.toList_eq_nil_iff.mp empty)

theorem IsName.not_rooted (named : IsName name) : isRooted name = false := by
  rw [Bool.eq_false_iff, ne_eq, isRooted_iff]
  exact fun first => named.plain (List.mem_of_head? first)

theorem isRooted_append (filled : folder ≠ "") (rest : String) :
    isRooted (folder ++ rest) = isRooted folder := by
  have same : (folder ++ rest).toList.head? = folder.toList.head? := by
    cases spelled : folder.toList with
    | nil => exact absurd spelled (toList_ne_nil filled)
    | cons c cs => simp [spelled]
  rw [Bool.eq_iff_iff, isRooted_iff, isRooted_iff, same]

/-! ### Pieces -/

theorem piecesFrom_eq (begun cs : List Char) :
    piecesFrom begun cs = ((cs.splitOn '/').modifyHead (begun.reverse ++ ·)).map String.ofList := by
  have whole (pieces : List (List Char)) : pieces.modifyHead ([] ++ ·) = pieces := by
    cases pieces <;> rfl
  induction cs generalizing begun with
  | nil => simp [piecesFrom]
  | cons c cs ih =>
    rw [piecesFrom, List.splitOn, List.splitOnP_cons_eq_if_modifyHead, ← List.splitOn]
    by_cases slash : c = '/'
    · simp only [slash, if_true, beq_self_eq_true, List.modifyHead_cons, ih, List.reverse_nil, whole,
        List.append_nil, List.map_cons]
    · simp [slash, ih, Function.comp_def]

theorem pieces_eq (path : String) : pieces path = (path.toList.splitOn '/').map String.ofList := by
  rw [pieces, piecesFrom_eq]
  cases path.toList.splitOn '/' <;> rfl

theorem IsName.pieces (named : IsName name) : pieces name = [name] := by
  simp [pieces_eq, List.splitOn_eq_singleton named.plain]

theorem pieces_slash (front rest : String) :
    FilePath.pieces (front ++ "/" ++ rest) = FilePath.pieces front ++ FilePath.pieces rest := by
  have spelled : (front ++ "/" ++ rest).toList = front.toList ++ '/' :: rest.toList := by simp
  rw [pieces_eq, spelled, List.splitOn_append_cons_self, List.map_append, ← pieces_eq, ← pieces_eq]

theorem mem_piecesFrom_plain {begun cs : List Char} (plain : '/' ∉ begun)
    (stands : name ∈ piecesFrom begun cs) : '/' ∉ name.toList := by
  induction cs generalizing begun with
  | nil =>
    obtain rfl : name = String.ofList begun.reverse := by simpa [piecesFrom] using stands
    simpa using plain
  | cons c cs ih =>
    unfold piecesFrom at stands
    split at stands
    · rcases List.mem_cons.mp stands with rfl | later
      · simpa using plain
      · exact ih List.not_mem_nil later
    · rename_i other
      exact ih (by simp [plain, Ne.symm other]) stands

def filled (path : String) : List String := (FilePath.pieces path).filter (· ≠ "")

theorem mem_filled_isName (stands : name ∈ filled path) : IsName name := by
  obtain ⟨piece, some_name⟩ := List.mem_filter.mp stands
  exact ⟨by simpa using some_name, mem_piecesFrom_plain List.not_mem_nil piece⟩

theorem names_eq (path : String) : names path = (filled path).filter (· ≠ ".") := by
  rw [names, filled, List.filter_filter]
  refine List.filter_congr ?_
  intro name _
  by_cases first : name = "" <;> by_cases second : name = "." <;> simp [first, second]

/-! ### A name within a folder -/

theorem filled_slash (front rest : String) :
    filled (front ++ "/" ++ rest) = filled front ++ filled rest := by
  rw [filled, pieces_slash, List.filter_append, ← filled, ← filled]

theorem IsName.filled_eq (named : IsName name) : FilePath.filled name = [name] := by
  simp [FilePath.filled, named.pieces, named.filled]

theorem filled_empty : filled "" = [] := by decide

theorem endsWith_slash_split (slash : Text.endsWith ['/'] folder.toList = true) :
    ∃ front : String, folder = front ++ "/" := by
  obtain ⟨front, spelled⟩ := List.getLast?_eq_some_iff.mp ((endsWith_slash _).mp slash)
  refine ⟨String.ofList front, String.toList_inj.mp ?_⟩
  simp [spelled]

theorem filled_join (folder : String) (named : IsName name) :
    filled (join folder name) = filled folder ++ [name] := by
  unfold join
  split
  · rename_i alone
    have empty : folder = "" := by simpa [named.not_rooted] using alone
    rw [empty, named.filled_eq, filled_empty, List.nil_append]
  split
  · rename_i slash
    obtain ⟨front, rfl⟩ := endsWith_slash_split slash
    have front_only : filled (front ++ "/") = filled front := by
      simpa [filled_empty] using filled_slash front ""
    rw [filled_slash, named.filled_eq, front_only]
  · rw [filled_slash, named.filled_eq]

theorem isRooted_join (folder : String) (named : IsName name) :
    isRooted (join folder name) = isRooted folder := by
  unfold join
  split
  · rename_i alone
    have empty : folder = "" := by simpa [named.not_rooted] using alone
    rw [empty, named.not_rooted]
    rfl
  rename_i apart
  have some_folder : folder ≠ "" := by
    rintro rfl
    simp at apart
  split
  · exact isRooted_append some_folder name
  · rw [String.append_assoc]
    exact isRooted_append some_folder _

/-! ### The folder of a path -/

theorem isRooted_intercalate {names : List String} (named : ∀ name ∈ names, IsName name) :
    isRooted (String.intercalate "/" names) = false := by
  cases names with
  | nil => decide
  | cons name names =>
    have first := named name List.mem_cons_self
    have begun : ∃ rest, String.intercalate "/" (name :: names) = name ++ rest := by
      cases names with
      | nil => exact ⟨"", by simp⟩
      | cons second names =>
        exact ⟨"/" ++ String.intercalate "/" (second :: names), by simp [String.append_assoc]⟩
    obtain ⟨rest, spelled⟩ := begun
    rw [spelled, isRooted_append first.filled, first.not_rooted]

theorem filled_intercalate {names : List String} (named : ∀ name ∈ names, IsName name) :
    filled (String.intercalate "/" names) = names := by
  induction names with
  | nil => exact filled_empty
  | cons name names ih =>
    have first := named name List.mem_cons_self
    cases names with
    | nil => simpa using first.filled_eq
    | cons second names =>
      have spelled : String.intercalate "/" (name :: second :: names) =
          name ++ "/" ++ String.intercalate "/" (second :: names) := by simp [String.append_assoc]
      have others := ih fun n stands => named n (List.mem_cons_of_mem name stands)
      rw [spelled, filled_slash, first.filled_eq, others]
      rfl

theorem dropLast_isName (path : String) : ∀ name ∈ (names path).dropLast, IsName name := by
  intro name stands
  rw [names_eq] at stands
  exact mem_filled_isName (List.mem_filter.mp ((List.dropLast_sublist _).subset stands)).1

theorem filled_parent (path : String) : filled (parent path) = (names path).dropLast := by
  unfold parent
  split
  · have rooted := filled_slash "" (String.intercalate "/" (names path).dropLast)
    rwa [filled_empty, List.nil_append, filled_intercalate (dropLast_isName path)] at rooted
  · rw [String.empty_append, filled_intercalate (dropLast_isName path)]

theorem isRooted_parent (path : String) : isRooted (parent path) = isRooted path := by
  unfold parent
  split
  · rename_i rooted
    rw [isRooted_append (by decide), rooted]
    decide
  · rename_i relative
    rw [String.empty_append, isRooted_intercalate (dropLast_isName path)]
    exact (Bool.eq_false_iff.mpr relative).symm

theorem names_parent (path : String) : names (parent path) = (names path).dropLast := by
  rw [names_eq, filled_parent, List.filter_eq_self]
  intro name stands
  rw [names_eq] at stands
  exact (List.mem_filter.mp ((List.dropLast_sublist _).subset stands)).2

end FilePath

namespace Directory

open FilePath

variable {folder name : String}

def rootSteps (path : String) : List String := if isRooted path then ["/"] else []

theorem steps_eq (path : String) : steps path = rootSteps path ++ filled path := rfl

theorem steps_join (folder : String) (named : IsName name) :
    steps (join folder name) = steps folder ++ [name] := by
  rw [steps_eq, steps_eq, rootSteps, rootSteps, isRooted_join folder named, filled_join folder named,
    List.append_assoc]

/-- The folder of a name within a folder is that folder, without dots. -/
theorem steps_parent_join (folder : String) (named : IsFileName name) :
    steps (parent (join folder name)) = rootSteps folder ++ names folder ∧
      names (parent (join folder name)) = names folder := by
  have own : names (join folder name) = names folder ++ [name] := by
    rw [names_eq, names_eq, filled_join folder named.toIsName, List.filter_append]
    simp [named.noDot]
  have same : (names (join folder name)).dropLast = names folder := by simp [own]
  refine ⟨?_, (names_parent _).trans same⟩
  rw [steps_eq, rootSteps, rootSteps, isRooted_parent, isRooted_join folder named.toIsName,
    filled_parent, same]

end Directory

end Testbook
