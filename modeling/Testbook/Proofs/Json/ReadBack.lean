import Testbook.Proofs.Json.Layout

/-! An exact value is read back as its tree, in whatever layout it is written. -/

set_option autoImplicit false

namespace Testbook.Json

theorem skipSpace_blank {blank : List Char} (all : blank.all isSpace) (cs : List Char) :
    skipSpace (blank ++ cs) = skipSpace cs := by
  induction blank with
  | nil => rfl
  | cons c blank ih =>
    simp only [List.all_cons, Bool.and_eq_true] at all
    simp only [skipSpace, List.cons_append, List.dropWhile_cons, all.1, if_true]
    exact ih all.2

theorem skipSpace_cons {c : Char} (solid : isSpace c = false) (cs : List Char) :
    skipSpace (c :: cs) = c :: cs := by
  simp [skipSpace, solid]

theorem readValue?_blank {blank : List Char} (all : blank.all isSpace) (fuel : Nat)
    (cs : List Char) : readValue? fuel (blank ++ cs) = readValue? fuel cs := by
  cases fuel with
  | zero => rfl
  | succ fuel => simp only [readValue?, skipSpace_blank all]

theorem readItems?_blank {blank : List Char} (all : blank.all isSpace) (fuel : Nat)
    (cs : List Char) : readItems? fuel (blank ++ cs) = readItems? fuel cs := by
  cases fuel with
  | zero => rfl
  | succ fuel => simp only [readItems?, readValue?_blank all]

theorem readMembers?_blank {blank : List Char} (all : blank.all isSpace) (fuel : Nat)
    (cs : List Char) : readMembers? fuel (blank ++ cs) = readMembers? fuel cs := by
  cases fuel with
  | zero => rfl
  | succ fuel => simp only [readMembers?, skipSpace_blank all]

-- Numbers alone have no end of their own.
theorem endsNumber_blank {blank : List Char} (all : blank.all isSpace) {cs : List Char}
    (ends : EndsNumber cs) : EndsNumber (blank ++ cs) := by
  cases blank with
  | nil => exact ends
  | cons c blank =>
    simp only [List.all_cons, Bool.and_eq_true, isSpace, Bool.or_eq_true, beq_iff_eq] at all
    obtain ⟨((rfl | rfl) | rfl) | rfl, _⟩ := all <;>
      exact endsNumber_cons _ (by decide) (by decide)

theorem digitChar_solid {d : Nat} (small : d < 10) :
    isSpace (Nat.digitChar d) = false ∧ Nat.digitChar d ≠ ']' ∧ Nat.digitChar d ≠ '"' ∧
      Nat.digitChar d ≠ '[' ∧ Nat.digitChar d ≠ '\x7b' ∧ Nat.digitChar d ≠ 'n' ∧
      Nat.digitChar d ≠ 't' ∧ Nat.digitChar d ≠ 'f' := by
  have all : ∀ d < 10, isSpace (Nat.digitChar d) = false ∧ Nat.digitChar d ≠ ']' ∧
      Nat.digitChar d ≠ '"' ∧ Nat.digitChar d ≠ '[' ∧ Nat.digitChar d ≠ '\x7b' ∧
      Nat.digitChar d ≠ 'n' ∧ Nat.digitChar d ≠ 't' ∧ Nat.digitChar d ≠ 'f' := by decide
  exact all d small

theorem readValue?_int (n : Int) (fuel : Nat) {rest : List Char} (ends : EndsNumber rest) :
    readValue? (fuel + 1) (Decimal.intDigits n ++ rest) = some (.number (.ofInt n), rest) := by
  have number := readNumeral?_intDigits n ends
  cases n with
  | ofNat n =>
    obtain ⟨d, small, cs, digits⟩ := digits_head n
    obtain ⟨solid, _, noQuote, noList, noRecord, noNull, noTrue, noFalse⟩ := digitChar_solid small
    simp only [Decimal.intDigits, digits, List.cons_append] at number ⊢
    simp [readValue?, skipSpace_cons solid, noQuote, noList, noRecord, noNull, noTrue, noFalse,
      number]
  | negSucc n =>
    simp only [Decimal.intDigits, List.cons_append] at number ⊢
    simp [readValue?, skipSpace_cons, isSpace, number]

variable (layout : Layout)

theorem chars_head (depth : Nat) (json : Json) (exact : json.isExact) :
    ∃ c cs, layout.chars depth json = c :: cs ∧ isSpace c = false ∧ c ≠ ']' := by
  cases json with
  | null => exact ⟨_, _, rfl, by decide, by decide⟩
  | bool b => cases b <;> exact ⟨_, _, rfl, by decide, by decide⟩
  | int n =>
    cases n with
    | ofNat n =>
      obtain ⟨d, small, cs, digits⟩ := digits_head n
      exact ⟨_, _, digits, (digitChar_solid small).1, (digitChar_solid small).2.1⟩
    | negSucc n => exact ⟨_, _, rfl, by decide, by decide⟩
  | real x => simp [isExact] at exact
  | text s => exact ⟨_, _, rfl, by decide, by decide⟩
  | list items => cases items <;> exact ⟨_, _, rfl, by decide, by decide⟩
  | record members => cases members <;> exact ⟨_, _, rfl, by decide, by decide⟩

theorem itemChars_endsNumber (depth : Nat) (items : List Json) (rest : List Char) :
    EndsNumber (layout.itemChars depth items ++ rest) := by
  cases items with
  | nil =>
    rw [Layout.itemChars, List.append_assoc]
    exact endsNumber_blank (layout.line_blank depth) (endsNumber_cons _ (by decide) (by decide))
  | cons item items => exact endsNumber_cons _ (by decide) (by decide)

theorem memberChars_endsNumber (depth : Nat) (members : List (String × Json)) (rest : List Char) :
    EndsNumber (layout.memberChars depth members ++ rest) := by
  cases members with
  | nil =>
    rw [Layout.memberChars, List.append_assoc]
    exact endsNumber_blank (layout.line_blank depth) (endsNumber_cons _ (by decide) (by decide))
  | cons member members => exact endsNumber_cons _ (by decide) (by decide)

/-! Each call of the reader has a character to itself, and so has each item; fuel for two calls a
character is enough. -/

theorem chars_ne_nil (depth : Nat) (json : Json) (exact : json.isExact) :
    0 < (layout.chars depth json).length := by
  obtain ⟨c, cs, chars, _⟩ := chars_head layout depth json exact
  simp [chars]

section FirstMember

variable (key : String) (fuel : Nat) (text : List Char) {item : Tree} {rest left last : List Char}
  {members : List (Option String × Tree)}

theorem readMembers?_last (read : readValue? fuel text = some (item, rest))
    (ends : skipSpace rest = '\x7d' :: left) :
    readMembers? (fuel + 1) (quote key ++ ':' :: (layout.colon ++ text)) =
      some ([(some key, item)], left) := by
  simp [readMembers?, quote, skipSpace_cons, isSpace, readText?_quote,
    readValue?_blank layout.colon_blank, read, ends]

theorem readMembers?_next (read : readValue? fuel text = some (item, rest))
    (more : skipSpace rest = ',' :: left) (others : readMembers? fuel left = some (members, last)) :
    readMembers? (fuel + 1) (quote key ++ ':' :: (layout.colon ++ text)) =
      some ((some key, item) :: members, last) := by
  simp [readMembers?, quote, skipSpace_cons, isSpace, readText?_quote,
    readValue?_blank layout.colon_blank, read, more, others]

end FirstMember

mutual

theorem readValue?_chars : ∀ (json : Json) (depth fuel : Nat) (rest : List Char),
    json.isExact → EndsNumber rest → 2 * (layout.chars depth json).length ≤ fuel →
    readValue? fuel (layout.chars depth json ++ rest) = some (json.tree, rest)
  | json, depth, 0, _, exact, _, enough => by
    have begun := chars_ne_nil layout depth json exact
    omega
  | .null, _, fuel + 1, _, _, _, _ => by simp [Layout.chars, readValue?, skipSpace_cons, isSpace, tree]
  | .bool true, _, fuel + 1, _, _, _, _ => by
    simp [Layout.chars, readValue?, skipSpace_cons, isSpace, tree]
  | .bool false, _, fuel + 1, _, _, _, _ => by
    simp [Layout.chars, readValue?, skipSpace_cons, isSpace, tree]
  | .int n, _, fuel + 1, _, _, ends, _ => by
    simpa [Layout.chars, tree] using readValue?_int n fuel ends
  | .real _, _, fuel + 1, _, exact, _, _ => by simp [isExact] at exact
  | .text s, _, fuel + 1, rest, _, _, _ => by
    simp [Layout.chars, quote, readValue?, skipSpace_cons, isSpace, readText?_quote, tree]
  | .list [], _, fuel + 1, _, _, _, _ => by
    simp [Layout.chars, readValue?, skipSpace_cons, isSpace, tree, trees]
  | .list (item :: items), depth, fuel + 1, rest, exact, _, enough => by
    simp only [isExact, areExact, Bool.and_eq_true] at exact
    simp only [Layout.chars, List.length_cons, List.length_append] at enough
    obtain ⟨c, cs, head, solid, noEnd⟩ := chars_head layout (depth + 1) item exact.1
    have items := readItems?_chars item items depth fuel rest exact.1 exact.2
      (by simp only [List.length_append]; omega)
    rw [head, List.cons_append] at items
    simp [Layout.chars, readValue?, skipSpace_cons, isSpace, skipSpace_blank (layout.line_blank _),
      head, skipSpace_cons solid, noEnd, items, tree, trees]
  | .record [], _, fuel + 1, _, _, _, _ => by
    simp [Layout.chars, readValue?, skipSpace_cons, isSpace, tree, memberTrees]
  | .record ((key, value) :: members), depth, fuel + 1, rest, exact, _, enough => by
    simp only [isExact, membersExact, Bool.and_eq_true] at exact
    simp only [Layout.chars, List.length_cons, List.length_append] at enough
    have members := readMembers?_chars key value members depth fuel rest exact.1 exact.2
      (by simp only [List.length_append, List.length_cons]; omega)
    simp only [quote, List.cons_append, List.append_assoc, List.nil_append] at members
    simp [Layout.chars, readValue?, skipSpace_cons, isSpace, skipSpace_blank (layout.line_blank _),
      quote, members, tree, memberTrees]

theorem readItems?_chars : ∀ (item : Json) (items : List Json) (depth fuel : Nat)
    (rest : List Char), item.isExact → areExact items →
    2 * (layout.chars (depth + 1) item ++ layout.itemChars depth items).length ≤ fuel →
    readItems? fuel (layout.chars (depth + 1) item ++ (layout.itemChars depth items ++ rest)) =
      some (item.tree :: trees items, rest)
  | item, _, depth, 0, _, exact, _, enough => by
    have begun := chars_ne_nil layout (depth + 1) item exact
    simp only [List.length_append] at enough
    omega
  | item, [], depth, fuel + 1, rest, exact, _, enough => by
    simp only [List.length_append, Layout.itemChars, List.length_singleton] at enough
    have ends := itemChars_endsNumber layout depth [] rest
    have first := readValue?_chars item (depth + 1) fuel _ exact ends (by omega)
    simp only [readItems?, first, Option.bind_eq_bind, Option.bind_some]
    simp [Layout.itemChars, skipSpace_blank (layout.line_blank _), skipSpace_cons, isSpace, trees]
  | item, next :: items, depth, fuel + 1, rest, exact, allExact, enough => by
    simp only [areExact, Bool.and_eq_true] at allExact
    simp only [List.length_append, Layout.itemChars, List.length_cons] at enough
    have ends := itemChars_endsNumber layout depth (next :: items) rest
    have first := readValue?_chars item (depth + 1) fuel _ exact ends (by omega)
    have others := readItems?_chars next items depth fuel rest allExact.1 allExact.2
      (by simp only [List.length_append]; omega)
    simp only [readItems?, first, Option.bind_eq_bind, Option.bind_some]
    simp [Layout.itemChars, skipSpace_cons, isSpace, readItems?_blank (layout.line_blank _), others,
      trees]

theorem readMembers?_chars : ∀ (key : String) (value : Json) (members : List (String × Json))
    (depth fuel : Nat) (rest : List Char), value.isExact → membersExact members →
    2 * (quote key ++ ':' :: (layout.colon ++ (layout.chars (depth + 1) value ++
      layout.memberChars depth members))).length ≤ fuel →
    readMembers? fuel (quote key ++ ':' :: (layout.colon ++ (layout.chars (depth + 1) value ++
      (layout.memberChars depth members ++ rest)))) =
      some ((some key, value.tree) :: memberTrees members, rest)
  | key, _, _, _, 0, _, _, _, enough => by simp [quote] at enough
  | key, value, [], depth, fuel + 1, rest, exact, _, enough => by
    simp only [List.length_append, List.length_cons, Layout.memberChars] at enough
    have ends := memberChars_endsNumber layout depth [] rest
    have first := readValue?_chars value (depth + 1) fuel _ exact ends (by omega)
    have closed : skipSpace (layout.memberChars depth [] ++ rest) = '\x7d' :: rest := by
      simp [Layout.memberChars, skipSpace_blank (layout.line_blank _), skipSpace_cons, isSpace]
    rw [readMembers?_last layout key fuel _ first closed, memberTrees]
  | key, value, (next, other) :: members, depth, fuel + 1, rest, exact, allExact, enough => by
    simp only [membersExact, Bool.and_eq_true] at allExact
    simp only [List.length_append, List.length_cons, Layout.memberChars] at enough
    have ends := memberChars_endsNumber layout depth ((next, other) :: members) rest
    have first := readValue?_chars value (depth + 1) fuel _ exact ends (by omega)
    have others := readMembers?_chars next other members depth fuel rest allExact.1 allExact.2
      (by simp only [List.length_append, List.length_cons]; omega)
    rw [← readMembers?_blank (layout.line_blank (depth + 1))] at others
    have comma : isSpace ',' = false := by decide
    simp only [Layout.memberChars, List.cons_append, List.append_assoc] at first ⊢
    exact readMembers?_next layout key fuel _ first (skipSpace_cons comma _) others

end

/-- A whole text holds the value that was written, and nothing else. -/
theorem Tree.ofChars?_chars (depth : Nat) (json : Json) (exact : json.isExact) :
    Tree.ofChars? (layout.chars depth json) = some json.tree := by
  have read := readValue?_chars layout json depth (2 * (layout.chars depth json).length + 1) []
    exact endsNumber_nil (by omega)
  rw [List.append_nil] at read
  simp [Tree.ofChars?, read, skipSpace]

theorem Tree.ofText?_compact (json : Json) (exact : json.isExact) :
    Tree.ofText? json.compact = some json.tree := by
  rw [Tree.ofText?, Json.compact, String.toList_ofList, compactChars_eq 0]
  exact Tree.ofChars?_chars Layout.compact 0 json exact

theorem Tree.ofText?_pretty (json : Json) (exact : json.isExact) :
    Tree.ofText? json.pretty = some json.tree := by
  rw [Tree.ofText?, Json.pretty, String.toList_ofList, prettyChars_eq 0]
  exact Tree.ofChars?_chars Layout.pretty 0 json exact

end Testbook.Json
