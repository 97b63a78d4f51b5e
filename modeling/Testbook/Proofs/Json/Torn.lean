import Mathlib.Data.List.TakeWhile
import Testbook.Proofs.Json.Extent
import Testbook.Proofs.Json.ReadBack

/-! What was written after a torn text cannot be read with it. A record that stands after anything but
blanks is taken for a part of what was begun before it, which then has no end. -/

set_option autoImplicit false

namespace Testbook

/-- No record is opened before the rest of a text. -/
def Json.Passes (cs rest : List Char) : Prop := ∃ taken, cs = taken ++ rest ∧ '\x7b' ∉ taken

namespace Json.Passes

variable {cs mid rest : List Char}

theorem refl (cs : List Char) : Passes cs cs := ⟨[], rfl, by simp⟩

theorem trans (first : Passes cs mid) (second : Passes mid rest) : Passes cs rest := by
  obtain ⟨taken, rfl, none⟩ := first
  obtain ⟨taken', rfl, none'⟩ := second
  exact ⟨taken ++ taken', by rw [List.append_assoc], by simp [none, none']⟩

theorem cons {c : Char} (other : c ≠ '\x7b') (passes : Passes cs rest) : Passes (c :: cs) rest := by
  obtain ⟨taken, rfl, none⟩ := passes
  exact ⟨c :: taken, rfl, by simp [other.symm, none]⟩

theorem tail {c : Char} (other : c ≠ '\x7b') (passes : Passes cs (c :: rest)) : Passes cs rest :=
  passes.trans (cons other (refl rest))

theorem before {front record : List Char} (passes : Passes (front ++ '\x7b' :: record) rest) :
    ∃ left, rest = left ++ '\x7b' :: record := by
  obtain ⟨taken, same, none⟩ := passes
  rcases List.append_eq_append_iff.mp same with ⟨extra, rfl, split⟩ | ⟨left, rfl, rest_eq⟩
  · cases extra with
    | nil => exact ⟨[], split.symm⟩
    | cons c extra =>
      cases split
      exact absurd (by simp) none
  · exact ⟨left, rest_eq⟩

end Json.Passes

/-! ### What readers pass -/

theorem Decimal.take_passes (limit : Nat) (cs : List Char) : Json.Passes cs (take limit cs).2 := by
  induction limit generalizing cs with
  | zero => exact .refl cs
  | succ limit ih =>
    cases cs with
    | nil => exact .refl []
    | cons c cs =>
      unfold take
      split
      · rename_i d digit
        have other : c ≠ '\x7b' := by
          rintro rfl
          cases digit
        exact .cons other (ih cs)
      · exact .refl _

namespace Json

theorem skipSpace_passes (cs : List Char) : Passes cs (skipSpace cs) := by
  refine ⟨cs.takeWhile isSpace, List.takeWhile_append_dropWhile.symm, ?_⟩
  intro member
  have blank := List.mem_takeWhile_imp member
  cases blank

theorem span_passes {cs rest : List Char} {ds : List Nat} (spanned : Decimal.span cs = (ds, rest)) :
    Passes cs rest := by
  have passes := Decimal.take_passes cs.length cs
  rwa [← Decimal.span, spanned] at passes

theorem readMinus_passes (cs : List Char) : Passes cs (readMinus cs).2 := by
  unfold readMinus
  split
  · exact .cons (by decide) (.refl _)
  · exact .refl _

theorem readWhole?_passes {cs rest : List Char} {n : Nat} (read : readWhole? cs = some (n, rest)) :
    Passes cs rest := by
  unfold readWhole? at read
  split at read
  · cases read
    exact .cons (by decide) (.refl _)
  · split at read
    · cases read
    · rename_i spanned
      cases read
      exact span_passes spanned

theorem readFraction?_passes {cs rest : List Char} {ds : List Nat}
    (read : readFraction? cs = some (ds, rest)) : Passes cs rest := by
  unfold readFraction? at read
  split at read
  · split at read
    · cases read
    · rename_i spanned
      cases read
      exact .cons (by decide) (span_passes spanned)
  · cases read
    exact .refl _

theorem readPower?_passes {sign : Int} {cs rest : List Char} {power : Option Int}
    (read : readPower? sign cs = some (power, rest)) : Passes cs rest := by
  unfold readPower? at read
  split at read
  · cases read
  · rename_i spanned
    cases read
    exact span_passes spanned

theorem readExponent?_passes {cs rest : List Char} {power : Option Int}
    (read : readExponent? cs = some (power, rest)) : Passes cs rest := by
  unfold readExponent? at read
  split at read
  · split at read
    · rename_i c after letter
      have other : c ≠ '\x7b' := by rcases letter with rfl | rfl <;> decide
      split at read
      · exact .cons other (.cons (by decide) (readPower?_passes read))
      · exact .cons other (.cons (by decide) (readPower?_passes read))
      · exact .cons other (readPower?_passes read)
    · cases read
      exact .refl _
  · cases read
    exact .refl _

theorem readNumeral?_passes {cs rest : List Char} {n : Numeral}
    (read : readNumeral? cs = some (n, rest)) : Passes cs rest := by
  obtain ⟨⟨whole, cs₁⟩, first, read⟩ := Option.bind_eq_some_iff.mp read
  obtain ⟨⟨fraction, cs₂⟩, second, read⟩ := Option.bind_eq_some_iff.mp read
  obtain ⟨⟨exponent, cs₃⟩, third, read⟩ := Option.bind_eq_some_iff.mp read
  cases read
  exact (((readMinus_passes cs).trans (readWhole?_passes first)).trans
    (readFraction?_passes second)).trans (readExponent?_passes third)

theorem hexUnit?_solid {a b c d : Char} {n : Nat} (read : hexUnit? a b c d = some n) :
    '\x7b' ∉ [a, b, c, d] := by
  have noDigit : Hexadecimal.digit? '\x7b' = none := by decide
  obtain ⟨_, first, read⟩ := Option.bind_eq_some_iff.mp read
  obtain ⟨_, second, read⟩ := Option.bind_eq_some_iff.mp read
  obtain ⟨_, third, read⟩ := Option.bind_eq_some_iff.mp read
  obtain ⟨_, fourth, _⟩ := Option.bind_eq_some_iff.mp read
  have other {x : Char} {value : Nat} (digit : Hexadecimal.digit? x = some value) : '\x7b' ≠ x := by
    rintro rfl
    rw [noDigit] at digit
    cases digit
  simp [other first, other second, other third, other fourth]

/-! ### A record after a torn text -/

abbrev idRecord (tail : List Char) : List Char := '\x7b' :: '"' :: 'i' :: tail

section Torn

variable {tail : List Char}

-- A text that was begun before the record ends at the first quote in it, and its key goes on there.
/-- A text ends before the record, or right inside of it. -/
theorem pieces?_torn {front rest : List Char} {ps : List Piece}
    (read : pieces? (front ++ idRecord tail) = some (ps, rest)) :
    (∃ left, rest = left ++ idRecord tail) ∨ rest = 'i' :: tail := by
  generalize whole : front ++ idRecord tail = cs at read
  fun_induction pieces? cs generalizing front ps rest with
  | case1 => simp at whole
  | case2 cs =>
    cases read
    have passes : Passes ('"' :: cs) cs := .cons (by decide) (.refl cs)
    rw [← whole] at passes
    exact Or.inl passes.before
  | case3 a b c d cs ih =>
    obtain ⟨unit, hex, more⟩ := Option.bind_eq_some_iff.mp read
    obtain ⟨⟨ps', rest'⟩, found, same⟩ := Option.bind_eq_some_iff.mp more
    cases same
    have solid := hexUnit?_solid hex
    have passes : Passes ('\\' :: 'u' :: a :: b :: c :: d :: cs) cs :=
      ⟨['\\', 'u', a, b, c, d], rfl, by simpa using solid⟩
    rw [← whole] at passes
    obtain ⟨left, same⟩ := passes.before
    exact ih same.symm found
  | case4 e cs _ ih =>
    obtain ⟨c, escape, more⟩ := Option.bind_eq_some_iff.mp read
    obtain ⟨⟨ps', rest'⟩, found, same⟩ := Option.bind_eq_some_iff.mp more
    cases same
    have other : e ≠ '\x7b' := by
      rintro rfl
      cases escape
    have passes : Passes ('\\' :: e :: cs) cs := .cons (by decide) (.cons other (.refl cs))
    rw [← whole] at passes
    obtain ⟨left, same⟩ := passes.before
    exact ih same.symm found
  | case5 => cases read
  | case6 c cs _ _ _ _ ih =>
    obtain ⟨⟨ps', rest'⟩, found, same⟩ := Option.map_eq_some_iff.mp read
    cases same
    cases front with
    | nil =>
      cases whole
      cases found
      exact Or.inr rfl
    | cons first front =>
      cases whole
      exact ih rfl found

theorem readText?_torn {front rest : List Char} {s : Option String}
    (read : readText? (front ++ idRecord tail) = some (s, rest)) :
    (∃ left, rest = left ++ idRecord tail) ∨ rest = 'i' :: tail := by
  obtain ⟨⟨ps, rest'⟩, found, same⟩ := Option.map_eq_some_iff.mp read
  cases same
  exact pieces?_torn found

/-- What stands before a record is blank, or the blanks before it end at something else. -/
theorem skipSpace_torn (tail front : List Char) : front.all isSpace = true ∨
    ∃ c left, skipSpace (front ++ idRecord tail) = c :: (left ++ idRecord tail) := by
  induction front with
  | nil => exact Or.inl rfl
  | cons c front ih =>
    cases blank : isSpace c with
    | false => exact Or.inr ⟨c, front, skipSpace_cons blank _⟩
    | true =>
      have step : skipSpace (c :: front ++ idRecord tail) = skipSpace (front ++ idRecord tail) := by
        simp [skipSpace, blank]
      rw [step, List.all_cons, blank, Bool.true_and]
      exact ih

/-- Where a value ends that was begun before the record: before it, inside of it, or after it if nothing
but blanks stood there. -/
def EndsTorn (tail front rest : List Char) : Prop :=
  (∃ left, rest = left ++ idRecord tail) ∨ rest = 'i' :: tail ∨ front.all isSpace = true ∧ rest = []

theorem EndsTorn.mark {front rest after : List Char} {c : Char} (ends : EndsTorn tail front rest)
    (found : skipSpace rest = c :: after) (noKey : c ≠ 'i') (other : c ≠ '\x7b') :
    ∃ left, after = left ++ idRecord tail := by
  rcases ends with ⟨left, rfl⟩ | rfl | ⟨_, rfl⟩
  · have passes := skipSpace_passes (left ++ idRecord tail)
    rw [found] at passes
    exact (passes.tail other).before
  · rw [skipSpace_cons (by decide)] at found
    cases found
    exact absurd rfl noKey
  · cases found

/-- With this much fuel, items and members that were begun before the record end before it. -/
structure ReadsTorn (tail : List Char) (fuel : Nat) : Prop where
  value : ∀ {front t rest},
    readValue? fuel (front ++ idRecord tail) = some (t, rest) → EndsTorn tail front rest
  items : ∀ {front items rest},
    readItems? fuel (front ++ idRecord tail) = some (items, rest) →
      ∃ left, rest = left ++ idRecord tail
  members : ∀ {front members rest},
    readMembers? fuel (front ++ idRecord tail) = some (members, rest) →
      ∃ left, rest = left ++ idRecord tail

namespace ReadsTorn

variable {fuel : Nat} {front rest : List Char}

-- The record alone is read to its end, by whatever fuel.
theorem value_succ (torn : ReadsTorn tail fuel)
    (whole : ∀ {t rest}, readValue? (fuel + 1) (idRecord tail) = some (t, rest) → rest = []) {t : Tree}
    (read : readValue? (fuel + 1) (front ++ idRecord tail) = some (t, rest)) :
    EndsTorn tail front rest := by
  rcases skipSpace_torn tail front with blank | ⟨c, left, step⟩
  · rw [readValue?_blank blank] at read
    exact Or.inr (Or.inr ⟨blank, whole read⟩)
  · -- Something else stands before the record, and the value begins with it: a text, a list, a record,
    -- a word or a number.
    have after {x : Char} {cs : List Char} (found : skipSpace (front ++ idRecord tail) = x :: cs) :
        cs = left ++ idRecord tail := by
      rw [step] at found
      exact (List.cons.inj found).2.symm
    have passes := skipSpace_passes (front ++ idRecord tail)
    have inside := skipSpace_passes (left ++ idRecord tail)
    unfold readValue? at read
    split at read
    case h_1 quoted found =>
      cases after found
      obtain ⟨⟨s, rest'⟩, text, same⟩ := Option.map_eq_some_iff.mp read
      cases same
      exact (readText?_torn text).imp_right Or.inl
    case h_2 opened found =>
      cases after found
      split at read
      · rename_i bracket
        cases read
        rw [bracket] at inside
        exact Or.inl (inside.tail (by decide)).before
      · obtain ⟨⟨items, rest'⟩, more, same⟩ := Option.map_eq_some_iff.mp read
        cases same
        obtain ⟨left', start⟩ := inside.before
        rw [start] at more
        exact Or.inl (torn.items more)
    case h_3 opened found =>
      cases after found
      split at read
      · rename_i brace
        cases read
        rw [brace] at inside
        exact Or.inl (inside.tail (by decide)).before
      · obtain ⟨⟨members, rest'⟩, more, same⟩ := Option.map_eq_some_iff.mp read
        cases same
        obtain ⟨left', start⟩ := inside.before
        rw [start] at more
        exact Or.inl (torn.members more)
    case h_4 found =>
      cases read
      rw [found] at passes
      exact Or.inl (passes.trans ⟨['n', 'u', 'l', 'l'], rfl, by decide⟩).before
    case h_5 found =>
      cases read
      rw [found] at passes
      exact Or.inl (passes.trans ⟨['t', 'r', 'u', 'e'], rfl, by decide⟩).before
    case h_6 found =>
      cases read
      rw [found] at passes
      exact Or.inl (passes.trans ⟨['f', 'a', 'l', 's', 'e'], rfl, by decide⟩).before
    case h_7 =>
      obtain ⟨⟨n, rest'⟩, number, same⟩ := Option.map_eq_some_iff.mp read
      cases same
      exact Or.inl (passes.trans (readNumeral?_passes number)).before

theorem items_succ (torn : ReadsTorn tail fuel) {items : List Tree}
    (read : readItems? (fuel + 1) (front ++ idRecord tail) = some (items, rest)) :
    ∃ left, rest = left ++ idRecord tail := by
  obtain ⟨item, left, first, step⟩ := readItems?_eq_some.mp read
  have ends := torn.value first
  rcases step with ⟨bracket, _⟩ | ⟨after, others, comma, more, _⟩
  · exact ends.mark bracket (by decide) (by decide)
  · obtain ⟨left', rfl⟩ := ends.mark comma (by decide) (by decide)
    exact torn.items more

theorem members_succ (torn : ReadsTorn tail fuel) {members : List (Option String × Tree)}
    (read : readMembers? (fuel + 1) (front ++ idRecord tail) = some (members, rest)) :
    ∃ left, rest = left ++ idRecord tail := by
  obtain ⟨quoted, key, afterKey, valued, item, left, start, first, colon, second, step⟩ :=
    readMembers?_eq_some.mp read
  have passes := skipSpace_passes (front ++ idRecord tail)
  rw [start] at passes
  obtain ⟨left₁, rfl⟩ := (passes.tail (by decide)).before
  have keyEnds : EndsTorn tail front afterKey := (readText?_torn first).imp_right Or.inl
  obtain ⟨left₂, rfl⟩ := keyEnds.mark colon (by decide) (by decide)
  have ends := torn.value second
  rcases step with ⟨brace, _⟩ | ⟨after, others, comma, more, _⟩
  · exact ends.mark brace (by decide) (by decide)
  · obtain ⟨left₃, rfl⟩ := ends.mark comma (by decide) (by decide)
    exact torn.members more

end ReadsTorn

theorem readsTorn
    (whole : ∀ {fuel t rest}, readValue? fuel (idRecord tail) = some (t, rest) → rest = [])
    (fuel : Nat) : ReadsTorn tail fuel := by
  induction fuel with
  | zero =>
    constructor
    · intro front t rest read
      simp [readValue?] at read
    · intro front items rest read
      simp [readItems?] at read
    · intro front members rest read
      simp [readMembers?] at read
  | succ fuel torn => exact ⟨torn.value_succ whole, torn.items_succ, torn.members_succ⟩

end Torn

section Written

variable {json : Json} {tail : List Char}

/-- A value that was written is read to its end, or not at all. -/
theorem readValue?_written (exact : json.isExact) {fuel : Nat} {t : Tree} {rest : List Char}
    (read : readValue? fuel (compactChars json) = some (t, rest)) : rest = [] := by
  have enough := readValue?_chars Layout.compact json 0 (2 * (compactChars json).length) []
    exact endsNumber_nil (by rw [compactChars_eq 0])
  rw [← compactChars_eq 0, List.append_nil] at enough
  have all := readValue?_moreFuel (Nat.le_max_left fuel (2 * (compactChars json).length)) read
  rw [readValue?_moreFuel (Nat.le_max_right fuel _) enough] at all
  cases all
  rfl

/-- After a torn text a record cannot be read, and the torn text cannot be read with it. -/
theorem Tree.ofChars?_torn (exact : json.isExact)
    (begins : compactChars json = idRecord tail) {front : List Char}
    (torn : front.all isSpace = false) : Tree.ofChars? (front ++ compactChars json) = none := by
  have whole {fuel : Nat} {t : Tree} {rest : List Char}
      (read : readValue? fuel (idRecord tail) = some (t, rest)) : rest = [] := by
    rw [← begins] at read
    exact readValue?_written exact read
  rw [begins]
  unfold Tree.ofChars?
  split
  · rename_i t rest read
    rw [if_neg]
    rcases (readsTorn whole _).value read with ⟨left, rfl⟩ | rfl | ⟨blank, _⟩
    · obtain ⟨left', start⟩ := (skipSpace_passes (left ++ idRecord tail)).before
      simp [start]
    · rw [skipSpace_cons (by decide)]
      simp
    · rw [torn] at blank
      cases blank
  · rfl

theorem Tree.ofChars?_blank (exact : json.isExact) {front : List Char} (blank : front.all isSpace) :
    Tree.ofChars? (front ++ compactChars json) = some json.tree := by
  have read := readValue?_chars Layout.compact json 0 (2 * (front ++ compactChars json).length + 1) []
    exact endsNumber_nil (by simp only [← compactChars_eq 0, List.length_append]; omega)
  rw [← compactChars_eq 0, List.append_nil, ← readValue?_blank blank] at read
  rw [Tree.ofChars?, read]
  rfl

end Written

end Json

end Testbook
