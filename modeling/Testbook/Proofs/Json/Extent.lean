import Testbook.Proofs.Json.Steps

/-! A text has no fewer characters than there are items and members in what is read from it. -/

set_option autoImplicit false

namespace Testbook

theorem Decimal.take_length (limit : Nat) (cs : List Char) :
    (take limit cs).2.length ≤ cs.length := by
  induction limit generalizing cs with
  | zero => exact Nat.le_refl _
  | succ limit ih =>
    cases cs with
    | nil => exact Nat.le_refl _
    | cons c cs =>
      unfold take
      have shorter := ih cs
      split
      · simp only [List.length_cons]
        omega
      · exact Nat.le_refl _

theorem Decimal.span_length (cs : List Char) : (span cs).2.length ≤ cs.length :=
  take_length cs.length cs

namespace Json

theorem skipSpace_length (cs : List Char) : (skipSpace cs).length ≤ cs.length :=
  (List.dropWhile_sublist isSpace).length_le

theorem pieces?_length {cs rest : List Char} {ps : List Piece} (read : pieces? cs = some (ps, rest)) :
    rest.length ≤ cs.length := by
  fun_induction pieces? cs generalizing ps rest with
  | case1 => cases read
  | case2 => cases read; simp
  | case3 a b c d cs ih =>
    obtain ⟨unit, _, more⟩ := Option.bind_eq_some_iff.mp read
    obtain ⟨⟨ps', rest'⟩, found, same⟩ := Option.bind_eq_some_iff.mp more
    cases same
    have shorter := ih found
    simp only [List.length_cons]
    omega
  | case4 e cs _ ih =>
    obtain ⟨c, _, more⟩ := Option.bind_eq_some_iff.mp read
    obtain ⟨⟨ps', rest'⟩, found, same⟩ := Option.bind_eq_some_iff.mp more
    cases same
    have shorter := ih found
    simp only [List.length_cons]
    omega
  | case5 => cases read
  | case6 c cs _ _ _ _ ih =>
    obtain ⟨⟨ps', rest'⟩, found, same⟩ := Option.map_eq_some_iff.mp read
    cases same
    have shorter := ih found
    simp only [List.length_cons]
    omega

theorem readText?_length {cs rest : List Char} {s : Option String}
    (read : readText? cs = some (s, rest)) : rest.length ≤ cs.length := by
  obtain ⟨⟨ps, rest'⟩, found, same⟩ := Option.map_eq_some_iff.mp read
  cases same
  exact pieces?_length found

theorem readMinus_length (cs : List Char) : (readMinus cs).2.length ≤ cs.length := by
  unfold readMinus
  split <;> simp

theorem readWhole?_length {cs rest : List Char} {n : Nat} (read : readWhole? cs = some (n, rest)) :
    rest.length ≤ cs.length := by
  have spanned := Decimal.span_length cs
  unfold readWhole? at read
  split at read
  · cases read; simp
  · split at read
    · cases read
    · rename_i found
      cases read
      simpa [found] using spanned

theorem readFraction?_length {cs rest : List Char} {ds : List Nat}
    (read : readFraction? cs = some (ds, rest)) : rest.length ≤ cs.length := by
  unfold readFraction? at read
  split at read
  · rename_i after
    have spanned := Decimal.span_length after
    split at read
    · cases read
    · rename_i found
      cases read
      simp only [found, List.length_cons] at spanned ⊢
      omega
  · cases read; exact Nat.le_refl _

theorem readPower?_length {sign : Int} {cs rest : List Char} {power : Option Int}
    (read : readPower? sign cs = some (power, rest)) : rest.length ≤ cs.length := by
  have spanned := Decimal.span_length cs
  unfold readPower? at read
  split at read
  · cases read
  · rename_i found
    cases read
    simpa [found] using spanned

theorem readExponent?_length {cs rest : List Char} {power : Option Int}
    (read : readExponent? cs = some (power, rest)) : rest.length ≤ cs.length := by
  unfold readExponent? at read
  split at read
  · split at read
    · split at read <;>
        (have shorter := readPower?_length read; simp only [List.length_cons] at shorter ⊢; omega)
    · cases read; exact Nat.le_refl _
  · cases read; exact Nat.le_refl _

theorem readNumeral?_length {cs rest : List Char} {n : Numeral}
    (read : readNumeral? cs = some (n, rest)) : rest.length ≤ cs.length := by
  obtain ⟨⟨whole, cs₁⟩, first, read⟩ := Option.bind_eq_some_iff.mp read
  obtain ⟨⟨fraction, cs₂⟩, second, read⟩ := Option.bind_eq_some_iff.mp read
  obtain ⟨⟨exponent, cs₃⟩, third, read⟩ := Option.bind_eq_some_iff.mp read
  cases read
  calc rest.length
      ≤ cs₂.length := readExponent?_length third
    _ ≤ cs₁.length := readFraction?_length second
    _ ≤ (readMinus cs).2.length := readWhole?_length first
    _ ≤ cs.length := readMinus_length cs

namespace Tree

mutual

def extent : Tree → Nat
  | .list items => extents items
  | .record members => memberExtents members
  | _ => 0

def extents : List Tree → Nat
  | [] => 0
  | item :: items => extent item + 1 + extents items

def memberExtents : List (Option String × Tree) → Nat
  | [] => 0
  | (_, item) :: members => extent item + 1 + memberExtents members

end

theorem length_le_extents (items : List Tree) : items.length ≤ extents items := by
  induction items with
  | nil => exact Nat.le_refl _
  | cons item items ih =>
    simp only [List.length_cons, extents]
    omega

theorem extent_le_of_mem {item : Tree} {items : List Tree} (member : item ∈ items) :
    extent item ≤ extents items := by
  induction items with
  | nil => cases member
  | cons first items ih =>
    simp only [extents]
    rcases List.mem_cons.mp member with rfl | later
    · omega
    · have := ih later
      omega

end Tree

/-- With this much fuel, what a reader takes and what it leaves are no more than the text. -/
structure ReadsWithin (fuel : Nat) : Prop where
  value : ∀ {cs t rest}, readValue? fuel cs = some (t, rest) → t.extent + rest.length ≤ cs.length
  items : ∀ {cs items rest}, readItems? fuel cs = some (items, rest) →
    Tree.extents items + rest.length ≤ cs.length
  members : ∀ {cs members rest}, readMembers? fuel cs = some (members, rest) →
    Tree.memberExtents members + rest.length ≤ cs.length

namespace ReadsWithin

variable {fuel : Nat} {cs rest : List Char}

-- Each item is paid for by the comma or the bracket after it, so that items may be empty.
theorem items_succ (within : ReadsWithin fuel) {items : List Tree}
    (read : readItems? (fuel + 1) cs = some (items, rest)) :
    Tree.extents items + rest.length ≤ cs.length := by
  obtain ⟨item, left, first, step⟩ := readItems?_eq_some.mp read
  have shorter := within.value first
  have skipped := skipSpace_length left
  rcases step with ⟨bracket, rfl⟩ | ⟨after, others, comma, found, rfl⟩
  · simp only [bracket, List.length_cons, Tree.extents] at skipped ⊢
    omega
  · have shorter' := within.items found
    simp only [comma, List.length_cons, Tree.extents] at skipped ⊢
    omega

theorem member_succ (within : ReadsWithin fuel) {key : Option String} {afterKey valued : List Char}
    {item : Tree} {quoted : List Char} (start : skipSpace cs = '"' :: quoted)
    (first : readText? quoted = some (key, afterKey)) (colon : skipSpace afterKey = ':' :: valued)
    (second : readValue? fuel valued = some (item, rest)) :
    item.extent + rest.length + 2 ≤ cs.length := by
  have skipped := skipSpace_length cs
  have keyed := readText?_length first
  have skipped' := skipSpace_length afterKey
  have shorter := within.value second
  simp only [start, colon, List.length_cons] at skipped skipped'
  omega

theorem members_succ (within : ReadsWithin fuel) {members : List (Option String × Tree)}
    (read : readMembers? (fuel + 1) cs = some (members, rest)) :
    Tree.memberExtents members + rest.length ≤ cs.length := by
  obtain ⟨quoted, key, afterKey, valued, item, left, start, first, colon, second, step⟩ :=
    readMembers?_eq_some.mp read
  have shorter := within.member_succ start first colon second
  have skipped := skipSpace_length left
  rcases step with ⟨bracket, rfl⟩ | ⟨after, others, comma, found, rfl⟩
  · simp only [bracket, List.length_cons, Tree.memberExtents] at skipped ⊢
    omega
  · have shorter' := within.members found
    simp only [comma, List.length_cons, Tree.memberExtents] at skipped ⊢
    omega

theorem value_succ (within : ReadsWithin fuel) {t : Tree}
    (read : readValue? (fuel + 1) cs = some (t, rest)) : t.extent + rest.length ≤ cs.length := by
  have skipped := skipSpace_length cs
  unfold readValue? at read
  split at read
  case h_1 after start =>
    obtain ⟨⟨s, rest'⟩, found, same⟩ := Option.map_eq_some_iff.mp read
    cases same
    have shorter := readText?_length found
    simp only [start, List.length_cons, Tree.extent] at skipped ⊢
    omega
  case h_2 after start =>
    have skipped' := skipSpace_length after
    simp only [start, List.length_cons] at skipped
    split at read
    · rename_i empty
      cases read
      simp only [empty, List.length_cons, Tree.extent, Tree.extents] at skipped' ⊢
      omega
    · obtain ⟨⟨items', rest'⟩, found, same⟩ := Option.map_eq_some_iff.mp read
      cases same
      have shorter := within.items found
      simp only [Tree.extent]
      omega
  case h_3 after start =>
    have skipped' := skipSpace_length after
    simp only [start, List.length_cons] at skipped
    split at read
    · rename_i empty
      cases read
      simp only [empty, List.length_cons, Tree.extent, Tree.memberExtents] at skipped' ⊢
      omega
    · obtain ⟨⟨members', rest'⟩, found, same⟩ := Option.map_eq_some_iff.mp read
      cases same
      have shorter := within.members found
      simp only [Tree.extent]
      omega
  case h_7 =>
    obtain ⟨⟨n, rest'⟩, found, same⟩ := Option.map_eq_some_iff.mp read
    cases same
    have shorter := readNumeral?_length found
    simp only [Tree.extent]
    omega
  -- The words have no items.
  all_goals
    rename_i after start
    cases read
    simp only [start, List.length_cons, Tree.extent] at skipped ⊢
    omega

end ReadsWithin

-- The three readers call each other, and each call has less fuel.
theorem readsWithin (fuel : Nat) : ReadsWithin fuel := by
  induction fuel with
  | zero =>
    constructor
    · intro cs t rest read
      simp [readValue?] at read
    · intro cs items rest read
      simp [readItems?] at read
    · intro cs members rest read
      simp [readMembers?] at read
  | succ fuel within => exact ⟨within.value_succ, within.items_succ, within.members_succ⟩

theorem Tree.ofText?_extent {s : String} {t : Tree} (read : Tree.ofText? s = some t) :
    t.extent ≤ s.length := by
  unfold Tree.ofText? Tree.ofChars? at read
  split at read
  · rename_i t' rest found
    split at read
    · cases read
      have extent := (readsWithin _).value found
      rw [String.length_toList] at extent
      omega
    · cases read
  · cases read

end Json

end Testbook
