import Testbook.Json.Reader

/-! What one call of a reader of items or members does when it succeeds: each reads one entry, and ends or
goes on with the others. More fuel does not change what is read. -/

set_option autoImplicit false

namespace Testbook.Json

section Steps

variable {fuel : Nat} {cs rest : List Char}

theorem readItems?_eq_some {items : List Tree} :
    readItems? (fuel + 1) cs = some (items, rest) ↔
      ∃ item left, readValue? fuel cs = some (item, left) ∧
        ((skipSpace left = ']' :: rest ∧ items = [item]) ∨
          ∃ after others, skipSpace left = ',' :: after ∧
            readItems? fuel after = some (others, rest) ∧ items = item :: others) := by
  constructor
  · intro read
    unfold readItems? at read
    obtain ⟨⟨item, left⟩, first, read⟩ := Option.bind_eq_some_iff.mp read
    refine ⟨item, left, first, ?_⟩
    dsimp only at read
    split at read
    · rename_i after comma
      obtain ⟨⟨others, last⟩, found, same⟩ := Option.bind_eq_some_iff.mp read
      cases same
      exact Or.inr ⟨after, others, comma, found, rfl⟩
    · rename_i after bracket
      cases read
      exact Or.inl ⟨bracket, rfl⟩
    · cases read
  · rintro ⟨item, left, first, ⟨bracket, rfl⟩ | ⟨after, others, comma, found, rfl⟩⟩
    · simp [readItems?, first, bracket]
    · simp [readItems?, first, comma, found]

theorem readMembers?_eq_some {members : List (Option String × Tree)} :
    readMembers? (fuel + 1) cs = some (members, rest) ↔
      ∃ quoted key afterKey valued item left, skipSpace cs = '"' :: quoted ∧
        readText? quoted = some (key, afterKey) ∧ skipSpace afterKey = ':' :: valued ∧
        readValue? fuel valued = some (item, left) ∧
        ((skipSpace left = '\x7d' :: rest ∧ members = [(key, item)]) ∨
          ∃ after others, skipSpace left = ',' :: after ∧
            readMembers? fuel after = some (others, rest) ∧ members = (key, item) :: others) := by
  constructor
  · intro read
    unfold readMembers? at read
    dsimp only at read
    split at read
    · rename_i quoted start
      obtain ⟨⟨key, afterKey⟩, first, read⟩ := Option.bind_eq_some_iff.mp read
      dsimp only at read
      split at read
      · rename_i valued colon
        obtain ⟨⟨item, left⟩, second, read⟩ := Option.bind_eq_some_iff.mp read
        refine ⟨quoted, key, afterKey, valued, item, left, start, first, colon, second, ?_⟩
        dsimp only at read
        split at read
        · rename_i after comma
          obtain ⟨⟨others, last⟩, found, same⟩ := Option.bind_eq_some_iff.mp read
          cases same
          exact Or.inr ⟨after, others, comma, found, rfl⟩
        · rename_i after bracket
          cases read
          exact Or.inl ⟨bracket, rfl⟩
        · cases read
      · cases read
    · cases read
  · rintro ⟨quoted, key, afterKey, valued, item, left, start, first, colon, second, step⟩
    rcases step with ⟨bracket, rfl⟩ | ⟨after, others, comma, found, rfl⟩
    · simp [readMembers?, start, first, colon, second, bracket]
    · simp [readMembers?, start, first, colon, second, comma, found]

end Steps

/-! ### Fuel -/

/-- One more unit of fuel does not change what was read. -/
structure FuelSteady (fuel : Nat) : Prop where
  value : ∀ {cs found}, readValue? fuel cs = some found → readValue? (fuel + 1) cs = some found
  items : ∀ {cs found}, readItems? fuel cs = some found → readItems? (fuel + 1) cs = some found
  members : ∀ {cs found}, readMembers? fuel cs = some found → readMembers? (fuel + 1) cs = some found

namespace FuelSteady

variable {fuel : Nat} {cs : List Char}

theorem value_succ (steady : FuelSteady fuel) {found : Tree × List Char}
    (read : readValue? (fuel + 1) cs = some found) : readValue? (fuel + 2) cs = some found := by
  unfold readValue? at read ⊢
  split at read
  case h_2 =>
    dsimp only
    split at read
    · exact read
    · obtain ⟨inside, found, same⟩ := Option.map_eq_some_iff.mp read
      rw [steady.items found]
      exact congrArg some same
  case h_3 =>
    dsimp only
    split at read
    · exact read
    · obtain ⟨inside, found, same⟩ := Option.map_eq_some_iff.mp read
      rw [steady.members found]
      exact congrArg some same
  all_goals exact read

theorem items_succ (steady : FuelSteady fuel) {found : List Tree × List Char}
    (read : readItems? (fuel + 1) cs = some found) : readItems? (fuel + 2) cs = some found := by
  obtain ⟨item, left, first, step⟩ := readItems?_eq_some.mp read
  refine readItems?_eq_some.mpr ⟨item, left, steady.value first, step.imp_right ?_⟩
  rintro ⟨after, others, comma, more, same⟩
  exact ⟨after, others, comma, steady.items more, same⟩

theorem members_succ (steady : FuelSteady fuel) {found : List (Option String × Tree) × List Char}
    (read : readMembers? (fuel + 1) cs = some found) : readMembers? (fuel + 2) cs = some found := by
  obtain ⟨quoted, key, afterKey, valued, item, left, start, first, colon, second, step⟩ :=
    readMembers?_eq_some.mp read
  refine readMembers?_eq_some.mpr ⟨quoted, key, afterKey, valued, item, left, start, first, colon,
    steady.value second, step.imp_right ?_⟩
  rintro ⟨after, others, comma, more, same⟩
  exact ⟨after, others, comma, steady.members more, same⟩

end FuelSteady

theorem fuelSteady (fuel : Nat) : FuelSteady fuel := by
  induction fuel with
  | zero =>
    constructor
    · intro cs found read
      simp [readValue?] at read
    · intro cs found read
      simp [readItems?] at read
    · intro cs found read
      simp [readMembers?] at read
  | succ fuel steady => exact ⟨steady.value_succ, steady.items_succ, steady.members_succ⟩

theorem readValue?_moreFuel {fuel more : Nat} (le : fuel ≤ more) {cs : List Char}
    {found : Tree × List Char} (read : readValue? fuel cs = some found) :
    readValue? more cs = some found := by
  induction le with
  | refl => exact read
  | step _ ih => exact (fuelSteady _).value ih

end Testbook.Json
