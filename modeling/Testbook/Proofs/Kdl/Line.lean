import Testbook.Kdl.Reader

/-! Documents of lines: on each line stand a name and one value, which is a bare word or a truth value. Such a
document is read back as a row of nodes. -/

set_option autoImplicit false

namespace Testbook.Kdl

variable {c : Char} {rest : List Char}

/-! ### Nothing to skip -/

/-- Nothing is skipped from here on within a line. -/
structure Stops (c : Char) : Prop where
  noSpace : isSpace c = false
  noSlash : c ≠ '/'
  noBackslash : c ≠ '\\'

structure Solid (c : Char) : Prop extends Stops c where
  noBreak : isBreak c = false

theorem stops_feed : Stops '\n' := ⟨by decide, by decide, by decide⟩

theorem skipFrom_stops {breaks : Bool} (stops : Stops c) (held : (breaks && isBreak c) = false)
    (fuel : Nat) (rest : List Char) : skipFrom breaks fuel (c :: rest) = some (c :: rest) := by
  obtain ⟨noSpace, noSlash, noBackslash⟩ := stops
  cases fuel with
  | zero => rfl
  | succ fuel => simp [skipFrom, noSlash, noSpace, held]

theorem skipSpace_stops (stops : Stops c) (rest : List Char) :
    skipSpace (c :: rest) = some (c :: rest) :=
  skipFrom_stops stops rfl _ rest

theorem skipLines_solid (solid : Solid c) (rest : List Char) : skipLines (c :: rest) = some (c :: rest) :=
  skipFrom_stops solid.toStops (by rw [solid.noBreak, Bool.and_false]) _ rest

theorem skipSomeSpace?_stops (stops : Stops c) (rest : List Char) : skipSomeSpace? (c :: rest) = none := by
  simp [skipSomeSpace?, skipSpace_stops stops]

theorem skipSomeSpace?_blank (stops : Stops c) (rest : List Char) :
    skipSomeSpace? (' ' :: c :: rest) = some (c :: rest) := by
  have skipped : skipSpace (' ' :: c :: rest) = some (c :: rest) := by
    have blank : isSpace ' ' = true := by decide
    simp [skipSpace, skipFrom, blank, skipFrom_stops stops]
  simp [skipSomeSpace?, skipped]

theorem skipEntries?_stops (stops : Stops c) (fuel : Nat) (rest : List Char) :
    skipEntries? fuel (c :: rest) = none := by
  cases fuel with
  | zero => rfl
  | succ fuel => simp [skipEntries?, stops.noSlash]

/-! ### Bare words -/

-- A point is no digit either.
theorem noDigit_of_begins
    (begins : (match c :: rest with
      | [] => true
      | '.' :: d :: _ => !Decimal.isDigit d
      | d :: _ => !Decimal.isDigit d) = true) : Decimal.isDigit c = false := by
  split at begins
  · rename_i same
    cases same
  · rename_i same
    cases same
    decide
  · rename_i same
    cases same
    simpa using begins

structure IsBare (cs : List Char) : Prop where
  chars : ∀ c ∈ cs, isWordChar c = true
  word : isWord cs = true

instance (cs : List Char) : Decidable (IsBare cs) :=
  decidable_of_iff (cs.all isWordChar = true ∧ isWord cs = true)
    ⟨fun both => ⟨List.all_eq_true.mp both.1, both.2⟩,
      fun bare => ⟨List.all_eq_true.mpr bare.chars, bare.word⟩⟩

theorem ne_of_isWordChar {other : Char} (word : isWordChar c = true) (apart : isWordChar other = false) :
    c ≠ other := by
  rintro rfl
  rw [word] at apart
  cases apart

theorem solid_of_isWordChar (word : isWordChar c = true) : Solid c := by
  have none : isSpace c = false ∧ isBreak c = false := by
    simp only [isWordChar, Bool.not_eq_true', Bool.or_eq_false_iff] at word
    exact word.1.1
  exact ⟨⟨none.1, ne_of_isWordChar word (by decide), ne_of_isWordChar word (by decide)⟩, none.2⟩

namespace IsBare

variable {cs : List Char}

theorem head (bare : IsBare cs) : ∃ c rest, cs = c :: rest ∧ isWordChar c = true := by
  cases cs with
  | nil => exact absurd bare.word (by decide)
  | cons c rest => exact ⟨c, rest, rfl, bare.chars c List.mem_cons_self⟩

theorem readWord?_eq (bare : IsBare cs) (ends : isWordChar c = false) (rest : List Char) :
    readWord? (cs ++ c :: rest) = some (String.ofList cs, c :: rest) := by
  have taken : (cs ++ c :: rest).takeWhile isWordChar = cs := by
    rw [List.takeWhile_append_of_pos bare.chars, List.takeWhile_cons, ends]
    simp
  have left : (cs ++ c :: rest).dropWhile isWordChar = c :: rest := by
    rw [List.dropWhile_append_of_pos bare.chars, List.dropWhile_cons, ends]
    simp
  simp [readWord?, taken, left, bare.word]

theorem readText?_eq (bare : IsBare cs) (ends : isWordChar c = false) (rest : List Char) :
    readText? (cs ++ c :: rest) = some (String.ofList cs, c :: rest) := by
  have read := bare.readWord?_eq ends rest
  obtain ⟨first, others, rfl, word⟩ := bare.head
  have noQuote : first ≠ '"' := ne_of_isWordChar word (by decide)
  have noHash : first ≠ '#' := ne_of_isWordChar word (by decide)
  rw [List.cons_append] at read ⊢
  simp [readText?, noQuote, noHash, read]

theorem skipType?_eq (bare : IsBare cs) (rest : List Char) :
    skipType? (cs ++ rest) = some (cs ++ rest) := by
  obtain ⟨first, others, rfl, word⟩ := bare.head
  have noType : first ≠ '(' := ne_of_isWordChar word (by decide)
  simp [skipType?, noType]

theorem readKeyword?_eq_none (bare : IsBare cs) (rest : List Char) : readKeyword? (cs ++ rest) = none := by
  obtain ⟨first, others, rfl, word⟩ := bare.head
  have noHash : '#' ≠ first := (ne_of_isWordChar word (by decide)).symm
  simp [readKeyword?, keywords, Text.afterLead?, noHash]

theorem startsNumber_eq_false (bare : IsBare cs) (noDigit : Decimal.isDigit c = false) (rest : List Char) :
    startsNumber (cs ++ c :: rest) = false := by
  have word := bare.word
  unfold isWord at word
  match cs, word with
  | [first], word =>
    have own : Decimal.isDigit first = false := by simp_all
    simp [startsNumber, own, noDigit]
  | first :: second :: others, word =>
    simp only [List.isEmpty_cons, Bool.not_false, Bool.true_and, Bool.and_eq_true, Bool.or_eq_true,
      Bool.not_eq_true'] at word
    obtain ⟨_, begins, signed⟩ := word
    have own := noDigit_of_begins begins
    have next := signed.imp_right noDigit_of_begins
    rcases next with next | next <;> simp [startsNumber, own, next]

end IsBare

/-! ### Values -/

inductive Shows : Value → List Char → Prop where
  | word {s : String} (bare : IsBare s.toList) : Shows (.text s) s.toList
  | on : Shows (.bool true) "#true".toList
  | off : Shows (.bool false) "#false".toList

namespace Shows

variable {value : Value} {shown : List Char}

theorem head (shows : Shows value shown) : ∃ c rest, shown = c :: rest ∧ Solid c := by
  cases shows with
  | word bare =>
    obtain ⟨c, rest, same, word⟩ := bare.head
    exact ⟨c, rest, same, solid_of_isWordChar word⟩
  | on => exact ⟨'#', _, rfl, ⟨⟨by decide, by decide, by decide⟩, by decide⟩⟩
  | off => exact ⟨'#', _, rfl, ⟨⟨by decide, by decide, by decide⟩, by decide⟩⟩

theorem readValue?_eq (shows : Shows value shown) (rest : List Char) :
    readValue? (shown ++ '\n' :: rest) = some (value, '\n' :: rest) := by
  cases shows with
  | word bare =>
    have ends : isWordChar '\n' = false := by decide
    have noDigit : Decimal.isDigit '\n' = false := by decide
    simp [readValue?, bare.skipType?_eq, readPlain?, bare.startsNumber_eq_false noDigit,
      bare.readKeyword?_eq_none, bare.readText?_eq ends]
  | on => rfl
  | off => rfl

theorem readEntry?_eq (shows : Shows value shown) (fuel : Nat) (rest : List Char) :
    readEntry? (fuel + 1) (shown ++ '\n' :: rest) = some (⟨none, value⟩, '\n' :: rest) := by
  have read := shows.readValue?_eq rest
  obtain ⟨c, others, rfl, solid⟩ := shows.head
  rw [List.cons_append] at read ⊢
  simp [readGiven?, readEntry?, skipSpace_stops solid.toStops, skipEntries?_stops solid.toStops, read,
    skipSpace_stops stops_feed]

end Shows

/-! ### Lines -/

structure Line where
  name : String
  value : Value
  shown : List Char
  bare : IsBare name.toList
  shows : Shows value shown

namespace Line

variable (line : Line)

def chars : List Char := line.name.toList ++ ' ' :: (line.shown ++ ['\n'])

def node : Node := .mk line.name [⟨none, line.value⟩] []

theorem readEntries?_eq (fuel : Nat) (rest : List Char) :
    readEntries? (fuel + 2) (' ' :: (line.shown ++ '\n' :: rest)) =
      some ([⟨none, line.value⟩], '\n' :: rest) := by
  have read := line.shows.readEntry?_eq fuel rest
  obtain ⟨c, others, same, solid⟩ := line.shows.head
  rw [same, List.cons_append] at read ⊢
  have ended : readEntries? (fuel + 1) ('\n' :: rest) = some ([], '\n' :: rest) := by
    simp [readEntries?, skipSomeSpace?_stops stops_feed]
  rw [readEntries?]
  simp [skipSomeSpace?_blank solid.toStops, read, ended]

theorem readNode?_eq (fuel : Nat) (rest : List Char) :
    readNode? (fuel + 3) (line.chars ++ rest) = some (line.node, '\n' :: rest) := by
  have apart : line.chars ++ rest = line.name.toList ++ ' ' :: (line.shown ++ '\n' :: rest) := by
    simp [chars]
  have name := line.bare.readText?_eq (c := ' ') (by decide) (line.shown ++ '\n' :: rest)
  rw [apart, readNode?]
  simp [line.bare.skipType?_eq, name, line.readEntries?_eq, skipSomeSpace?_stops stops_feed,
    skipSpace_stops stops_feed, node]

theorem skipLead?_eq (fuel : Nat) (rest : List Char) :
    skipLead? (fuel + 1) (line.chars ++ rest) = some (line.chars ++ rest) := by
  obtain ⟨c, others, same, word⟩ := line.bare.head
  have solid := solid_of_isWordChar word
  rw [chars, same, List.cons_append, List.cons_append, skipLead?, skipLines_solid solid]
  simp only [Option.bind_eq_bind, Option.bind_some]
  split
  · rename_i slash
    exact absurd (List.cons.inj slash).1 solid.noSlash
  · rfl

end Line

theorem readNodes?_nil (fuel : Nat) : readNodes? (fuel + 2) [] = some ([], []) := rfl

theorem readNodes?_lines (lines : List Line) (fuel : Nat) :
    readNodes? (lines.length + fuel + 4) (lines.flatMap Line.chars) = some (lines.map Line.node, []) := by
  induction lines with
  | nil => exact readNodes?_nil _
  | cons line lines ih =>
    have more : (line :: lines).length + fuel + 4 = (lines.length + fuel + 4) + 1 := by
      rw [List.length_cons]
      omega
    have node := line.readNode?_eq (lines.length + fuel + 1) (lines.flatMap Line.chars)
    have lead := line.skipLead?_eq (lines.length + fuel + 3) (lines.flatMap Line.chars)
    have ended : skipEnd? ('\n' :: lines.flatMap Line.chars) = some (lines.flatMap Line.chars) := rfl
    rw [more, List.flatMap_cons, readNodes?, lead]
    simp [node, ended, ih]

theorem length_le_chars (lines : List Line) : lines.length ≤ (lines.flatMap Line.chars).length := by
  induction lines with
  | nil => exact Nat.le_refl 0
  | cons line lines ih =>
    simp only [List.flatMap_cons, List.length_cons, List.length_append, Line.chars]
    omega

/-- Where a text has no byte order mark, all of it is read. -/
theorem ofChars?_eq {cs : List Char} {nodes : List Node} (unmarked : ∀ c ∈ cs.head?, c.toNat ≠ 0xFEFF)
    (read : readBody? (4 * cs.length + 8) cs = some (nodes, [])) : ofChars? cs = some nodes := by
  cases cs with
  | nil => simp_all [ofChars?]
  | cons c rest =>
    have own : c.toNat ≠ 0xFEFF := unmarked c rfl
    simp only [ofChars?, own, if_false, read]

/-- A document of such lines is read whole. -/
theorem ofChars?_lines (lines : List Line) :
    ofChars? (lines.flatMap Line.chars) = some (lines.map Line.node) := by
  have unmarked : ∀ c ∈ (lines.flatMap Line.chars).head?, c.toNat ≠ 0xFEFF := by
    intro c first mark
    cases lines with
    | nil => cases first
    | cons line lines =>
      obtain ⟨own, others, same, word⟩ := line.bare.head
      rw [List.flatMap_cons, Line.chars, same] at first
      obtain rfl : own = c := Option.some.inj first
      simp [isWordChar, isForbidden, mark] at word
  have enough := length_le_chars lines
  obtain ⟨spare, fuel⟩ : ∃ spare,
      4 * (lines.flatMap Line.chars).length + 8 = (lines.length + spare + 4) + 1 :=
    ⟨4 * (lines.flatMap Line.chars).length + 3 - lines.length, by omega⟩
  refine ofChars?_eq unmarked ?_
  rw [fuel, readBody?, readNodes?_lines]
  simp

end Testbook.Kdl
