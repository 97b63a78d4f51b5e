import Mathlib.Data.List.Induction
import Mathlib.Data.List.TakeWhile
import Testbook.Action.Sanitized
import Testbook.Proofs.Decimal
import Testbook.Proofs.Text.Part

/-! What the action log keeps of arguments. It does not depend on what stands under a sensitive key, and
whatever else stands in the arguments is shown at the same place: records with all their keys, lists if they
are not too long, and of a text only its last part. -/

set_option autoImplicit false

namespace Testbook

namespace Json

def children : Json → List Json
  | .list items => items
  | .record members => members.map (·.2)
  | _ => []

/-- The value at a place, which says from the outside in to which item or member to go. -/
def at? (value : Json) : List Nat → Option Json
  | [] => some value
  | n :: place => value.children[n]?.bind (·.at? place)

theorem at?_concat (value : Json) (place : List Nat) (n : Nat) :
    value.at? (place ++ [n]) = (value.at? place).bind (·.children[n]?) := by
  induction place generalizing value with
  | nil =>
    rw [List.nil_append, at?, at?, Option.bind_some]
    cases value.children[n]? <;> rfl
  | cons m place ih =>
    rw [List.cons_append, at?, at?, Option.bind_assoc]
    exact Option.bind_congr fun child _ => ih child

def size : Json → Nat
  | .text s => s.length
  | .list items => items.length
  | _ => 0

end Json

namespace Action

/-! ### Secrets -/

/-- In small letters the key holds one of three words, or it ends in one of two. -/
def IsSecret (key : String) : Prop :=
  (∃ word ∈ ["password", "token", "secret"], word.toList <:+: (Text.lower key).toList) ∨
    ∃ word ∈ ["api_key", "apikey"], word.toList <:+ (Text.lower key).toList

theorem isSensitive_iff {key : String} : isSensitive key = true ↔ IsSecret key := by
  simp [isSensitive, IsSecret, Text.contains_iff, Text.endsWith_iff, Text.lower, or_assoc]

theorem sanitizedItems_eq (items : List Json) : sanitizedItems items = items.map sanitized := by
  induction items with
  | nil => rfl
  | cons item items ih => rw [sanitizedItems, ih, List.map_cons]

theorem sanitizedMembers_eq (members : List (String × Json)) :
    sanitizedMembers members = members.map fun (key, value) =>
      (key, if isSensitive key then .text redacted else sanitized value) := by
  induction members with
  | nil => rfl
  | cons member members ih => rw [sanitizedMembers, ih, List.map_cons]

mutual

/-- Two values that are equal apart from what stands under sensitive keys, however deep. -/
inductive SameButSecrets : Json → Json → Prop where
  | same (value : Json) : SameButSecrets value value
  | list {items items' : List Json} (each : SameItems items items') :
      SameButSecrets (.list items) (.list items')
  | record {members members' : List (String × Json)} (each : SameMembers members members') :
      SameButSecrets (.record members) (.record members')

inductive SameItems : List Json → List Json → Prop where
  | nil : SameItems [] []
  | cons {item item' : Json} {items items' : List Json} (first : SameButSecrets item item')
      (others : SameItems items items') : SameItems (item :: items) (item' :: items')

inductive SameMembers : List (String × Json) → List (String × Json) → Prop where
  | nil : SameMembers [] []
  | secret {key : String} (value value' : Json) {members members' : List (String × Json)}
      (hidden : IsSecret key) (others : SameMembers members members') :
      SameMembers ((key, value) :: members) ((key, value') :: members')
  | cons {key : String} {value value' : Json} {members members' : List (String × Json)}
      (first : SameButSecrets value value') (others : SameMembers members members') :
      SameMembers ((key, value) :: members) ((key, value') :: members')

end

theorem SameItems.length_eq {items items' : List Json} (each : SameItems items items') :
    items.length = items'.length := by
  induction items generalizing items' with
  | nil =>
    cases each
    rfl
  | cons item items ih =>
    cases each with
    | cons _ others => rw [List.length_cons, List.length_cons, ih others]

-- By induction on the relation: only the length of a list is asked before its items are.
mutual

theorem SameButSecrets.sanitized_eq {args args' : Json} :
    SameButSecrets args args' → sanitized args = sanitized args'
  | .same _ => rfl
  | .list each => by rw [sanitized, sanitized, each.length_eq, each.sanitized_eq]
  | .record each => by rw [sanitized, sanitized, each.sanitized_eq]

theorem SameItems.sanitized_eq {items items' : List Json} :
    SameItems items items' → sanitizedItems items = sanitizedItems items'
  | .nil => rfl
  | .cons first others => by
    rw [sanitizedItems, sanitizedItems, first.sanitized_eq, others.sanitized_eq]

theorem SameMembers.sanitized_eq {members members' : List (String × Json)} :
    SameMembers members members' → sanitizedMembers members = sanitizedMembers members'
  | .nil => rfl
  | .secret _ _ hidden others => by
    rw [sanitizedMembers, sanitizedMembers, isSensitive_iff.mpr hidden, others.sanitized_eq]
    rfl
  | .cons first others => by
    rw [sanitizedMembers, sanitizedMembers, first.sanitized_eq, others.sanitized_eq]

end

/-! ### Texts -/

structure IsLastPart (cs part : List Char) : Prop where
  split : ∃ lead, cs = lead ++ part ∧ ∀ c ∈ lead.getLast?, c = '/' ∨ c = '\\'
  noSlash : ∀ c ∈ part, c ≠ '/' ∧ c ≠ '\\'

theorem isSlash_iff {c : Char} : isSlash c = true ↔ c = '/' ∨ c = '\\' := by
  simp [isSlash]

theorem lastPart_isLastPart (cs : List Char) : IsLastPart cs (lastPart cs) where
  split := by
    refine ⟨(cs.reverse.dropWhile (!isSlash ·)).reverse, ?_, ?_⟩
    · rw [lastPart, ← List.reverse_append, List.takeWhile_append_dropWhile, List.reverse_reverse]
    · intro c last
      rw [List.getLast?_reverse] at last
      have stops := List.head?_dropWhile_not (!isSlash ·) cs.reverse
      rw [Option.mem_def.mp last] at stops
      exact isSlash_iff.mp (by simpa using stops)
  noSlash := by
    intro c member
    have kept := List.mem_takeWhile_imp (List.mem_reverse.mp member)
    rw [← not_or, ← isSlash_iff]
    simpa using kept

inductive Placeholder : Json → String → Prop where
  | url {s : String} (opened : "data:".toList <+: s.toList) :
      Placeholder (.text s) ("[data URL, " ++ Decimal.text s.length ++ " chars]")
  | list {items : List Json} (many : 10 < items.length) :
      Placeholder (.list items) ("[Array with " ++ Decimal.text items.length ++ " items]")

/-- A text as the log shows it: no longer than 100 characters, unless it is cut there and says how long it
was. A placeholder is as short as long as what it counts can be counted in 64 bits. -/
inductive CleanText : Json → String → Prop where
  | placeholder {given : Json} {s : String} (stands : Placeholder given s)
      (short : given.size < 2 ^ 64 → s.length ≤ 100) : CleanText given s
  | whole {s : String} {part : List Char} (plain : ¬"data:".toList <+: s.toList)
      (last : IsLastPart s.toList part) (short : part.length ≤ 100) :
      CleanText (.text s) (String.ofList part)
  | cut {s : String} {part : List Char} (plain : ¬"data:".toList <+: s.toList)
      (last : IsLastPart s.toList part) (long : 100 < part.length) :
      CleanText (.text s)
        (String.ofList (part.take 97) ++ "... (" ++ Decimal.text part.length ++ " chars)")

def NoSlash (s : String) : Prop := ∀ c ∈ s.toList, c ≠ '/' ∧ c ≠ '\\'

instance (s : String) : Decidable (NoSlash s) := List.decidableBAll _ s.toList

theorem NoSlash.append {s t : String} (first : NoSlash s) (second : NoSlash t) : NoSlash (s ++ t) := by
  intro c member
  rw [String.toList_append] at member
  exact (List.mem_append.mp member).elim (first c) (second c)

theorem noSlash_number (n : Nat) : NoSlash (Decimal.text n) := by
  intro c member
  rw [Decimal.text, String.toList_ofList] at member
  have digit : c.isDigit = true := Nat.isDigit_of_mem_toDigits (by decide) (by decide) member
  constructor
  all_goals
    rintro rfl
    cases digit

-- A count of 64 bits has twenty digits at most.
theorem length_counted {n : Nat} (small : n < 2 ^ 64) {lead tail : String}
    (few : lead.length + tail.length ≤ 80) : (lead ++ Decimal.text n ++ tail).length ≤ 100 := by
  have digits : (Decimal.digits n).length ≤ 20 :=
    (Nat.length_toDigits_le_iff (by decide) (by decide)).mpr (by omega)
  rw [String.length_append, String.length_append, Decimal.text, String.length_ofList]
  omega

namespace Placeholder

variable {given : Json} {s : String}

theorem noSlash (stands : Placeholder given s) : NoSlash s := by
  cases stands with
  | url => exact ((by decide : NoSlash "[data URL, ").append (noSlash_number _)).append (by decide)
  | list => exact ((by decide : NoSlash "[Array with ").append (noSlash_number _)).append (by decide)

theorem short (stands : Placeholder given s) (small : given.size < 2 ^ 64) : s.length ≤ 100 := by
  cases stands with
  | url => exact length_counted small (by decide)
  | list => exact length_counted small (by decide)

end Placeholder

theorem CleanText.noSlash {given : Json} {s : String} (clean : CleanText given s) : NoSlash s := by
  cases clean with
  | placeholder stands => exact stands.noSlash
  | whole _ last =>
    intro c member
    rw [String.toList_ofList] at member
    exact last.noSlash c member
  | @cut _ part _ last =>
    have head : NoSlash (String.ofList (part.take 97)) := by
      intro c member
      rw [String.toList_ofList] at member
      exact last.noSlash c (List.mem_of_mem_take member)
    exact ((head.append (by decide)).append (noSlash_number _)).append (by decide)

theorem sanitizedText_clean (s : String) : CleanText (.text s) (sanitizedText s) := by
  have last := lastPart_isLastPart s.toList
  rw [sanitizedText]
  split
  · rename_i opened
    have stands := Placeholder.url (Text.startsWith_iff.mp opened)
    exact .placeholder stands stands.short
  · rename_i opened
    have plain : ¬"data:".toList <+: s.toList := mt Text.startsWith_iff.mpr opened
    rw [shortened]
    split
    · rename_i long
      exact .cut plain last long
    · rename_i short
      exact .whole plain last (Nat.not_lt.mp short)

/-! ### Values -/

inductive Clean : Json → Json → Prop where
  | null : Clean .null .null
  | bool (b : Bool) : Clean (.bool b) (.bool b)
  | int (n : Int) : Clean (.int n) (.int n)
  | real (x : Float) : Clean (.real x) (.real x)
  | text {given : Json} {s : String} (clean : CleanText given s) : Clean given (.text s)
  | list {items shown : List Json} (length : shown.length = items.length) (few : shown.length ≤ 10) :
      Clean (.list items) (.list shown)
  | record {members shown : List (String × Json)} (keys : shown.map (·.1) = members.map (·.1)) :
      Clean (.record members) (.record shown)

theorem sanitized_clean (args : Json) : Clean args (sanitized args) := by
  cases args with
  | null => exact .null
  | bool b => exact .bool b
  | int n => exact .int n
  | real x => exact .real x
  | text s => exact .text (sanitizedText_clean s)
  | list items =>
    rw [sanitized]
    split
    · rename_i many
      have stands := Placeholder.list many
      exact .text (.placeholder stands stands.short)
    · rename_i few
      have length : (sanitizedItems items).length = items.length := by
        rw [sanitizedItems_eq, List.length_map]
      exact .list length (length ▸ Nat.not_lt.mp few)
  | record members =>
    rw [sanitized, sanitizedMembers_eq]
    exact .record (by simp [Function.comp_def])

def HasSecret (value : Json) (n : Nat) : Prop :=
  ∃ members key held, value = .record members ∧ members[n]? = some (key, held) ∧ IsSecret key

/-- What stands within a value is shown as such, or it is a secret. Nothing stands within a text. -/
theorem children_sanitized {value shown : Json} {n : Nat}
    (stands : (sanitized value).children[n]? = some shown) :
    ∃ given, value.children[n]? = some given ∧
      ((HasSecret value n ∧ shown = .text redacted) ∨
        (¬HasSecret value n ∧ shown = sanitized given)) := by
  cases value with
  | list items =>
    have nothing : ¬HasSecret (.list items) n := by
      rintro ⟨_, _, _, other, _⟩
      cases other
    rw [sanitized] at stands
    split at stands
    · cases stands
    · rw [Json.children, sanitizedItems_eq, List.getElem?_map] at stands
      obtain ⟨given, found, rfl⟩ := Option.map_eq_some_iff.mp stands
      exact ⟨given, found, Or.inr ⟨nothing, rfl⟩⟩
  | record members =>
    rw [sanitized, Json.children, sanitizedMembers_eq, List.map_map, List.getElem?_map] at stands
    obtain ⟨⟨key, given⟩, found, rfl⟩ := Option.map_eq_some_iff.mp stands
    have inside : (Json.record members).children[n]? = some given := by
      rw [Json.children, List.getElem?_map, found]
      rfl
    have secret_iff : HasSecret (.record members) n ↔ isSensitive key = true := by
      rw [isSensitive_iff]
      constructor
      · rintro ⟨_, _, _, same, found', hidden⟩
        cases same
        cases found.symm.trans found'
        exact hidden
      · exact fun hidden => ⟨members, key, given, rfl, found, hidden⟩
    refine ⟨given, inside, ?_⟩
    cases hidden : isSensitive key with
    | true => exact Or.inl ⟨secret_iff.mpr hidden, by simp [hidden]⟩
    | false => exact Or.inr ⟨fun secret => by simp [secret_iff.mp secret] at hidden, by simp [hidden]⟩
  | null => cases stands
  | bool b => cases stands
  | int n => cases stands
  | real x => cases stands
  | text s => cases stands

def UnderSecret (args : Json) (place : List Nat) : Prop :=
  ∃ front n holder, place = front ++ [n] ∧ args.at? front = some holder ∧ HasSecret holder n

theorem underSecret_concat {args holder : Json} {front : List Nat} {n : Nat}
    (found : args.at? front = some holder) :
    UnderSecret args (front ++ [n]) ↔ HasSecret holder n := by
  constructor
  · rintro ⟨front', n', holder', same, found', hidden⟩
    obtain ⟨rfl, last⟩ := List.append_inj' same rfl
    cases last
    cases found.symm.trans found'
    exact hidden
  · exact fun hidden => ⟨front, n, holder, rfl, found, hidden⟩

/-- Whatever is shown stands at its place in the arguments, and is sanitized there unless it is a secret. -/
theorem at?_sanitized {args shown : Json} {place : List Nat}
    (stands : (sanitized args).at? place = some shown) :
    ∃ given, args.at? place = some given ∧
      ((UnderSecret args place ∧ shown = .text redacted) ∨
        (¬UnderSecret args place ∧ shown = sanitized given)) := by
  induction place using List.reverseRecOn generalizing shown with
  | nil =>
    have outermost : ¬UnderSecret args [] := by
      rintro ⟨front, n, _, same, _⟩
      exact List.append_ne_nil_of_right_ne_nil front (List.cons_ne_nil n []) same.symm
    exact ⟨args, rfl, Or.inr ⟨outermost, (Option.some.inj stands).symm⟩⟩
  | append_singleton front n ih =>
    rw [Json.at?_concat] at stands ⊢
    obtain ⟨holder, before, inside⟩ := Option.bind_eq_some_iff.mp stands
    obtain ⟨given, found, ⟨-, rfl⟩ | ⟨-, rfl⟩⟩ := ih before
    · cases inside
    · obtain ⟨child, within, shown_as⟩ := children_sanitized inside
      rw [found, underSecret_concat found]
      exact ⟨child, within, shown_as⟩

/-- How a value of the arguments is shown: not at all, or clean; and never with a folder. -/
structure ShownAs (secret : Prop) (given shown : Json) : Prop where
  redacted : secret → shown = .text "[REDACTED]"
  clean : ¬secret → Clean given shown
  noSlash : ∀ s, shown = .text s → NoSlash s

/-- What the log keeps does not depend on what stands under sensitive keys. All that it shows stands at the
same place in the arguments, redacted right under a sensitive key, and clean elsewhere. -/
theorem sanitized_hides_and_bounds :
    (∀ args args', SameButSecrets args args' → sanitized args = sanitized args') ∧
      ∀ args place shown, (sanitized args).at? place = some shown →
        ∃ given, args.at? place = some given ∧ ShownAs (UnderSecret args place) given shown := by
  refine ⟨fun _ _ same => same.sanitized_eq, ?_⟩
  intro args place shown stands
  obtain ⟨given, found, ⟨secret, rfl⟩ | ⟨plain, rfl⟩⟩ := at?_sanitized stands
  · refine ⟨given, found, fun _ => rfl, fun plain => absurd secret plain, ?_⟩
    intro s same
    cases same
    decide
  · have clean := sanitized_clean given
    refine ⟨given, found, fun secret => absurd secret plain, fun _ => clean, ?_⟩
    intro s same
    rw [same] at clean
    cases clean with
    | text clean => exact clean.noSlash

/-- A token that is changed to something else altogether, and a path beside it. -/
theorem sanitized_hides_and_bounds_sample :
    let args (token : Json) : Json :=
      .list [.record [("apiToken", token), ("file", .text "/home/qa/sale.feature")]]
    SameButSecrets (args (.text "a/b")) (args (.list [.null])) ∧
      sanitized (args (.text "a/b")) = sanitized (args (.list [.null])) ∧
      ShownAs (UnderSecret (args (.text "a/b")) [0, 1]) (.text "/home/qa/sale.feature")
        (.text "sale.feature") ∧
      ShownAs (UnderSecret (args (.text "a/b")) [0, 0]) (.text "a/b") (.text "[REDACTED]") := by
  intro args
  have secret : IsSecret "apiToken" := isSensitive_iff.mp (by decide)
  have same : SameButSecrets (args (.text "a/b")) (args (.list [.null])) :=
    .list (.cons (.record (.secret _ _ secret (.cons (.same _) .nil))) .nil)
  obtain ⟨hides, bounds⟩ := sanitized_hides_and_bounds
  have shown (place : List Nat) (given shown : Json) (found : (args (.text "a/b")).at? place = some given)
      (stands : (sanitized (args (.text "a/b"))).at? place = some shown) :
      ShownAs (UnderSecret (args (.text "a/b")) place) given shown := by
    obtain ⟨given', found', shown_as⟩ := bounds _ place shown stands
    cases found.symm.trans found'
    exact shown_as
  exact ⟨same, hides _ _ same, shown [0, 1] _ _ rfl rfl, shown [0, 0] _ _ rfl rfl⟩

end Action

end Testbook
