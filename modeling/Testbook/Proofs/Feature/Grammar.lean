import Testbook.Feature.Reader
import Testbook.Proofs.Cut
import Testbook.Proofs.Text.Part

/-! What a feature file says, told of the file as a whole. Its lines are cut into segments, in each of
which a description may stand after some live lines; what is live anywhere in the file is cut again
into scenarios. -/

set_option autoImplicit false

namespace Testbook.Feature

namespace Grammar

def opens (lead : String) (line : List Char) : Bool := lead.toList.isPrefixOf line

def remainder (lead : String) (line : List Char) : String :=
  String.ofList (Text.trimChars (line.drop lead.toList.length))

def lines (content : String) : List (List Char) :=
  ((content.toList.splitOn '\n').map Text.trimChars).filter (!·.isEmpty)

/-- A segment begins at each line that opens with `Scenario`, colon or not. -/
def segments (lines : List (List Char)) : List (List (List Char)) :=
  (cut (opens "Scenario") lines).1 ::
    (cut (opens "Scenario") lines).2.map fun part => part.1 :: part.2

def live (segment : List (List Char)) : List (List Char) :=
  segment.takeWhile (!opens "Feature:" ·)

def heading? (segment : List (List Char)) : Option (List Char × List (List Char)) :=
  match segment.dropWhile (!opens "Feature:" ·) with
  | [] => none
  | line :: description => some (line, description)

/-- The heading that counts is that of the last segment that has one. -/
def lastHeading? (segments : List (List (List Char))) : Option (List Char × List (List Char)) :=
  (segments.filterMap heading?).getLast?

def name (lines : List (List Char)) : String :=
  match lastHeading? (segments lines) with
  | none => ""
  | some (line, _) => remainder "Feature:" line

def description (lines : List (List Char)) : String :=
  match lastHeading? (segments lines) with
  | none => ""
  | some (_, description) => String.intercalate " " (description.map String.ofList)

/-- A keyword, a blank right after it, and the text. -/
def step? (line : List Char) : Option (StepKeyword × String) :=
  (StepKeyword.all.find? fun keyword => opens (keyword.name ++ " ") line).map fun keyword =>
    (keyword, remainder (keyword.name ++ " ") line)

/-- The scenarios with their steps: each header among the live lines, and the steps between it and the
next one. -/
def scenarios (lines : List (List Char)) : List (String × List (StepKeyword × String)) :=
  (cut (opens "Scenario:") ((segments lines).flatMap live)).2.map fun (header, body) =>
    (remainder "Scenario:" header, body.filterMap step?)

end Grammar

open Grammar

/-! ### Leads -/

theorem startsWith_eq (lead : String) (line : List Char) :
    Text.startsWith lead.toList line = opens lead line := by
  rw [Text.startsWith, Text.afterLead?_eq, opens]
  cases lead.toList.isPrefixOf line <;> rfl

theorem opens_iff {lead : String} {line : List Char} :
    opens lead line = true ↔ ∃ rest, line = lead.toList ++ rest := by
  rw [opens, List.isPrefixOf_iff_prefix]
  exact exists_congr fun rest => eq_comm

theorem remainder_append (lead : String) (rest : List Char) :
    remainder lead (lead.toList ++ rest) = String.ofList (Text.trimChars rest) := by
  rw [remainder, List.drop_left]

-- No keyword is the beginning of another, so that it does not matter in which order they are tried.
theorem opens_keyword_unique {first second : StepKeyword} {rest : List Char}
    (opened : opens (first.name ++ " ") (second.name.toList ++ ' ' :: rest) = true) :
    first = second := by
  cases first <;> cases second <;>
    first | rfl | simp [opens, StepKeyword.name, List.isPrefixOf] at opened

theorem step?_eq_some {line : List Char} {keyword : StepKeyword} {text : String} :
    step? line = some (keyword, text) ↔
      ∃ rest, line = keyword.name.toList ++ ' ' :: rest ∧
        text = String.ofList (Text.trimChars rest) := by
  have spelled (keyword : StepKeyword) (rest : List Char) :
      keyword.name.toList ++ ' ' :: rest = (keyword.name ++ " ").toList ++ rest := by simp
  constructor
  · intro isStep
    obtain ⟨found, first, same⟩ := Option.map_eq_some_iff.mp isStep
    cases same
    have opened : opens (keyword.name ++ " ") line = true := by simpa using List.find?_some first
    obtain ⟨rest, rfl⟩ := opens_iff.mp opened
    exact ⟨rest, (spelled keyword rest).symm, remainder_append _ rest⟩
  · rintro ⟨rest, rfl, rfl⟩
    have opened : opens (keyword.name ++ " ") (keyword.name.toList ++ ' ' :: rest) = true :=
      opens_iff.mpr ⟨rest, spelled keyword rest⟩
    cases found : StepKeyword.all.find? fun k =>
        opens (k.name ++ " ") (keyword.name.toList ++ ' ' :: rest) with
    | none =>
      have missed := List.find?_eq_none.mp found keyword (by cases keyword <;> decide)
      exact absurd opened missed
    | some first =>
      have opens_first : opens (first.name ++ " ") (keyword.name.toList ++ ' ' :: rest) = true := by
        simpa using List.find?_some found
      obtain rfl := opens_keyword_unique opens_first
      rw [step?, found, Option.map_some, spelled, remainder_append]

theorem stepLine?_eq (line : List Char) : stepLine? line = step? line := by
  have each (keyword : StepKeyword) :
      (Text.afterLead? (keyword.name.toList ++ [' ']) line).map
          (fun rest => (keyword, String.ofList (Text.trimChars rest))) =
        if opens (keyword.name ++ " ") line then some (keyword, remainder (keyword.name ++ " ") line)
        else none := by
    have lead : keyword.name.toList ++ [' '] = (keyword.name ++ " ").toList := by simp
    rw [Text.afterLead?_eq, lead, opens, remainder]
    split <;> rfl
  unfold stepLine? step?
  simp only [each]
  induction StepKeyword.all with
  | nil => rfl
  | cons keyword others ih =>
    cases opened : opens (keyword.name ++ " ") line with
    | true => simp [opened]
    | false => simpa [opened] using ih

/-! ### Segment by segment -/

/-- The segments are the lines, cut right before each one that opens with `Scenario`. -/
theorem segments_spec (lines : List (List Char)) :
    ∃ first others, segments lines = first :: others ∧ first ++ others.flatten = lines ∧
      (∀ line ∈ first, opens "Scenario" line = false) ∧
      ∀ segment ∈ others, ∃ line rest, segment = line :: rest ∧ opens "Scenario" line = true ∧
        ∀ other ∈ rest, opens "Scenario" other = false := by
  obtain ⟨before, each⟩ := cut_begins (opens "Scenario") lines
  have whole := cut_flatten (opens "Scenario") lines
  refine ⟨_, _, rfl, by rwa [← List.flatMap_def], before, ?_⟩
  intro segment member
  obtain ⟨⟨line, rest⟩, part, rfl⟩ := List.mem_map.mp member
  exact ⟨line, rest, rfl, each _ part⟩

section Segments

variable {line : List Char} {lines segment : List (List Char)}

theorem not_scenario_of_feature (feature : opens "Feature:" line = true) :
    opens "Scenario" line = false := by
  obtain ⟨rest, rfl⟩ := opens_iff.mp feature
  simp [opens, List.isPrefixOf]

theorem scenario_of_header (header : opens "Scenario:" line = true) :
    opens "Scenario" line = true := by
  obtain ⟨rest, rfl⟩ := opens_iff.mp header
  rw [opens_iff]
  exact ⟨':' :: rest, rfl⟩

theorem plain_of_header (header : opens "Scenario:" line = true) :
    opens "Feature:" line = false := by
  rw [← Bool.not_eq_true]
  intro feature
  have apart := not_scenario_of_feature feature
  rw [scenario_of_header header] at apart
  cases apart

theorem live_cons_feature (feature : opens "Feature:" line = true) : live (line :: segment) = [] := by
  simp [live, feature]

theorem live_cons_live (plain : opens "Feature:" line = false) :
    live (line :: segment) = line :: live segment := by
  simp [live, plain]

theorem heading?_cons_feature (feature : opens "Feature:" line = true) :
    heading? (line :: segment) = some (line, segment) := by
  simp [heading?, feature]

theorem heading?_cons_live (plain : opens "Feature:" line = false) :
    heading? (line :: segment) = heading? segment := by
  simp [heading?, plain]

theorem live_nil : live [] = [] := rfl

theorem heading?_nil : heading? [] = none := rfl

def liveFrom (describing : Bool) (lines : List (List Char)) : List (List Char) :=
  (if describing then (segments lines).tail else segments lines).flatMap live

def headingFrom (describing : Bool) (lines : List (List Char)) :
    Option (List Char × List (List Char)) :=
  lastHeading? (if describing then (segments lines).tail else segments lines)

def descriptionFrom (describing : Bool) (lines : List (List Char)) : List (List Char) :=
  if describing then (cut (opens "Scenario") lines).1 else []

theorem liveFrom_cons_text (text : opens "Scenario" line = false) :
    liveFrom true (line :: lines) = liveFrom true lines := by
  simp [liveFrom, segments, cut_cons_neg text]

theorem liveFrom_cons_scenario (ends : opens "Scenario" line = true) :
    liveFrom true (line :: lines) = liveFrom false (line :: lines) := by
  simp [liveFrom, segments, cut_cons_pos ends, live_nil]

theorem liveFrom_cons_feature (feature : opens "Feature:" line = true) :
    liveFrom false (line :: lines) = liveFrom true lines := by
  simp [liveFrom, segments, cut_cons_neg (not_scenario_of_feature feature),
    live_cons_feature feature]

theorem liveFrom_cons_live (plain : opens "Feature:" line = false) :
    liveFrom false (line :: lines) = line :: liveFrom false lines := by
  cases ends : opens "Scenario" line with
  | true => simp [liveFrom, segments, cut_cons_pos ends, live_cons_live plain, live_nil]
  | false => simp [liveFrom, segments, cut_cons_neg ends, live_cons_live plain]

theorem liveFrom_append {front : List (List Char)}
    (plain : ∀ line ∈ front, opens "Feature:" line = false) (lines : List (List Char)) :
    liveFrom false (front ++ lines) = front ++ liveFrom false lines := by
  induction front with
  | nil => rfl
  | cons line front ih =>
    have others := ih fun other member => plain other (List.mem_cons_of_mem line member)
    rw [List.cons_append, liveFrom_cons_live (plain line List.mem_cons_self), others, List.cons_append]

theorem lastHeading?_cons (segment : List (List Char)) (segments : List (List (List Char))) :
    lastHeading? (segment :: segments) = (lastHeading? segments).or (heading? segment) := by
  unfold lastHeading?
  cases found : heading? segment with
  | none => simp [found]
  | some heading => rw [List.filterMap_cons_some found, List.getLast?_cons, Option.or_some]

theorem headingFrom_cons_text (text : opens "Scenario" line = false) :
    headingFrom true (line :: lines) = headingFrom true lines := by
  simp [headingFrom, segments, cut_cons_neg text]

theorem headingFrom_cons_scenario (ends : opens "Scenario" line = true) :
    headingFrom true (line :: lines) = headingFrom false (line :: lines) := by
  simp [headingFrom, segments, cut_cons_pos ends, lastHeading?_cons, heading?_nil]

theorem headingFrom_cons_feature (feature : opens "Feature:" line = true) :
    headingFrom false (line :: lines) =
      some ((headingFrom true lines).getD (line, (cut (opens "Scenario") lines).1)) := by
  simp [headingFrom, segments, cut_cons_neg (not_scenario_of_feature feature), lastHeading?_cons,
    heading?_cons_feature feature]

theorem headingFrom_cons_live (plain : opens "Feature:" line = false) :
    headingFrom false (line :: lines) = headingFrom false lines := by
  cases ends : opens "Scenario" line with
  | true =>
    simp [headingFrom, segments, cut_cons_pos ends, lastHeading?_cons, heading?_cons_live plain,
      heading?_nil]
  | false =>
    simp [headingFrom, segments, cut_cons_neg ends, lastHeading?_cons, heading?_cons_live plain]

theorem headingFrom_append {front : List (List Char)}
    (plain : ∀ line ∈ front, opens "Feature:" line = false) (lines : List (List Char)) :
    headingFrom false (front ++ lines) = headingFrom false lines := by
  induction front with
  | nil => rfl
  | cons line front ih =>
    have others := ih fun other member => plain other (List.mem_cons_of_mem line member)
    rw [List.cons_append, headingFrom_cons_live (plain line List.mem_cons_self), others]

end Segments

end Testbook.Feature
