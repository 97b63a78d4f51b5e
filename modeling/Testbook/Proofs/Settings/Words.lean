import Testbook.Settings.Basic

/-! Which word means which value of a setting: in small letters it is one of those that the value goes by,
and its name is one of them. -/

set_option autoImplicit false

namespace Testbook

variable {word : String}

theorem OutputFormat.ofWord?_eq_some {format : OutputFormat} :
    ofWord? word = some format ↔ Text.lower word ∈ [format.name] := by
  unfold ofWord?
  generalize Text.lower word = small
  constructor
  · intro found
    have same := List.find?_some found
    simpa using (of_decide_eq_true same).symm
  · intro named
    obtain rfl := List.mem_singleton.mp named
    cases format <;> decide

theorem BackendKind.ofWord?_eq_some {kind : BackendKind} :
    ofWord? word = some kind ↔ Text.lower word ∈ kind.words := by
  unfold ofWord?
  generalize Text.lower word = small
  constructor
  · intro found
    simpa using List.find?_some found
  · revert small
    cases kind <;> decide

theorem Environment.ofWord?_eq_some {environment : Environment} :
    ofWord? word = some environment ↔ Text.lower word ∈ environment.words := by
  unfold ofWord?
  generalize Text.lower word = small
  constructor
  · intro found
    simpa using List.find?_some found
  · revert small
    cases environment <;> decide

def Settings.switchWords : Bool → List String
  | true => ["true", "on", "yes", "1"]
  | false => ["false", "off", "no", "0"]

theorem Settings.boolOfWord?_eq_some {enabled : Bool} :
    boolOfWord? word = some enabled ↔ Text.lower word ∈ switchWords enabled := by
  unfold boolOfWord?
  generalize Text.lower word = small
  constructor
  · dsimp only
    split
    · rename_i on
      rintro ⟨⟩
      exact List.contains_iff_mem.mp on
    split
    · rename_i off
      rintro ⟨⟩
      exact List.contains_iff_mem.mp off
    · rintro ⟨⟩
  · revert small
    cases enabled <;> decide

/-! ### Names -/

@[simp] theorem OutputFormat.ofWord?_name (format : OutputFormat) :
    ofWord? format.name = some format := by
  cases format <;> decide

@[simp] theorem BackendKind.ofWord?_name (kind : BackendKind) : ofWord? kind.name = some kind := by
  cases kind <;> decide

@[simp] theorem Environment.ofWord?_name (environment : Environment) :
    ofWord? environment.name = some environment := by
  cases environment <;> decide

@[simp] theorem Settings.boolOfWord?_boolName (enabled : Bool) :
    boolOfWord? (boolName enabled) = some enabled := by
  cases enabled <;> decide

end Testbook
