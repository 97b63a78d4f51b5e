import Testbook.BackendKind
import Testbook.Environment
import Testbook.Outcome

/-! Command lines in general: commands with options, places for values, and commands below them; and
the commands of this program. -/

set_option autoImplicit false

namespace Testbook.CommandLine

inductive Form where
  | text
  /-- Not empty. -/
  | path
  | oneOf (names : List String)
  /-- A whole number of 64 bits. -/
  | number
  deriving DecidableEq, Repr

inductive OptionForm where
  | switch
  | value (form : Form)
  | help
  | version
  deriving DecidableEq, Repr

/-- An option, given by its name after two hyphens, or by a letter after one. -/
structure OptionSpec where
  name : String
  letter : Option Char := none
  form : OptionForm
  required : Bool := false
  deriving Repr

structure PlaceSpec where
  name : String
  form : Form := .text
  /-- Whether all values from here on belong to this place. -/
  many : Bool := false
  deriving Repr

inductive CommandSpec where
  | mk (name : String) (places : List PlaceSpec) (options : List OptionSpec)
    /- Options of which exactly one is required. -/
    (alternatives : List String) (commands : List CommandSpec)

namespace CommandSpec

def name : CommandSpec → String
  | mk name _ _ _ _ => name

def places : CommandSpec → List PlaceSpec
  | mk _ places _ _ _ => places

def options : CommandSpec → List OptionSpec
  | mk _ _ options _ _ => options

def alternatives : CommandSpec → List String
  | mk _ _ _ alternatives _ => alternatives

/-- A command either has commands below it, of which one is required, or none. -/
def commands : CommandSpec → List CommandSpec
  | mk _ _ _ _ commands => commands

def findCommand? (spec : CommandSpec) (name : String) : Option CommandSpec :=
  spec.commands.find? (·.name = name)

end CommandSpec

/-! ### The commands of the program -/

def sharedOptions : List OptionSpec :=
  [{ name := "human", letter := some 'H', form := .switch },
    { name := "data-dir", form := .value .path },
    { name := "backend", form := .value (.oneOf (BackendKind.all.map (·.name))) },
    { name := "help", letter := some 'h', form := .help }]

def versionOption : OptionSpec := { name := "version", letter := some 'V', form := .version }

def outcomes : Form := .oneOf (Outcome.all.map (·.name))

def environmentOption : OptionSpec :=
  { name := "environment", letter := some 'e'
    form := .value (.oneOf (Environment.all.map (·.name))) }

def versionLabel : OptionSpec :=
  { name := "version", letter := some 'v', form := .value .text, required := true }

def textOption (name : String) : OptionSpec := { name, form := .value .text }

def texts (names : List String) : List PlaceSpec := names.map ({ name := · })

def leaf (name : String) (places : List PlaceSpec) (options : List OptionSpec) : CommandSpec :=
  .mk name places options [] []

def group (name : String) (commands : List CommandSpec) : CommandSpec := .mk name [] [] [] commands

def aimed (name : String) (places : List PlaceSpec) (options : List OptionSpec) : CommandSpec :=
  .mk name places ([textOption "step", textOption "scenario"] ++ options) ["step", "scenario"] []

def program : CommandSpec :=
  group "bdt"
    [group "project"
        [leaf "create" (texts ["name"])
            [{ name := "description", letter := some 'd', form := .value .text }],
          leaf "list" [] [],
          leaf "show" (texts ["project"]) [],
          leaf "delete" (texts ["project"]) [],
          leaf "export" (texts ["project"])
            [{ name := "output", letter := some 'o', form := .value .path }],
          leaf "import" [{ name := "file", form := .path }] []],
      group "feature"
        [leaf "upload" (texts ["project"] ++ [{ name := "file", form := .path }]) [],
          leaf "list" (texts ["project"]) [],
          leaf "show" (texts ["project", "feature"]) []],
      group "run"
        [leaf "start" (texts ["project", "feature"]) [environmentOption, versionLabel],
          leaf "open" (texts ["project", "feature"]) [environmentOption, versionLabel],
          leaf "list" (texts ["project"]) [textOption "feature", environmentOption],
          leaf "show" (texts ["project", "run"]) [{ name := "status", form := .value outcomes }],
          leaf "step" (texts ["project", "run", "step"] ++ [{ name := "outcome", form := outcomes }])
            [],
          leaf "scenario"
            (texts ["project", "run", "scenario"] ++ [{ name := "outcome", form := outcomes }]) [],
          leaf "bulk"
            (texts ["project", "run"] ++
              [{ name := "outcome", form := outcomes }, { name := "scenarios", many := true }]) [],
          aimed "note" (texts ["project", "run", "text"]) [],
          aimed "attach" (texts ["project", "run"] ++ [{ name := "file", form := .path }])
            [textOption "mime"],
          leaf "complete" (texts ["project", "run"]) [],
          leaf "reset" (texts ["project", "run"]) [],
          leaf "reset-feature" (texts ["project", "feature"]) [],
          leaf "reset-all" (texts ["project"]) []],
      group "report"
        [leaf "history" (texts ["project", "feature"]) [environmentOption],
          leaf "compare" (texts ["project", "feature", "before", "after"]) [environmentOption]],
      leaf "docs" (texts ["project", "feature"]) [textOption "run"],
      group "config"
        [leaf "get" (texts ["key"]) [],
          leaf "set" (texts ["key", "value"]) [],
          leaf "list" [] []],
      group "system"
        [leaf "info" [] [],
          leaf "compact" [] [],
          leaf "actions" []
            [{ name := "limit", letter := some 'n', form := .value .number }]]]

end Testbook.CommandLine
