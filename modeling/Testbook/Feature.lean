import Testbook.Scenario

/-! A feature: the scenarios of one uploaded file, with the file itself. -/

set_option autoImplicit false

namespace Testbook

structure SourceFile where
  name : String
  content : String
  /-- The fingerprint of the content. -/
  hash : String
  deriving DecidableEq

structure Feature where
  id : String
  name : String
  description : String := ""
  tags : List String := []
  scenarios : List Scenario := []
  source : SourceFile
  deriving DecidableEq

def Feature.stepCount (feature : Feature) : Nat :=
  feature.scenarios.foldr (fun scenario n => scenario.steps.length + n) 0

end Testbook
