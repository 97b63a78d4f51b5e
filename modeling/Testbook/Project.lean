import Testbook.Feature
import Testbook.Run

/-! A project: features, and the runs that execute them. It is stored as one document. -/

set_option autoImplicit false

namespace Testbook

structure Project where
  id : String
  name : String
  description : Option String := none
  features : List Feature := []
  runs : List Run := []
  deriving DecidableEq

namespace Project

def findFeature? (project : Project) (feature : String) : Option Feature :=
  project.features.find? (·.id = feature)

def findRun? (project : Project) (run : String) : Option Run :=
  project.runs.find? (·.id = run)

def runsOf (project : Project) (feature : String) : List Run :=
  project.runs.filter (·.featureId = feature)

end Project

end Testbook
