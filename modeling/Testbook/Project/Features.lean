import Testbook.First
import Testbook.Project

/-! Taking a feature into a project. Features are told apart by their names; the same content is not
taken twice, and other content under a known name replaces what stood there, together with its
runs. -/

set_option autoImplicit false

namespace Testbook

inductive Upload where
  | added (feature : String)
  | unchanged (feature : String)
  /-- With the feature that stood there before, and the number of its runs. -/
  | replaced (feature previous : String) (purged : Nat)
  deriving DecidableEq, Repr

namespace Upload

def name : Upload → String
  | added _ => "added"
  | unchanged _ => "unchanged"
  | replaced _ _ _ => "replaced"

def feature : Upload → String
  | added feature => feature
  | unchanged feature => feature
  | replaced feature _ _ => feature

end Upload

namespace Project

/-- Put a feature in the place of the first of its name, without the runs of that one. -/
def replaceFeature (project : Project) (previous : String) (feature : Feature) : Project :=
  { project with
    features := replaceOrAppend (·.name = feature.name) feature project.features
    runs := project.runs.filter (·.featureId ≠ previous) }

/-- Take a feature. The project is given only if it changes. -/
def addFeature (project : Project) (feature : Feature) : Upload × Option Project :=
  match project.features.find? (·.name = feature.name) with
  | none =>
    (.added feature.id, some { project with features := project.features ++ [feature] })
  | some old =>
    if old.source.hash = feature.source.hash then (.unchanged old.id, none)
    else
      (.replaced feature.id old.id (project.runs.countP (·.featureId = old.id)),
        some (project.replaceFeature old.id feature))

end Project

end Testbook
