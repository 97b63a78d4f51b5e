import Testbook.Feature.Reader
import Testbook.Project.Features
import Testbook.Project.Runs
import Testbook.Store.Basic

/-! Features in the store. -/

set_option autoImplicit false

namespace Testbook.Store

def addFeature (store : Store) (project : String) (feature : Feature) : Except Error Upload × Store :=
  store.edit project fun p => .ok (p.addFeature feature)

/-- Read a feature file and take its feature. The file is read before the project is looked for. -/
def uploadFeature (store : Store) (project file content : String) : Except Error Upload × Store :=
  let (feature, ids) := Feature.ofFile store.ids file content
  { store with ids }.addFeature project feature

def getFeature (store : Store) (project feature : String) : Except Error Feature := do
  (← store.load project).getFeature feature

end Testbook.Store
