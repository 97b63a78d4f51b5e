import Testbook.Project

/-! The completed runs that stand for the versions of a feature. -/

set_option autoImplicit false

namespace Testbook

def Run.sameVersion (a b : Run) : Bool := a.environment = b.environment && a.version = b.version

namespace Report

def historyLimit : Nat := 10

def completedRuns (project : Project) (feature : String) (environment : Option Environment) :
    List Run :=
  (project.runsOf feature).filter fun run =>
    run.status = .completed && environment.all (run.environment = ·)

/-- Take a run into the newest of each version. Of two created at the same time the earlier stored
stays. -/
def keepNewest (kept : List Run) (run : Run) : List Run :=
  match kept.find? (·.sameVersion run) with
  | none => kept ++ [run]
  | some standing =>
    if run.createdAt.notAfter standing.createdAt then kept
    else kept.map fun k => if k.sameVersion run then run else k

def newestPerVersion (project : Project) (feature : String) (environment : Option Environment) :
    List Run :=
  (completedRuns project feature environment).foldl keepNewest []

/-- Newest first; by id among those created at the same time. -/
def comesFirst (a b : Run) : Bool :=
  if a.createdAt = b.createdAt then a.id ≤ b.id else b.createdAt.before a.createdAt

def history (project : Project) (feature : String) (environment : Option Environment) : List Run :=
  ((newestPerVersion project feature environment).mergeSort comesFirst).take historyLimit

end Report

end Testbook
