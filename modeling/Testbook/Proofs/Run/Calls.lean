import Testbook.Run.Lifecycle

/-! Calls on a run, one after another. The first one that fails is the last one that is made, and what came
before it stays. -/

set_option autoImplicit false

namespace Testbook.Run

variable {α β : Type} {call : β → Run → Except Error α × Run} {run left : Run} {first : List β}

/-- The same call with one argument after another. -/
def calls (call : β → Run → Except Error α × Run) (run : Run) : List β → Except Error Unit × Run
  | [] => (.ok (), run)
  | x :: rest =>
    match call x run with
    | (.ok _, left) => left.calls call rest
    | (.error e, left) => (.error e, left)

theorem calls_cons_of_ok {x : β} {answer : α} (made : call x run = (.ok answer, left)) (rest : List β) :
    run.calls call (x :: rest) = left.calls call rest := by
  rw [calls, made]

theorem calls_cons_of_error {x : β} {e : Error} (failed : call x run = (.error e, left))
    (rest : List β) : run.calls call (x :: rest) = (.error e, left) := by
  rw [calls, failed]

theorem calls_append (done : run.calls call first = (.ok (), left)) (second : List β) :
    run.calls call (first ++ second) = left.calls call second := by
  induction first generalizing run with
  | nil =>
    cases done
    rfl
  | cons x first ih =>
    rw [calls] at done
    split at done
    · rename_i made
      exact (calls_cons_of_ok made _).trans (ih done)
    · cases done

end Testbook.Run
