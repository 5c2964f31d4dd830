/-!
# Sorting where a comparison may fail

`sortByInsertion` sorts a list by a comparison that may fail, and fails with the first comparison that does. The run
of values in order, or in the opposite order, that the list begins with is kept or turned round; each value behind it
is put behind the values that it is not before, its place being sought by halves (`placeBetween`).
-/

namespace FrontPage

variable {ε α : Type}

/-- The values that go on a run behind its last value, which all are before the one in front of them or all are not,
and the values behind the run. -/
def goOnRun (before : α → α → Except ε Bool) (descends : Bool) (last : α) :
    List α → Except ε (List α × List α)
  | [] => .ok ([], [])
  | value :: rest => do
    if (← before value last) = descends then
      let (run, behind) ← goOnRun before descends value rest
      pure (value :: run, behind)
    else pure ([], value :: rest)

/-- The place for a value between two places of a list. -/
def placeBetween (isBefore : α → Except ε Bool) (values : Array α) (low high : Nat) : Except ε Nat :=
  if low < high then
    match values[(low + high) / 2]? with
    | some value => do
      if ← isBefore value then placeBetween isBefore values low ((low + high) / 2)
      else placeBetween isBefore values ((low + high) / 2 + 1) high
    | none => .ok low
  else .ok low
termination_by high - low
decreasing_by all_goals omega

/-- The list with a value at its place. -/
def insertSorted (before : α → α → Except ε Bool) (values : List α) (value : α) : Except ε (List α) := do
  let place ← placeBetween (before value) values.toArray 0 values.length
  pure (values.take place ++ value :: values.drop place)

/-- The values in order; fewer than two are not compared. -/
def sortByInsertion (before : α → α → Except ε Bool) : List α → Except ε (List α)
  | first :: second :: rest => do
    let descends ← before second first
    let (run, behind) ← goOnRun before descends second rest
    let run := first :: second :: run
    behind.foldlM (insertSorted before) (if descends then run.reverse else run)
  | values => .ok values

end FrontPage
