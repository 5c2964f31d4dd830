import FrontPage.Pipeline.Render

/-!
# Applications beside the pipeline

Some work is done in an application of its own, which shares the objects and the metrics of the pipeline but has an
environment and a cache of its own, and whose object store is in order. `aside` runs an action there on the same
roster, `inWorker` on a roster of its own. Nothing else of the pipeline changes.
-/

namespace FrontPage

/-- What is out of order also where the object store is another. -/
def Outages.besidesStore (outages : Outages) : Outages := { outages with put := none, document := none }

namespace Pipeline

open FrontPage.Action

variable {α : Type}

/-- The reports of several passes one after another. -/
def renderTimes : Nat → Action (List RenderReport)
  | 0 => pure []
  | n + 1 => do
    let report ← inside 1 renderReport
    pure (report :: (← renderTimes n))

/-- How often something is to be done; no value but an integer says so. -/
def timesOf (value : Value) : Except Misuse Nat :=
  match value with
  | .bool b => .ok b.toNat
  | .number (.int n) => .ok n.toNat
  | _ => .error .wrongKind

/-- Runs an action in an application of its own on the same roster. -/
def aside (environment : Environment) (action : Action α) : Action α := do
  let before ← get
  set
    { before with
      environment
      cache := {}
      time := clockStart
      outages := before.outages.besidesStore }
  let result ← attempt action
  modify fun after =>
    { after with
      environment := before.environment
      cache := before.cache
      time := before.time
      outages := before.outages }
  ofExcept id result

/-- Runs an action in an application of its own on a roster of its own, which is empty at first. -/
def inWorker (environment : Environment) (action : Action α) : Action α := aside environment do
  let roster := (← get).roster
  modify fun pipeline => { pipeline with roster := { roster with table := some .empty } }
  let result ← attempt action
  modify fun pipeline => { pipeline with roster }
  ofExcept id result

end Pipeline

end FrontPage
