import FrontPage.Api.Response
import FrontPage.Value.Parts

/-!
# Envelopes by named arguments

An envelope is also made from arguments by name (`EnvelopeKind.make`): each kind of envelope has parameters, some of
which have a value when they are not given. The status is given back as it is; of an error it must be a number, since
errors of the service itself are told apart by it.
-/

namespace FrontPage

/-- The kinds of envelopes. -/
inductive EnvelopeKind where
  | success
  | error
  | validation
  deriving DecidableEq, Repr

namespace EnvelopeKind

/-- The parameters of a kind with the values of those that need not be given. -/
def parameters : EnvelopeKind → List (String × Option Value)
  | success => [("data", some .null), ("message", some .null), ("status_code", some (.int 200))]
  | error =>
    [ ("error_code", some (.text "INTERNAL_ERROR")),
      ("message", some .null),
      ("details", some .null),
      ("status_code", some (.int 400)) ]
  | validation => [("field", none), ("message", none)]

/-- The values of all parameters, if nothing else is given and nothing is missing. -/
def arguments (kind : EnvelopeKind) (given : Value) : Except Misuse Record :=
  match given with
  | .record given =>
    let values := kind.parameters.map fun (name, default) => (name, (Record.get? given name).or default)
    if given.all (fun field => kind.parameters.any fun p => p.1 == field.1) && values.all fun v => v.2.isSome then
      .ok (values.map fun (name, value) => (name, value.getD .null))
    else .error .wrongKind
  | _ => .error .wrongKind

/-- The status and the envelope for named arguments. -/
def make (kind : EnvelopeKind) (given : Value) : Except Misuse (Value × Value) := do
  let arguments ← kind.arguments given
  let argument := Record.get arguments
  match kind with
  | success => pure (argument "status_code", successEnvelope (argument "data") (argument "message"))
  | error =>
    if (argument "status_code").asNumber?.isNone then throw .wrongKind
    pure (argument "status_code", errorEnvelope (argument "error_code") (argument "message") (argument "details"))
  | validation => pure (.int 400, validationEnvelope (argument "field") (argument "message"))

end EnvelopeKind

end FrontPage
