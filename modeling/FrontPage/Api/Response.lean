import FrontPage.Value.Text

/-!
# Responses of the service

Every document of the service is an envelope with a code. `successEnvelope` and `errorEnvelope` make the envelopes of
the views; `Problem` is what can go wrong inside a view, and the three functions `Problem.handled`, `Problem.inView`
and `Problem.reported` say what becomes of it outside all views, in a view, and where a view reports it itself.
-/

namespace FrontPage

/-- A status with the document that is the body of a response; other bodies are not told apart. -/
structure Response where
  status : Nat
  document : Option Value

/-- The text of an error about which nothing is said. -/
def unexpected : String := "An unexpected error occurred"

/-- The envelope of a success; a message that does not hold is left out, and so is data that is nothing. -/
def successEnvelope (data message : Value) : Value :=
  let dataField : Record :=
    match data with
    | .null => []
    | data => [("data", data)]
  let messageField : Record := if message.holds then [("message", message)] else []
  .record ([("code", .text "SUCCESS"), ("success", .bool true)] ++ dataField ++ messageField)

/-- The envelope of an error; details that do not hold are left out. -/
def errorEnvelope (code message details : Value) : Value :=
  let detailsField : Record := if details.holds then [("details", details)] else []
  .record ([("code", code), ("success", .bool false), ("message", message.orElse (.text unexpected))] ++ detailsField)

/-- The envelope of a field that is not valid. -/
def validationEnvelope (field message : Value) : Value :=
  errorEnvelope (.text "VALIDATION_ERROR") (.text ("Validation failed for field: " ++ field.toText))
    (.record [("field", field), ("error", message)])

/-- The response of a success. -/
def successResponse (data message : Value) (status : Nat) : Response := ⟨status, some (successEnvelope data message)⟩

/-- The response of an error. -/
def errorResponse (code message details : Value) (status : Nat) : Response :=
  ⟨status, some (errorEnvelope code message details)⟩

/-- The response of an error of which nothing is said. -/
def internalErrorResponse : Response := errorResponse (.text "INTERNAL_ERROR") .null .null 500

/-- The response of a field that is not valid. -/
def validationResponse (field message : Value) : Response := ⟨400, some (validationEnvelope field message)⟩

/-- The document of an error outside all views. -/
def errorDocument (code message : Value) : Value :=
  .record [("error", .bool true), ("code", code), ("message", message)]

/-- The kinds of problems that responses tell apart. -/
inductive ProblemKind where
  /-- Some problem of the pipeline with a code of its own. -/
  | pipeline (code : Value)
  | layoutConfig
  | template
  | rosterStore
  | artifactWrite
  | invalidValue
  | other

/-- The code of problems of the pipeline that have no code of their own. -/
def defaultPipelineCode : String := "ARTICLE_GROUPS_ERROR"

/-- The code of a problem of the pipeline. -/
def ProblemKind.code? : ProblemKind → Option Value
  | pipeline code => some code
  | layoutConfig => some (.text "LAYOUT_CONFIG_ERROR")
  | template => some (.text "TEMPLATE_ERROR")
  | rosterStore => some (.text "MIRROR_STORE_ERROR")
  | artifactWrite => some (.text "ARTIFACT_WRITE_ERROR")
  | invalidValue => none
  | other => none

/-- What went wrong, and what is said about it. -/
structure Problem where
  kind : ProblemKind
  message : Value

namespace Problem

/-- The status of a problem outside all views. -/
def handledStatus : ProblemKind → Nat
  | .pipeline _ => 400
  | .template => 400
  | .layoutConfig => 422
  | .rosterStore => 503
  | .artifactWrite => 502
  | .invalidValue => 500
  | .other => 500

/-- The response to a problem outside all views. -/
def handled (problem : Problem) : Response :=
  let status := handledStatus problem.kind
  match problem.kind.code? with
  | some code => ⟨status, some (errorDocument code problem.message)⟩
  | none => ⟨status, some (errorDocument (.text "INTERNAL_ERROR") (.text unexpected))⟩

/-- The code and status of a problem of the pipeline that a view reports. -/
def reportedAs : ProblemKind → String × Nat
  | .rosterStore => ("SERVICE_UNAVAILABLE", 503)
  | .artifactWrite => ("SERVICE_UNAVAILABLE", 503)
  | .layoutConfig => ("PIPELINE_ERROR", 422)
  | _ => ("PIPELINE_ERROR", 500)

/-- The response of a view that reports a problem itself. -/
def reported (problem : Problem) : Response :=
  match problem.kind.code? with
  | some code =>
    let (name, status) := reportedAs problem.kind
    errorResponse (.text name) problem.message (.record [("code", code)]) status
  | none => internalErrorResponse

/-- The response to a problem in a view. -/
def inView (problem : Problem) : Response :=
  match problem.kind with
  | .invalidValue => errorResponse (.text "VALIDATION_ERROR") (.text problem.message.toText) .null 400
  | .other => internalErrorResponse
  | _ => problem.reported

end Problem

end FrontPage
