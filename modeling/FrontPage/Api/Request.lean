import FrontPage.Api.Address
import FrontPage.Store.Index
import FrontPage.Text.Encoding
import FrontPage.Text.Upper

/-!
# Requests to the service

A request names a path and may carry parameters and a body. Paths and parameters are percent-decoded as UTF-8, and of
parameters of one name the first counts. A body counts as a document only if its type says JSON and it is JSON. A
request whose target leads nowhere, or whose type has more than one line, cannot be sent (`RequestError`).
-/

namespace FrontPage

/-- What a request carries. -/
inductive Payload where
  | nothing
  | document (value : Value)
  /-- A document that is too deep to be read. -/
  | tooDeep

/-- The body of a request. -/
inductive Body where
  | nothing
  | document (value : Value)
  /-- A text of some type. -/
  | text (type content : String)

/-- Why a request cannot be sent. -/
inductive RequestError where
  /-- The type of the body has more than one line. -/
  | lineEndInType
  /-- The target leads nowhere. -/
  | address (cause : AddressError)
  deriving DecidableEq, Repr

/-- A request: its method as it is spelled, where it goes, what it carries, and whether work can be queued. -/
structure Request where
  spelling : String
  destination : Destination
  payload : Payload := .nothing
  /-- The identifier under which work is queued; without one it cannot be queued. -/
  queueId : Option Value := none

namespace Request

/-- The method of the request, in capitals. -/
def method (request : Request) : String := Text.upper request.spelling

/-- The decoded path, beginning with one slash. -/
def path (request : Request) : List Char :=
  '/' :: (Text.percentDecode request.destination.path).toList.dropWhile (· = '/')

/-- The segments of a path, the first being empty. -/
def segments (path : List Char) : List String := (Text.pieces '/' path).map String.ofList

/-- The path with all slashes in a row made one. -/
def mergeSlashes : List Char → List Char
  | [] => []
  | c :: rest => if c = '/' && rest.head? = some '/' then mergeSlashes rest else c :: mergeSlashes rest

/-- A parameter's name and value; blanks may be written as plus signs. -/
def readParameter (piece : List Char) : String × String :=
  let decode (text : List Char) := Text.percentDecode (text.map fun c => if c = '+' then ' ' else c)
  let (name, value) := Text.splitFirst '=' piece
  (decode name, decode value)

/-- The parameters of the target. -/
def parameters (request : Request) : List (String × String) :=
  ((Text.pieces '&' request.destination.query).filter fun piece => !piece.isEmpty).map readParameter

/-- The value of a parameter, if it is given. -/
def parameter? (request : Request) (name : String) : Option String := request.parameters.lookup name

/-- A text without the spaces and tabs at both ends. -/
def trimSpaces (text : List Char) : List Char :=
  let isSpace (c : Char) : Bool := c = ' ' || c = '\t'
  ((text.dropWhile isSpace).reverse.dropWhile isSpace).reverse

/-- The type of a body says that it is JSON. Spaces and tabs around its name do not count. -/
def isJsonType (type : String) : Bool :=
  let name := Text.lower (String.ofList (trimSpaces (Text.splitFirst ';' type.toList).1))
  name == "application/json" || (Text.begins "application/" name && Text.ends "+json" name)

/-- The steps of work that the view of a request is inside of. -/
def steps : Nat := 9

/-- How many lists and records may stand inside each other in a body, which is read in seven steps from the view on. -/
def bodyLevels : Nat := mostSteps - steps - 7

/-- What a text of some type carries. -/
def readText (type content : String) : Payload :=
  if isJsonType type then
    match (Text.decodeDocument (content.toUTF8.toList.map UInt8.toNat)).map (Json.read bodyLevels) with
    | some (.ok value) => .document value
    | some (.error ⟨.tooDeep _, _, _, _⟩) => .tooDeep
    | _ => .nothing
  else .nothing

/-- What a body carries. -/
def readBody : Body → Except RequestError Payload
  | .nothing => .ok .nothing
  | .document value => .ok (.document value)
  | .text type content =>
    if type.toList.any fun c => c = '\n' || c = '\r' then .error .lineEndInType else .ok (readText type content)

/-- The request for a target with a body, if it can be sent. -/
def make (spelling target : String) (body : Body) (queueId : Option Value) : Except RequestError Request := do
  let destination ← (Destination.ofTarget target.toList).mapError .address
  let payload ← readBody body
  destination.check.mapError .address
  pure { spelling, destination, payload, queueId }

end Request

end FrontPage
