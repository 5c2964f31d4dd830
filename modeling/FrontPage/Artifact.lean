import FrontPage.Text.Blank
import FrontPage.Text.Case
import FrontPage.Value.Parts

/-!
# Artifacts

What a page becomes when it is published: the extension of its file says what the file holds, and a page in a script
file is wrapped as a function that writes it out (`wrapScript`). A layout may name any value as its file; `extension?`
says for which of them that fails.
-/

namespace FrontPage

/-- Why a value has no file extension. -/
inductive FileNameError where
  /-- It holds nothing, so no point can be looked for in it. -/
  | notSearchable (kind : ValueKind)
  /-- It holds a point, but is no text that could be split there. -/
  | notSplittable
  deriving DecidableEq, Repr

/-- The letters behind the last point of a file name, in lower case. -/
def fileExtension (filename : String) : String :=
  if filename.toList.contains '.' then
    Text.lower (String.ofList (((Text.pieces '.' filename.toList).getLast?).getD []))
  else ""

/-- The extension of what a layout names as its file; a list or record without a point has an empty one. -/
def extension? : Value → Except FileNameError String
  | .text filename => .ok (fileExtension filename)
  | .list items =>
    if items.any fun item => item.equals (.text ".") then .error .notSplittable else .ok ""
  | .record fields => if Record.has fields "." then .error .notSplittable else .ok ""
  | value => .error (.notSearchable value.kind)

/-- Files with the extension hold scripts. -/
def isScriptExtension (extension : String) : Bool := extension == "js"

/-- The name of the function that writes a layout's page: the layout's name without blanks. -/
def scriptFunctionName (layoutName : String) : String :=
  "Get" ++ String.ofList (layoutName.toList.filter fun c => !Text.isBlank c)

/-- A text inside a template literal: backslashes, backticks and dollars before an opening brace are escaped. -/
def escapeTemplate : List Char → List Char
  | [] => []
  | '$' :: '\x7b' :: rest => '\\' :: '$' :: '\x7b' :: escapeTemplate rest
  | c :: rest => if c = '\\' || c = '\x60' then '\\' :: c :: escapeTemplate rest else c :: escapeTemplate rest

/-- A page as a function that writes it into the document. -/
def wrapScript (functionName html : String) : String :=
  "function " ++ functionName ++ "()\x7bdocument.write(\x60" ++ String.ofList (escapeTemplate html.toList)
    ++ "\x60);\x7d\n\n"

/-- The name of the function of a layout's name, and a page wrapped as that function; both must be texts. -/
def scriptOf (layoutName html : Value) : Except Misuse (String × String) :=
  match layoutName, html with
  | .text layoutName, .text html =>
    let function := scriptFunctionName layoutName
    .ok (function, wrapScript function html)
  | .text _, _ => .error .noOperation
  | _, _ => .error .wrongKind

end FrontPage
