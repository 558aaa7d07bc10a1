import Stencil.Folder
import Stencil.Library
import Stencil.Server.Order

/-!
# The server

A server renders the templates of one folder and takes new ones. Every request is answered, and the
only change it makes is to write the file that the name of a new template stands for.
-/

namespace Stencil

namespace Server

/-- A request. -/
structure Request where
  /-- The method. -/
  method : Text
  /-- What is asked for: a path, and perhaps a query after it. -/
  target : Text
  /-- Whether the body is said to be JSON. -/
  isJson : Bool
  /-- The body. -/
  body : ByteArray

/-- What the body of a response is. -/
inductive ContentType
  | text
  | json
  deriving DecidableEq, Repr

/-- A response. -/
structure Response where
  /-- The status. -/
  status : Nat
  /-- What the body is, where there is one. -/
  contentType : Option ContentType
  /-- The body. -/
  body : Text
  deriving DecidableEq, Repr

/-- What can be asked for. -/
inductive Resource
  /-- The server itself. -/
  | root
  /-- A rendered template. -/
  | rendering
  /-- A template, by its name as it stands in a path. -/
  | template (written : Text)
  deriving DecidableEq, Repr

/-- The name of a content type in a response. -/
def ContentType.name : ContentType → Text
  | .text => "text/plain; charset=utf-8".toList
  | .json => "application/json".toList

namespace Response

/-- A response without a body. -/
def bare (status : Nat) : Response := ⟨status, none, []⟩

/-- A response with a text. -/
def ofText (t : Text) : Response := ⟨200, some .text, t⟩

/-- The status of a failure: the fault of the request, or of the server. -/
def statusOf : Failure → Nat
  | .outside _ => 400
  | .noTemplate _ => 404
  | .render _ => 422
  | _ => 500

/-- A response that tells a failure. -/
def ofFailure (e : Failure) : Response :=
  ⟨statusOf e, some .json, Json.print (.map [("error".toList, .string e.message)])⟩

end Response

/-- The path of a target: what stands before a query. -/
def pathOf (target : Text) : Text := target.takeWhile fun c => c ≠ '?' && c ≠ '#'

/-- What a path asks for. -/
def Resource.ofPath? (path : Text) : Option Resource :=
  if path = "/".toList then some .root
  else if path = "/render".toList then some .rendering
  else
    match Text.stripPrefix? "/templates/".toList path with
    | some name => if name = [] ∨ List.contains name '/' then none else some (.template name)
    | none => none

/-- The bytes that a part of a path stands for: a percent sign and two hexadecimal digits are one
byte. -/
def unescape : Text → List UInt8
  | [] => []
  | '%' :: a :: b :: rest =>
    match Json.hexDigit? a, Json.hexDigit? b with
    | some high, some low => (16 * high + low).toUInt8 :: unescape rest
    | _, _ => 0x25 :: unescape (a :: b :: rest)
  | c :: rest => (Text.bytes [c]).toList ++ unescape rest

/-- The name that a part of a path stands for. -/
def nameOf? (written : Text) : Option Text := Text.ofBytes? ⟨(unescape written).toArray⟩

/-- The text of a template of a folder. -/
def templateText (t : FileTree) (folder name : Text) : Except Failure Text := do
  let found ← Named.find t folder name
  match t.readText found.route with
  | .ok text => .ok text
  | .error .missing => .error (.noTemplate name)
  | .error e => .error (.file e)

/-- What a request to render gives. -/
def rendered (t : FileTree) (folder : Text) (r : Order) : Except Failure Text := do
  let text ← templateText t folder r.template
  let d := r.delimiters
  (render text r.vars
    { delimiters := .ofPairs d.token d.tag d.body, strict := r.strict }).mapError .render

/-- Answer a request to render. -/
def answerRender (t : FileTree) (folder : Text) (r : Request) : Response :=
  if !r.isJson then .bare 415
  else
    match Order.ofBody r.body with
    | .error .malformed => .bare 400
    | .error .mismatched => .bare 422
    | .ok request =>
      match rendered t folder request with
      | .ok text => .ofText text
      | .error e => .ofFailure e

/-- A tree with a template of a folder written anew. -/
def stored (t : FileTree) (folder name text : Text) : Except Failure FileTree := do
  let found ← Named.find t folder name
  (t.write found.route (Text.bytes text)).mapError .file

/-- Answer a request to store a template. -/
def answerStore (t : FileTree) (folder written : Text) (r : Request) : Response × FileTree :=
  match nameOf? written, Text.ofBytes? r.body with
  | some name, some text =>
    match stored t folder name text with
    | .ok t => (.bare 201, t)
    | .error e => (.ofFailure e, t)
  | _, _ => (.bare 400, t)

/-- What the server says of itself. -/
def greeting : Text := "Template engine server listening...".toList

/-- Answer a request. -/
def answer (folder : Text) (t : FileTree) (r : Request) : Response × FileTree :=
  match Resource.ofPath? (pathOf r.target), String.ofList r.method with
  | none, _ => (.bare 404, t)
  | some .root, "GET" => (.ofText greeting, t)
  | some .root, "HEAD" => (⟨200, some .text, []⟩, t)
  | some .rendering, "POST" => (answerRender t folder r, t)
  | some (.template written), "PUT" => answerStore t folder written r
  | some _, _ => (.bare 405, t)

/-- Answer requests one after another. -/
def answerAll (folder : Text) : FileTree → List Request → List Response × FileTree
  | t, [] => ([], t)
  | t, r :: rest =>
    let (response, t) := answer folder t r
    let (responses, t) := answerAll folder t rest
    (response :: responses, t)

end Server

end Stencil
