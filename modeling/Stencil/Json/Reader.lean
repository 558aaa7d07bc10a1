import Stencil.Json.Literal
import Stencil.Value

/-!
# Reading JSON

A strict reader for JSON text. Lists and maps nest at most 127 deep, a repeated key keeps its last
value, and nothing may follow the value but white space.
-/

namespace Stencil

namespace Json

/-- The four characters that may stand between tokens. -/
def isSpace (c : Char) : Bool := c == ' ' || c == '\n' || c == '\t' || c == '\r'

/-- Drop white space. -/
def skipSpace (t : Text) : Text := t.dropWhile isSpace

/-- How deep lists and maps may nest. -/
def maxDepth : Nat := 127

/-- Items up to a closing character, with commas between them; one item at least. `fuel` bounds their
number. -/
def itemsUntil? {α : Type} (item? : Text → Option (α × Text)) (close : Char) :
    Nat → Text → Option (List α × Text)
  | 0, _ => none
  | fuel + 1, t =>
    match item? (skipSpace t) with
    | none => none
    | some (x, rest) =>
      match skipSpace rest with
      | ',' :: more => (itemsUntil? item? close fuel more).map fun (xs, after) => (x :: xs, after)
      | c :: more => if c = close then some ([x], more) else none
      | [] => none

/-- What follows an opening bracket or brace: items with commas, or the closing character at once. -/
def enclosed? {α : Type} (item? : Text → Option (α × Text)) (close : Char) (t : Text) :
    Option (List α × Text) :=
  match skipSpace t with
  | c :: rest => if c = close then some ([], rest) else itemsUntil? item? close t.length t
  | [] => none

/-- A key, a colon and a value. -/
def member? {α : Type} (value? : Text → Option (α × Text)) : Text → Option ((Text × α) × Text)
  | '"' :: rest =>
    match string? rest with
    | none => none
    | some (key, rest) =>
      match skipSpace rest with
      | ':' :: more => (value? (skipSpace more)).map fun (v, after) => ((key, v), after)
      | _ => none
  | _ => none

/-- The words `null`, `true` and `false`. -/
def word? (t : Text) : Option (Value × Text) :=
  ((Text.stripPrefix? "null".toList t).map (Value.null, ·)).or <|
    ((Text.stripPrefix? "true".toList t).map (Value.bool true, ·)).or <|
      (Text.stripPrefix? "false".toList t).map (Value.bool false, ·)

/-- A number or a word. -/
def scalar? (t : Text) : Option (Value × Text) :=
  match Numeral.read? t with
  | some (numeral, rest) => (number? numeral).map fun n => (.number n, rest)
  | none => word? t

/-- The value at the beginning of a text, whose lists and maps nest at most `depth` deep. -/
def value? : Nat → Text → Option (Value × Text)
  | depth, t =>
    match t with
    | '"' :: rest => (string? rest).map fun (s, after) => (.string s, after)
    | '[' :: rest =>
      match depth with
      | 0 => none
      | depth + 1 => (enclosed? (value? depth) ']' rest).map fun (vs, after) => (.list vs, after)
    | '\x7b' :: rest =>
      match depth with
      | 0 => none
      | depth + 1 =>
        (enclosed? (member? (value? depth)) '\x7d' rest).map fun (es, after) =>
          (.map (Dictionary.ofList es), after)
    | t => scalar? t

/-- The value a whole text writes. -/
def parse? (t : Text) : Option Value :=
  match value? maxDepth (skipSpace t) with
  | none => none
  | some (v, rest) => if (skipSpace rest).isEmpty then some v else none

end Json

end Stencil
