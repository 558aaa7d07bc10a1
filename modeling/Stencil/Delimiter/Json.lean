import Stencil.Delimiter
import Stencil.Json
import Stencil.Json.Record

/-!
# Delimiters in JSON

A pair of delimiters is written as an object with the members `open` and `close`, in this order.
-/

namespace Stencil

namespace Pair

/-- The fields of a pair. -/
def fields : List (Json.Field Pair) :=
  [.text "open" true fun p t => { p with opening := t },
    .text "close" true fun p t => { p with closing := t }]

/-- A pair in JSON. -/
def json (p : Pair) : Text :=
  "\x7b\"open\":".toList ++ Json.quote p.opening ++ ",\"close\":".toList ++ Json.quote p.closing ++
    ['\x7d']

/-- The pair that a text writes. -/
def ofJson? (t : Text) : Option Pair :=
  match Json.takeRecord fields ⟨[], []⟩ t with
  | .ok (p, rest) => if (Json.skipSpace rest).isEmpty then some p else none
  | .error _ => none

end Pair

end Stencil
