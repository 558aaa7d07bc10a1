import Stencil.Delimiter
import Stencil.Json.Record
import Stencil.Text.Bytes

/-!
# Orders

An order to render is a JSON record: the name of a template, its variables, delimiters where they
differ from the standard, and whether every token must have a value. What follows the record in the
body of a request is not looked at.
-/

namespace Stencil

namespace Server

/-- An order to render a template. -/
structure Order where
  /-- The name of the template. -/
  template : Text
  /-- The variables to render it with. -/
  vars : Variables
  /-- The delimiters it is written with; empty ones are the standard ones. -/
  delimiters : Delimiters
  /-- Whether every token must have a value. -/
  strict : Bool

/-- Delimiters that are all empty. -/
def noDelimiters : Delimiters := ⟨⟨[], []⟩, ⟨[], []⟩, ⟨[], []⟩⟩

/-- The fields for delimiters. -/
def delimiterFields : List (Json.Field Delimiters) :=
  [.text "left" false fun d t => { d with token.opening := t },
    .text "right" false fun d t => { d with token.closing := t },
    .text "left_loop_variable" false fun d t => { d with tag.opening := t },
    .text "right_loop_variable" false fun d t => { d with tag.closing := t },
    .text "left_loop_block" false fun d t => { d with body.opening := t },
    .text "right_loop_block" false fun d t => { d with body.closing := t }]

namespace Order

/-- An order that says nothing. -/
def blank : Order := ⟨[], [], noDelimiters, false⟩

/-- How deep the variables of an order may nest: they stand inside the record. -/
def variableDepth : Nat := Json.maxDepth - 1

/-- The fields of an order. -/
def fields : List (Json.Field Order) :=
  [.text "template" true fun r t => { r with template := t },
    { name := "variables".toList
      required := false
      take := fun r t =>
        (Json.takeMap variableDepth t).map fun (v, rest) => ({ r with vars := v }, rest) },
    { name := "delimiters".toList
      required := false
      take := fun r t =>
        (Json.takeRecord delimiterFields noDelimiters t).map fun (d, rest) =>
          ({ r with delimiters := d }, rest) },
    { name := "strict".toList
      required := false
      take := fun r t =>
        (Json.takeFlag t).map fun (b, rest) => ({ r with strict := b }, rest) }]

/-- Bytes as text, with a control character for each byte that belongs to no character. JSON allows no
such control character, so it is found where the byte stands. -/
def textOf (data : ByteArray) : Text :=
  go data.size 0
where
  /-- The text from a byte on. `fuel` bounds the characters. -/
  go : Nat → Nat → Text
    | 0, _ => []
    | fuel + 1, i =>
      if i < data.size then
        match data.utf8DecodeChar? i with
        | some c => c :: go fuel (i + c.utf8Size)
        | none => '\x01' :: go fuel (i + 1)
      else []

/-- The order in the body of a request. -/
def ofBody (body : ByteArray) : Except Json.Misread Order :=
  (Json.takeRecord fields blank (textOf body)).map Prod.fst

end Order

end Server

end Stencil
