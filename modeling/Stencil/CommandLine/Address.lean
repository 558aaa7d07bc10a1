import Stencil.Text

/-!
# Network addresses

Which texts are addresses: four decimal numbers with dots between them, or up to eight hexadecimal
numbers with colons between them, where two colons in a row stand for zeros that are left out and the
last two numbers may be written with dots.
-/

namespace Stencil

namespace Address

/-- Whether a text is a decimal number below 256 without a leading zero. -/
def isOctet (t : Text) : Bool :=
  !t.isEmpty && t.length ≤ 3 && t.all Char.isDigit && (t.length == 1 || t.head? != some '0') &&
    t.foldl (fun n c => n * 10 + (c.toNat - '0'.toNat)) 0 < 256

/-- Whether a text is an address with dots. -/
def isDotted (t : Text) : Bool :=
  let parts := Text.split '.' t
  parts.length == 4 && parts.all isOctet

/-- Whether a character is a hexadecimal digit. -/
def isHex (c : Char) : Bool := c.isDigit || ('a' ≤ c && c ≤ 'f') || ('A' ≤ c && c ≤ 'F')

/-- Whether a text is a hexadecimal number of at most four digits. -/
def isGroup (t : Text) : Bool := !t.isEmpty && t.length ≤ 4 && t.all isHex

/-- The number of groups that parts between colons stand for, the last of which may be two groups with
dots if `dots` says so. -/
def groups? (dots : Bool) : List Text → Option Nat
  | [] => some 0
  | [part] => if isGroup part then some 1 else if dots && isDotted part then some 2 else none
  | part :: rest => if isGroup part then (groups? dots rest).map (· + 1) else none

/-- The same for a text, where an empty one has no groups. -/
def groupsIn? (dots : Bool) (t : Text) : Option Nat :=
  if t.isEmpty then some 0 else groups? dots (Text.split ':' t)

/-- A text before and after the first two colons in a row. -/
def splitGap? : Text → Option (Text × Text)
  | [] => none
  | ':' :: ':' :: rest => some ([], rest)
  | c :: rest => (splitGap? rest).map fun (before, after) => (c :: before, after)

/-- Whether a text is an address with colons. -/
def isColoned (t : Text) : Bool :=
  match splitGap? t with
  | none => groupsIn? true t == some 8
  | some (before, after) =>
    match groupsIn? false before, groupsIn? true after with
    | some m, some n => m + n ≤ 7
    | _, _ => false

/-- Whether a text is an address. -/
def isAddress (t : Text) : Bool := isDotted t || isColoned t

end Address

end Stencil
