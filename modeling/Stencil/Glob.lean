import Stencil.Text.Bytes

/-!
# Globs

A glob stands for paths: a star for any text, slashes included, a question mark for one byte, brackets
for one byte of a set, braces for one of several globs. Two stars between slashes stand for any number
of folders. A glob matches a path as a whole, byte by byte.
-/

namespace Stencil

namespace Glob

/-- A part of a glob. -/
inductive Part
  /-- A character. -/
  | literal (c : Char)
  /-- Any byte. -/
  | one
  /-- Any bytes. -/
  | any
  /-- Any folders at the beginning, or none. -/
  | leading
  /-- A slash and anything below it. -/
  | inside
  /-- A slash, with any folders after it and then a slash again. -/
  | between
  /-- A byte of a set, or of its complement. -/
  | set (negated : Bool) (ranges : List (Char × Char))
  /-- One of several globs; nothing where there are none. -/
  | either (branches : List (List Part))
  deriving Repr

end Glob

/-- A glob is the list of its parts. -/
abbrev Glob := List Glob.Part

namespace Glob

/-- The bytes of a character. -/
def charBytes (c : Char) : List UInt8 := (Text.bytes [c]).toList

/-- Whether a byte belongs to a range of characters. Only the last byte of the first character and the
first byte of the last one bound the range; their other bytes belong to it as they are. -/
def inRange (b : UInt8) (range : Char × Char) : Bool :=
  let first := charBytes range.1
  let last := charBytes range.2
  first.contains b || last.contains b ||
    (range.1 != range.2 && first.getLastD 0 ≤ b && b ≤ last.headD 0)

/-- Whether some end of a list satisfies a predicate. -/
def someEnd (p : List UInt8 → Bool) : List UInt8 → Bool
  | [] => p []
  | b :: rest => p (b :: rest) || someEnd p rest

/-- Whether the bytes after some slash satisfy a predicate. -/
def afterSlash (p : List UInt8 → Bool) (bytes : List UInt8) : Bool :=
  someEnd (fun | 0x2f :: rest => p rest | _ => false) bytes

mutual

/-- Whether a part matches a beginning of the bytes, and the rest is what `next` accepts. -/
def Part.accepts : Part → (List UInt8 → Bool) → List UInt8 → Bool
  | .literal c, next, bytes =>
    match (charBytes c).isPrefixOf? bytes with
    | some rest => next rest
    | none => false
  | .one, next, bytes =>
    match bytes with
    | _ :: rest => next rest
    | [] => false
  | .any, next, bytes => someEnd next bytes
  | .leading, next, bytes => next bytes || afterSlash next bytes
  | .inside, next, bytes =>
    match bytes with
    | 0x2f :: rest => someEnd next rest
    | _ => false
  | .between, next, bytes =>
    match bytes with
    | 0x2f :: rest => next rest || afterSlash next rest
    | _ => false
  | .set negated ranges, next, bytes =>
    match bytes with
    | b :: rest => (ranges.any (inRange b) != negated) && next rest
    | [] => false
  | .either branches, next, bytes =>
    if branches.isEmpty then next bytes else acceptsEither branches next bytes

/-- Whether parts match a beginning of the bytes one after another. -/
def accepts : List Part → (List UInt8 → Bool) → List UInt8 → Bool
  | [], next, bytes => next bytes
  | p :: rest, next, bytes => Part.accepts p (accepts rest next) bytes

/-- Whether one of several globs matches a beginning of the bytes. -/
def acceptsEither : List (List Part) → (List UInt8 → Bool) → List UInt8 → Bool
  | [], _, _ => false
  | branch :: rest, next, bytes => accepts branch next bytes || acceptsEither rest next bytes

end

/-- Whether a part is the given character. -/
def Part.isChar (c : Char) : Part → Bool
  | .literal d => c == d
  | _ => false

/-- Whether a part is a character. -/
def Part.isLiteral : Part → Bool
  | .literal _ => true
  | _ => false

/-- Whether a part stands for nothing. -/
def Part.isVoid : Part → Bool
  | .either [] => true
  | _ => false

/-- Braces around branches. Branches that stand for nothing are left out. -/
def Part.ofBranches (branches : List (List Part)) : Part :=
  .either (branches.filter fun branch => !branch.all Part.isVoid)

/-- A glob without folders at its beginning, and whether it has them there. -/
def withoutLeading : Glob → Bool × Glob
  | .leading :: rest => (true, rest)
  | g => (false, g)

/-- Globs that are compared with the end of a path as it is: characters alone, which hold a slash if
folders may stand before them, and characters after a star, if they are more than a dot. -/
def isPlainEnd (g : Glob) : Bool :=
  let (folders, rest) := withoutLeading g
  match rest with
  | .any :: rest => rest.all Part.isLiteral && rest.length != 1
  | _ => rest.all Part.isLiteral && (!folders || rest.any (Part.isChar '/'))

/-- A path that ends in a dot has no name, so the globs that end in a dot and look at the name match
none. -/
def refuses (g : Glob) (path : Text) : Bool :=
  path.getLast? == some '.' && g.getLast?.any (Part.isChar '.') && !isPlainEnd g

/-- Whether a glob matches a path. -/
def covers (g : Glob) (path : Text) : Bool :=
  accepts g List.isEmpty (Text.bytes path).toList && !refuses g path

end Glob

end Stencil
