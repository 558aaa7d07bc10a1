import Stencil.Glob

/-!
# Reading globs

The written form of globs. A backslash takes the next character as it is. Braces must be closed and
brackets must hold a character; a closing bracket or a minus sign at the beginning of brackets stands
for itself.
-/

namespace Stencil

namespace Glob

/-- Let the last range end in a character that is not before its first. -/
def extend? (c : Char) : List (Char × Char) → Option (List (Char × Char))
  | [] => none
  | [range] => if c < range.1 then none else some [(range.1, c)]
  | range :: rest => (extend? c rest).map (range :: ·)

/-- The ranges up to the closing bracket. `open?` tells that a minus sign waits for the end of the last
range. -/
def ranges? (done : List (Char × Char)) (waits : Bool) : Text → Option (List (Char × Char) × Text)
  | [] => none
  | c :: rest =>
    if c = ']' ∧ done ≠ [] then some (if waits then done ++ [('-', '-')] else done, rest)
    else if waits then (extend? c done).bind fun done => ranges? done false rest
    else if c = '-' ∧ done ≠ [] then ranges? done true rest
    else ranges? (done ++ [(c, c)]) false rest

/-- What stands in brackets, after the opening one. -/
def set? (t : Text) : Option (Part × Text) :=
  match t with
  | '!' :: rest | '^' :: rest => (ranges? [] false rest).map fun (rs, after) => (.set true rs, after)
  | _ => (ranges? [] false t).map fun (rs, after) => (.set false rs, after)

/-- Braces that are still open: what stands before them, and the branches that are finished. -/
structure Brace where
  /-- The parts before the opening brace. -/
  before : List Part
  /-- The finished branches. -/
  branches : List (List Part)

/-- The part in place of the last of some parts, which is a slash; folders that are there already
stay. -/
def overSlash (part : Part) (parts : List Part) : List Part :=
  match parts.getLast? with
  | some .leading | some .inside => parts
  | _ => parts.dropLast ++ [part]

/-- What some parts become with two stars after them, and whether the slash that follows the stars
belongs to them. `last` is the character before the stars, and `nested` tells that braces are open.
Stars that do not stand between slashes are two stars. -/
def stars (parts : List Part) (last : Option Char) (nested : Bool) (rest : Text) :
    List Part × Bool :=
  let plain := (parts ++ [.any, .any], false)
  let opens := last = some '/' ∨ (nested ∧ (last = some ',' ∨ last = some '\x7b'))
  match rest with
  | [] =>
    if parts.isEmpty then ([.leading], false)
    else if opens then (overSlash .inside parts, false)
    else plain
  | c :: _ =>
    if c = '/' then
      if parts.isEmpty then ([.leading], true)
      else if opens then (overSlash .between parts, true)
      else plain
    else if nested ∧ (c = ',' ∨ c = '\x7d') ∧ !parts.isEmpty ∧ opens then
      (overSlash .inside parts, false)
    else plain

/-- Read on. `braces` are the open braces, innermost first, `parts` the parts of the glob or branch
that is being read, and `last` the character before the text. `fuel` bounds the steps. -/
def read? : Nat → List Brace → List Part → Option Char → Text → Option Glob
  | _, braces, parts, _, [] => if braces.isEmpty then some parts else none
  | 0, _, _, _, _ :: _ => none
  | fuel + 1, braces, parts, last, c :: rest =>
    let add (part : Part) (last : Char) (rest : Text) : Option Glob :=
      read? fuel braces (parts ++ [part]) (some last) rest
    match c, rest with
    | '?', _ => add .one c rest
    | '*', '*' :: after =>
      match stars parts last (!braces.isEmpty) after with
      | (parts, true) => read? fuel braces parts (some '/') after.tail
      | (parts, false) => read? fuel braces parts (some '*') after
    | '*', _ => add .any c rest
    | '[', _ => (set? rest).bind fun (part, left) => add part ']' left
    | '\x7b', _ => read? fuel (⟨parts, []⟩ :: braces) [] (some c) rest
    | '\x7d', _ =>
      match braces with
      | [] => none
      | b :: outer =>
        read? fuel outer (b.before ++ [.ofBranches (b.branches ++ [parts])]) (some c) rest
    | ',', _ =>
      match braces with
      | [] => add (.literal c) c rest
      | b :: outer => read? fuel (⟨b.before, b.branches ++ [parts]⟩ :: outer) [] (some c) rest
    | '\\', [] => none
    | '\\', d :: after => add (.literal d) d after
    | _, _ => add (.literal c) c rest

/-- Folders alone stand for everything. -/
def wholeGlob (parts : List Part) : Glob :=
  match parts with
  | [.leading] => [.any]
  | _ => parts

/-- The glob that a text writes. -/
def parse? (t : Text) : Option Glob := (read? t.length [] [] none t).map wholeGlob

/-- The globs that texts write; none if one of them writes no glob. -/
def parseAll? (ts : List Text) : Option (List Glob) := ts.mapM parse?

/-- Whether one of some globs matches a path. -/
def anyCovers (globs : List Glob) (path : Text) : Bool := globs.any (covers · path)

end Glob

end Stencil
