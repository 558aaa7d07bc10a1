import Stencil.Json.Reader

/-!
# Reading JSON into records

A record is written as an object with a member for each field, or as an array of its fields in order.
The text is read once from left to right, and the first fault counts: either the text is no JSON, or
a value does not have the kind that its field asks for. Members without a field are passed over.
-/

namespace Stencil

namespace Json

/-- Why a text does not give a record. -/
inductive Misread
  /-- The text is no JSON. -/
  | malformed
  /-- A value is of the wrong kind, or a field is missing or given twice. -/
  | mismatched
  deriving DecidableEq, Repr

/-- A reader of values of one kind. -/
abbrev Taking (α : Type) := Text → Except Misread (α × Text)

/-- The fault of a value that is not of the kind asked for. Lists and maps are not looked into. -/
def misfit : Text → Misread
  | '[' :: _ | '\x7b' :: _ => .mismatched
  | '"' :: rest => if (string? rest).isSome then .mismatched else .malformed
  | t => if (scalar? t).isSome then .mismatched else .malformed

/-- The result of a reader that fails only on what is no JSON. -/
def orMalformed {α : Type} : Option α → Except Misread α
  | some x => .ok x
  | none => .error .malformed

/-- Read a string. -/
def takeText : Taking Text := fun t =>
  match skipSpace t with
  | '"' :: rest => orMalformed (string? rest)
  | t => .error (misfit t)

/-- Read a truth value. -/
def takeFlag : Taking Bool := fun t =>
  match scalar? (skipSpace t) with
  | some (.bool b, rest) => .ok (b, rest)
  | _ => .error (misfit (skipSpace t))

/-- Read a map, nested at most `depth` deep. -/
def takeMap (depth : Nat) : Taking Variables := fun t =>
  match skipSpace t with
  | '\x7b' :: rest =>
    match value? depth ('\x7b' :: rest) with
    | some (.map entries, after) => .ok (entries, after)
    | _ => .error .malformed
  | t => .error (misfit t)

/-- The rest of a string that is passed over: an escape is a backslash and a letter, or four
hexadecimal digits. `fuel` bounds the characters. -/
def passString? : Nat → Text → Option Text
  | _, '"' :: rest => some rest
  | 0, _ => none
  | fuel + 1, '\\' :: 'u' :: rest => (hexFour? rest).bind fun found => passString? fuel found.2
  | fuel + 1, '\\' :: c :: rest => if (shortEscape? c).isSome then passString? fuel rest else none
  | fuel + 1, c :: rest => if c = '\\' ∨ c.toNat < 0x20 then none else passString? fuel rest
  | _ + 1, [] => none

/-- A member that is passed over. -/
def passMember? (pass? : Text → Option Text) : Text → Option (Unit × Text)
  | '"' :: rest =>
    match (passString? rest.length rest).map skipSpace with
    | some (':' :: more) => (pass? (skipSpace more)).map ((), ·)
    | _ => none
  | _ => none

/-- The rest of a text after a value that is passed over. Any depth will do. `fuel` bounds it. -/
def passValue? : Nat → Text → Option Text
  | 0, _ => none
  | fuel + 1, t =>
    match t with
    | '"' :: rest => passString? rest.length rest
    | '[' :: rest =>
      (enclosed? (fun t => (passValue? fuel t).map ((), ·)) ']' rest).map Prod.snd
    | '\x7b' :: rest => (enclosed? (passMember? (passValue? fuel)) '\x7d' rest).map Prod.snd
    | _ =>
      match Numeral.read? t with
      | some (_, rest) => some rest
      | none => (word? t).map Prod.snd

/-- A field of a record. -/
structure Field (σ : Type) where
  /-- The key of its member. -/
  name : Text
  /-- Whether it must be given. -/
  required : Bool
  /-- Read it into a record. -/
  take : σ → Taking σ

/-- The text after a colon. -/
def afterColon (t : Text) : Except Misread Text :=
  match skipSpace t with
  | ':' :: rest => .ok rest
  | _ => .error .malformed

/-- Read a member after the quotation mark of its key, unless its field was read before. Gives the
record and the names read. -/
def takeMember {σ : Type} (fields : List (Field σ)) (seen : List Text) (record : σ) (t : Text) :
    Except Misread ((σ × List Text) × Text) := do
  let (key, rest) ← orMalformed (string? t)
  match fields.find? fun f => f.name = key with
  | none =>
    let rest ← afterColon rest
    let rest ← orMalformed (passValue? rest.length (skipSpace rest))
    return ((record, seen), rest)
  | some f =>
    if seen.contains key then throw .mismatched
    let (record, rest) ← f.take record (← afterColon rest)
    return ((record, key :: seen), rest)

/-- Read members up to the closing brace. `first` tells that none was read yet, and `fuel` bounds their
number. -/
def takeMembers {σ : Type} (fields : List (Field σ)) :
    Nat → Bool → List Text → σ → Text → Except Misread (σ × Text)
  | 0, _, _, _, _ => .error .malformed
  | fuel + 1, first, seen, record, t => do
    let member (rest : Text) : Except Misread (σ × Text) := do
      let ((record, seen), rest) ← takeMember fields seen record rest
      takeMembers fields fuel false seen record rest
    match skipSpace t with
    | '\x7d' :: rest =>
      if fields.any fun f => f.required && !seen.contains f.name then throw .mismatched
      return (record, rest)
    | ',' :: rest =>
      match first, skipSpace rest with
      | false, '"' :: rest => member rest
      | _, _ => throw .malformed
    | '"' :: rest => if first then member rest else throw .malformed
    | _ => throw .malformed

/-- Read the fields of an array, up to the closing bracket. -/
def takeElements {σ : Type} : List (Field σ) → Bool → σ → Text → Except Misread (σ × Text)
  | [], _, record, t =>
    match skipSpace t with
    | ']' :: rest => .ok (record, rest)
    | _ => .error .malformed
  | f :: fields, first, record, t =>
    match first, skipSpace t with
    | _, ']' :: rest =>
      if (f :: fields).any Field.required then .error .mismatched else .ok (record, rest)
    | true, t =>
      match f.take record t with
      | .error e => .error e
      | .ok (record, rest) => takeElements fields false record rest
    | false, ',' :: t =>
      match skipSpace t with
      | ']' :: _ => .error .malformed
      | t =>
        match f.take record t with
        | .error e => .error e
        | .ok (record, rest) => takeElements fields false record rest
    | false, _ => .error .malformed

/-- Read a record; fields that are not given stay as they are in `initial`. -/
def takeRecord {σ : Type} (fields : List (Field σ)) (initial : σ) : Taking σ := fun t =>
  match skipSpace t with
  | '[' :: rest => takeElements fields true initial rest
  | '\x7b' :: rest => takeMembers fields (rest.length + 1) true [] initial rest
  | t => .error (misfit t)

/-- A field that holds a text. -/
def Field.text {σ : Type} (name : String) (required : Bool) (set : σ → Text → σ) : Field σ where
  name := name.toList
  required := required
  take record t := (takeText t).map fun (s, rest) => (set record s, rest)

end Json

end Stencil
