import Stencil.Json.Reader
import Stencil.Query

/-!
# Reading queries

The written form of queries: a dollar sign and segments, each a dot and a name, a dot and a star, or
selectors in brackets; two dots reach everything inside. White space may stand between segments and
around the parts of brackets, but not at the ends of the query.
-/

namespace Stencil

namespace Query

/-- A reader takes a beginning of a text and gives back the rest. -/
abbrev Reader (α : Type) := Text → Option (α × Text)

/-- Drop the white space that may stand between the parts of a query. -/
def skip (t : Text) : Text := Json.skipSpace t

/-- A fixed piece of text. -/
def piece? (piece : String) (t : Text) : Option Text := Text.stripPrefix? piece.toList t

/-- The characters a name may begin with. -/
def isNameStart (c : Char) : Bool :=
  ('a' ≤ c && c ≤ 'z') || ('A' ≤ c && c ≤ 'Z') || c == '_' || 0x80 ≤ c.toNat

/-- The characters inside a name. -/
def isNamePart (c : Char) : Bool := isNameStart c || c.isDigit

/-- A name without quotation marks. -/
def name? : Reader Text
  | [] => none
  | c :: rest =>
    if isNameStart c then some (c :: rest.takeWhile isNamePart, rest.dropWhile isNamePart) else none

/-- The first character inside quotation marks of a kind; the other kind needs no backslash and may
not have one. -/
def quotedChar? (mark : Char) : Reader Char
  | '\\' :: c :: rest =>
    if c = mark then some (c, rest)
    else if c = '"' then none
    else if c = 'u' then Json.unicodeEscape? rest
    else (Json.shortEscape? c).map (·, rest)
  | c :: rest => if c = '\\' ∨ c = mark ∨ c.toNat < 0x20 then none else some (c, rest)
  | [] => none

/-- The inside of a quoted text and its closing mark. `fuel` bounds the characters. -/
def quotedBody? (mark : Char) : Nat → Reader Text
  | fuel, t =>
    if t.head? = some mark then some ([], t.tail)
    else
      match fuel with
      | 0 => none
      | fuel + 1 =>
        match quotedChar? mark t with
        | none => none
        | some (c, rest) => (quotedBody? mark fuel rest).map fun (s, after) => (c :: s, after)

/-- A text in single or double quotation marks. -/
def quoted? : Reader Text
  | '\'' :: rest => quotedBody? '\'' rest.length rest
  | '"' :: rest => quotedBody? '"' rest.length rest
  | _ => none

/-- The greatest whole number that a position may be. -/
def maxIndex : Int := 9007199254740991

/-- A whole number without leading zeros, minus zero excepted, and not too far from zero. -/
def int? (t : Text) : Option (Int × Text) :=
  let (negative, t) :=
    match t with
    | '-' :: rest => (true, rest)
    | _ => (false, t)
  match Json.digits t with
  | ([], _) => none
  | (0 :: _, _) => if negative then none else some (0, t.tail)
  | (ds, rest) =>
    let n : Int := Json.ofDigits ds
    if maxIndex < n then none else some (if negative then -n else n, rest)

/-- A whole number, or nothing. -/
def optionalInt (t : Text) : Option Int × Text :=
  match int? t with
  | some (n, rest) => (some n, rest)
  | none => (none, t)

/-- The part of a slice after a colon: a number may follow. -/
def afterColon? (t : Text) : Option (Option Int × Text) :=
  (piece? ":" (skip t)).map fun rest => optionalInt (skip rest)

/-- A slice: one or two colons with numbers around them. -/
def slice? : Reader Selector := fun t =>
  let (start, t) := optionalInt t
  match afterColon? t with
  | none => none
  | some (stop, t) =>
    match afterColon? t with
    | some (step, t) => some (.slice start stop step, t)
    | none => some (.slice start stop none, t)

/-- Readings with a piece of text and white space between them; one at least. A separator that no
reading follows is left. `fuel` bounds their number. -/
def separated? {α : Type} (between : String) (item? : Reader α) : Nat → Reader (List α)
  | 0, _ => none
  | fuel + 1, t =>
    match item? t with
    | none => none
    | some (x, rest) =>
      match (piece? between (skip rest)).bind fun more => separated? between item? fuel (skip more) with
      | some (xs, after) => some (x :: xs, after)
      | none => some ([x], rest)

/-- Readings one after another, with white space before each, as many as there are. -/
def many {α : Type} (item? : Reader α) : Nat → Text → List α × Text
  | 0, t => ([], t)
  | fuel + 1, t =>
    match item? (skip t) with
    | none => ([], t)
    | some (x, rest) =>
      let (xs, after) := many item? fuel rest
      (x :: xs, after)

/-- A selector inside brackets. -/
def selector? (condition? : Reader Condition) : Reader Selector := fun t =>
  match t with
  | '*' :: rest => some (.all, rest)
  | '?' :: rest => (condition? (skip rest)).map fun (c, after) => (.filter c, after)
  | _ =>
    (slice? t).or <|
      ((int? t).map fun (i, rest) => (.index i, rest)).or <|
        (quoted? t).map fun (s, rest) => (.key s, rest)

/-- Selectors in brackets. -/
def bracketed? (condition? : Reader Condition) : Reader (List Selector) := fun t =>
  match piece? "[" t with
  | none => none
  | some t =>
    match separated? "," (selector? condition?) t.length (skip t) with
    | none => none
    | some (ss, rest) => (piece? "]" (skip rest)).map (ss, ·)

/-- A star, or a name without quotation marks. -/
def shorthand? : Reader (List Selector) := fun t =>
  match t with
  | '*' :: rest => some ([.all], rest)
  | _ => (name? t).map fun (s, rest) => ([.key s], rest)

/-- A segment. -/
def segment? (condition? : Reader Condition) : Reader Segment := fun t =>
  match piece? ".." t with
  | some rest =>
    ((shorthand? rest).or (bracketed? condition? rest)).map fun (ss, after) => (.mk true ss, after)
  | none =>
    match piece? "." t with
    | some rest => (shorthand? rest).map fun (ss, after) => (.mk false ss, after)
    | none => (bracketed? condition? t).map fun (ss, after) => (.mk false ss, after)

/-- The sign a query begins with. -/
def anchor? : Reader Anchor
  | '$' :: rest => some (.root, rest)
  | '@' :: rest => some (.current, rest)
  | _ => none

/-- A query inside a condition. -/
def inner? (condition? : Reader Condition) : Reader Query := fun t =>
  (anchor? t).map fun (anchor, rest) =>
    let (segments, after) := many (segment? condition?) rest.length rest
    (.mk anchor segments, after)

/-- The one step that a segment is, if it is a step. -/
def stepOf? : Segment → Option Step
  | .mk false [.key name] => some (.key name)
  | .mk false [.index i] => some (.index i)
  | _ => none

/-- The place a query leads to, if each of its segments is a step. -/
def placeOf? : Query → Option Place
  | .mk anchor segments => (segments.mapM stepOf?).map fun steps => ⟨anchor, steps⟩

/-- A value written in a condition: a text, a number, or one of three words. -/
def literal? : Reader Value := fun t =>
  ((quoted? t).map fun (s, rest) => (.string s, rest)).or (Json.scalar? t)

/-- The characters a function name may begin with. -/
def isFunctionStart (c : Char) : Bool := 'a' ≤ c && c ≤ 'z'

/-- A function name and its opening parenthesis. -/
def functionName? : Reader Text
  | [] => none
  | c :: rest =>
    let inside := fun c => isFunctionStart c || c == '_' || c.isDigit
    if isFunctionStart c then
      (piece? "(" (rest.dropWhile inside)).map (c :: rest.takeWhile inside, ·)
    else none

/-- An argument of a function. A place can be taken for the value there or for the values found. -/
inductive Argument
  /-- A literal, or what a function gives. -/
  | term (t : Term)
  /-- A query that finds one value at most. -/
  | place (p : Place)
  /-- Any other query. -/
  | query (q : Query)

/-- The term that an argument is where a single value is asked for. -/
def Argument.term? : Argument → Option Term
  | .term t => some t
  | .place p => some (.place p)
  | .query _ => none

/-- The term that a function with one argument is. -/
def unary? (function : Text) : Argument → Option Term
  | .term t => if function = "length".toList then some (.size t) else none
  | .place p =>
    if function = "length".toList then some (.size (.place p))
    else if function = "count".toList then some (.countPlace p)
    else if function = "value".toList then some (.place p)
    else none
  | .query q =>
    if function = "count".toList then some (.count q)
    else if function = "value".toList then some (.sole q)
    else none

/-- What follows the opening parenthesis of a function: arguments and the closing parenthesis. -/
def arguments? (argument? : Reader Argument) : Reader (List Argument) := fun t =>
  match piece? ")" (skip t) with
  | some rest => some ([], rest)
  | none =>
    match separated? "," argument? t.length (skip t) with
    | none => none
    | some (as, rest) => (piece? ")" (skip rest)).map (as, ·)

/-- An argument: a literal, a query, or a term of functions nested at most `fuel` deep. -/
def argument? (inner? : Reader Query) : Nat → Reader Argument
  | 0, _ => none
  | fuel + 1, t =>
    ((literal? t).map fun (v, rest) => (Argument.term (.literal v), rest)).or <|
      ((inner? t).map fun (q, rest) =>
        match placeOf? q with
        | some p => (Argument.place p, rest)
        | none => (Argument.query q, rest)).or <|
        match functionName? t with
        | none => none
        | some (function, rest) =>
          match arguments? (argument? inner? fuel) rest with
          | some ([a], after) => (unary? function a).map fun term => (.term term, after)
          | _ => none

/-- A term. -/
def term? (inner? : Reader Query) : Reader Term := fun t =>
  match argument? inner? (t.length + 1) t with
  | none => none
  | some (argument, rest) => argument.term?.map (·, rest)

/-- A sign of comparison. -/
def comparison? : Reader Comparison
  | '=' :: '=' :: rest => some (.equal, rest)
  | '!' :: '=' :: rest => some (.notEqual, rest)
  | '<' :: '=' :: rest => some (.lessOrEqual, rest)
  | '>' :: '=' :: rest => some (.greaterOrEqual, rest)
  | '<' :: rest => some (.less, rest)
  | '>' :: rest => some (.greater, rest)
  | _ => none

/-- A comparison of two terms. -/
def compared? (term? : Reader Term) : Reader Condition := fun t =>
  match term? t with
  | none => none
  | some (left, t) =>
    match comparison? (skip t) with
    | none => none
    | some (how, t) => (term? (skip t)).map fun (right, t) => (.compare how left right, t)

/-- A function that tells whether a text fits a pattern. -/
def fitting? (inner? : Reader Query) : Reader Condition := fun t =>
  match functionName? t with
  | none => none
  | some (function, t) =>
    match arguments? (argument? inner? (t.length + 1)) t with
    | some ([subject, pattern], t) =>
      match subject.term?, pattern.term? with
      | some subject, some pattern =>
        if function = "match".toList then some (.fits true subject pattern, t)
        else if function = "search".toList then some (.fits false subject pattern, t)
        else none
      | _, _ => none
    | _ => none

/-- A condition in parentheses. -/
def parenthesised? (condition? : Reader Condition) : Reader Condition := fun t =>
  match piece? "(" t with
  | none => none
  | some t =>
    match condition? (skip t) with
    | none => none
    | some (c, rest) => (piece? ")" (skip rest)).map (c, ·)

/-- What may be negated: a condition in parentheses, a query that finds something, or a function. -/
def test? (condition? : Reader Condition) (inner? : Reader Query) : Reader Condition := fun t =>
  (parenthesised? condition? t).or <|
    ((inner? t).map fun (q, rest) => (Condition.found q, rest)).or (fitting? inner? t)

/-- A negated test. -/
def negated? (condition? : Reader Condition) (inner? : Reader Query) : Reader Condition := fun t =>
  match piece? "!" t with
  | none => none
  | some rest => (test? condition? inner? (skip rest)).map fun (c, after) => (.not c, after)

/-- A condition without `and` and `or`. -/
def basic? (condition? : Reader Condition) : Reader Condition := fun t =>
  let inner? := inner? condition?
  (negated? condition? inner? t).or <|
    (compared? (term? inner?) t).or (test? condition? inner? t)

/-- Conditions joined by a sign, from the left. -/
def joined? (sign : String) (join : Condition → Condition → Condition)
    (part? : Reader Condition) : Reader Condition := fun t =>
  match separated? sign part? (t.length + 1) t with
  | some (c :: cs, rest) => some (cs.foldl join c, rest)
  | _ => none

/-- A condition whose parentheses and brackets nest at most `fuel` deep; `and` binds before `or`. -/
def condition? : Nat → Reader Condition
  | 0 => fun _ => none
  | fuel + 1 => joined? "||" .or (joined? "&&" .and (basic? (condition? fuel)))

/-- The query that a whole text writes. -/
def parse? (t : Text) : Option Query :=
  match inner? (condition? (t.length + 1)) t with
  | some (.mk .root segments, []) => some (.mk .root segments)
  | _ => none

end Query

end Stencil
