import Stencil.Pattern.Match
import Stencil.Text.Word

/-!
# Reading patterns

The written form of patterns: characters, classes in brackets, groups, choices, repetitions, and
conditions on the position. A dot stands for any character that does not break a line, and a caret
and a dollar sign for the ends of the text.
-/

namespace Stencil

namespace CharSet

/-- Any character but line feed and carriage return. -/
def dot : CharSet := ⟨['.'], fun c => c != '\n' && c != '\r'⟩

/-- Decimal digits. -/
def digit : CharSet := ⟨"\\d".toList, Text.isDecimal⟩

/-- Word characters. -/
def word : CharSet := ⟨"\\w".toList, Text.isWord⟩

/-- The characters outside a set. -/
def complement (set : CharSet) : CharSet :=
  ⟨"[^".toList ++ set.written ++ "]".toList, fun c => !set.accepts c⟩

/-- The characters of two sets. -/
def union (a b : CharSet) : CharSet :=
  ⟨a.written ++ b.written, fun c => a.accepts c || b.accepts c⟩

/-- The characters from one to another. -/
def range (first last : Char) : CharSet :=
  ⟨escape first ++ '-' :: escape last, fun c => first ≤ c && c ≤ last⟩

/-- No character. -/
def none : CharSet := ⟨[], fun _ => false⟩

end CharSet

namespace Boundary

/-- The start of the text. -/
def textStart : Boundary := ⟨['^'], fun before _ => before == none⟩

/-- Whether just one of two neighbours is a word character. -/
def isWordEdge (before after : Option Char) : Bool :=
  before.any Text.isWord != after.any Text.isWord

/-- An edge of a word. -/
def wordEdge : Boundary := ⟨"\\b".toList, isWordEdge⟩

/-- No edge of a word. -/
def insideWord : Boundary := ⟨"\\B".toList, fun before after => !isWordEdge before after⟩

end Boundary

namespace Pattern

/-- A pattern a number of times over. -/
def times (p : Pattern) : Nat → Pattern
  | 0 => empty
  | n + 1 => seq p (times p n)

/-- A pattern at most a number of times over. -/
def atMost (preference : Preference) (p : Pattern) : Nat → Pattern
  | 0 => empty
  | n + 1 => optional preference (seq p (atMost preference p n))

/-- A pattern from `least` to `most` times, or any number of times from `least` on. -/
def bounded (preference : Preference) (p : Pattern) (least : Nat) : Option Nat → Pattern
  | none => seq (times p least) (star preference p)
  | some most => seq (times p least) (atMost preference p (most - least))

namespace Reader

/-- The controls that a backslash and a letter stand for. -/
def control? (c : Char) : Option Char :=
  match c with
  | 'n' => some '\n'
  | 't' => some '\t'
  | 'r' => some '\r'
  | 'f' => some '\x0c'
  | 'v' => some '\x0b'
  | 'a' => some '\x07'
  | _ => none

/-- The sets that a backslash and a letter stand for; the capital letter is the complement. -/
def letterSet? (c : Char) : Option CharSet :=
  match c with
  | 'd' => some .digit
  | 'D' => some CharSet.digit.complement
  | 'w' => some .word
  | 'W' => some CharSet.word.complement
  | 's' => some .space
  | 'S' => some CharSet.space.complement
  | _ => none

/-- The conditions that a backslash and a letter stand for. -/
def letterBoundary? (c : Char) : Option Boundary :=
  match c with
  | 'b' => some .wordEdge
  | 'B' => some .insideWord
  | 'A' => some .textStart
  | 'z' => some .textEnd
  | _ => none

/-- The value of a hexadecimal digit. -/
def hex? (c : Char) : Option Nat :=
  if '0' ≤ c ∧ c ≤ '9' then some (c.toNat - '0'.toNat)
  else if 'a' ≤ c ∧ c ≤ 'f' then some (c.toNat - 'a'.toNat + 10)
  else if 'A' ≤ c ∧ c ≤ 'F' then some (c.toNat - 'A'.toNat + 10)
  else none

/-- The character with a code point in hexadecimal digits. -/
def codePoint? (digits : Text) : Option Char :=
  if digits.isEmpty then none
  else
    match digits.mapM hex? with
    | none => none
    | some ds =>
      let n := ds.foldl (fun n d => n * 16 + d) 0
      if n < 0xd800 ∨ (0xdfff < n ∧ n < 0x110000) then some (Char.ofNat n) else none

/-- A code point of a fixed number of digits, or of any number between braces. -/
def hexEscape? (count : Nat) (t : Text) : Option (Char × Text) :=
  match t with
  | '\x7b' :: rest =>
    match rest.dropWhile (· != '\x7d') with
    | [] => none
    | _ :: after => (codePoint? (rest.takeWhile (· != '\x7d'))).map (·, after)
  | _ => if t.length < count then none else (codePoint? (t.take count)).map (·, t.drop count)

/-- Whether a character stands for itself after a backslash. -/
def isEscapable (c : Char) : Bool :=
  0x20 < c.toNat && c.toNat < 0x7f && !c.isAlphanum && c != '<' && c != '>'

/-- The single character that is written after a backslash. -/
def escapedChar? : Text → Option (Char × Text)
  | 'x' :: rest => hexEscape? 2 rest
  | 'u' :: rest => hexEscape? 4 rest
  | 'U' :: rest => hexEscape? 8 rest
  | c :: rest =>
    ((control? c).map (·, rest)).or (if isEscapable c then some (c, rest) else none)
  | [] => none

/-- A character of a class, written as itself or after a backslash. -/
def classChar? : Text → Option (Char × Text)
  | '\\' :: rest => escapedChar? rest
  | c :: rest => some (c, rest)
  | [] => none

/-- A range, or a single character. -/
def classRange? (t : Text) : Option (CharSet × Text) :=
  match classChar? t with
  | none => none
  | some (first, rest) =>
    match rest with
    | '-' :: more =>
      if more.head? = some ']' ∨ more.head? = some '-' then some (.only first, rest)
      else
        match classChar? more with
        | none => none
        | some (last, after) => if first ≤ last then some (.range first last, after) else none
    | _ => some (.only first, rest)

/-- An item of a class: a set after a backslash, or a range. -/
def classItem? (t : Text) : Option (CharSet × Text) :=
  match t with
  | '\\' :: c :: rest =>
    match letterSet? c with
    | some set => some (set, rest)
    | none => classRange? t
  | _ => classRange? t

/-- The items of a class up to its closing bracket; classes inside it nest at most `fuel` deep. -/
def classItems? : Nat → CharSet → Text → Option (CharSet × Text)
  | 0, _, _ => none
  | fuel + 1, set, t =>
    match t with
    | [] => none
    | ']' :: rest => some (set, rest)
    | '[' :: rest =>
      let (negated, rest) :=
        match rest with
        | '^' :: more => (true, more)
        | _ => (false, rest)
      match classItems? fuel .none rest with
      | none => none
      | some (inner, after) =>
        classItems? fuel (set.union (if negated then inner.complement else inner)) after
    | _ =>
      match classItem? t with
      | none => none
      | some (item, rest) => classItems? fuel (set.union item) rest

/-- A class after its opening bracket. A closing bracket at the beginning stands for itself. -/
def class? (t : Text) : Option (CharSet × Text) :=
  let (negated, t) :=
    match t with
    | '^' :: rest => (true, rest)
    | _ => (false, t)
  let (set, t) :=
    match t with
    | ']' :: rest => (CharSet.only ']', rest)
    | _ => (CharSet.none, t)
  (classItems? (t.length + 1) set t).map fun (set, rest) =>
    (if negated then set.complement else set, rest)

/-- The number at the beginning of a text. -/
def count? (t : Text) : Option (Nat × Text) :=
  match t.takeWhile Char.isDigit with
  | [] => none
  | ds => some (ds.foldl (fun n c => n * 10 + (c.toNat - '0'.toNat)) 0, t.dropWhile Char.isDigit)

/-- The bounds of a repetition after its opening brace. -/
def bounds? (t : Text) : Option ((Nat × Option Nat) × Text) :=
  match count? t with
  | none => none
  | some (least, rest) =>
    match rest with
    | '\x7d' :: after => some ((least, some least), after)
    | ',' :: '\x7d' :: after => some ((least, none), after)
    | ',' :: more =>
      match count? more with
      | some (most, '\x7d' :: after) =>
        if least ≤ most then some ((least, some most), after) else none
      | _ => none
    | _ => none

/-- The sign after a repetition that makes it prefer few rounds. -/
def preference : Text → Preference × Text
  | '?' :: rest => (.shortest, rest)
  | t => (.longest, t)

/-- The repetitions after a pattern. `fuel` bounds their number. -/
def repeated? : Nat → Pattern → Text → Option (Pattern × Text)
  | 0, p, t => some (p, t)
  | fuel + 1, p, t =>
    match t with
    | '*' :: rest =>
      let (order, rest) := preference rest
      repeated? fuel (star order p) rest
    | '+' :: rest =>
      let (order, rest) := preference rest
      repeated? fuel (seq p (star order p)) rest
    | '?' :: rest =>
      let (order, rest) := preference rest
      repeated? fuel (optional order p) rest
    | '\x7b' :: rest =>
      match bounds? rest with
      | none => none
      | some ((least, most), rest) =>
        let (order, rest) := preference rest
        repeated? fuel (bounded order p least most) rest
    | _ => some (p, t)

/-- What follows an opening parenthesis before the pattern inside: nothing, a mark for no name, or a
name. -/
def groupHead? : Text → Option Text
  | '?' :: ':' :: rest => some rest
  | '?' :: 'P' :: '<' :: rest | '?' :: '<' :: rest =>
    match rest.dropWhile (· != '>') with
    | [] => none
    | _ :: after => some after
  | '?' :: _ => none
  | t => some t

/-- A single pattern without its repetitions. -/
def atom? (choice? : Text → Option (Pattern × Text)) : Text → Option (Pattern × Text)
  | [] => none
  | c :: rest =>
    if c = '(' then
      match (groupHead? rest).bind choice? with
      | some (p, ')' :: after) => some (group none p, after)
      | _ => none
    else if c = '[' then (class? rest).map fun (set, after) => (one set, after)
    else if c = '.' then some (one .dot, rest)
    else if c = '^' then some (boundary .textStart, rest)
    else if c = '$' then some (boundary .textEnd, rest)
    else if c = '\\' then
      match rest with
      | [] => none
      | d :: after =>
        ((letterSet? d).map fun set => (one set, after)).or <|
          ((letterBoundary? d).map fun b => (boundary b, after)).or <|
            (escapedChar? rest).map fun (e, after) => (one (.only e), after)
    else if c = '*' ∨ c = '+' ∨ c = '?' ∨ c = '\x7b' then none
    else some (one (.only c), rest)

/-- Patterns one after another, up to a bar, a closing parenthesis or the end. `fuel` bounds their
number. -/
def sequence? (choice? : Text → Option (Pattern × Text)) : Nat → Text → Option (Pattern × Text)
  | 0, _ => none
  | fuel + 1, t =>
    if t.isEmpty ∨ t.head? = some '|' ∨ t.head? = some ')' then some (empty, t)
    else
      match atom? choice? t with
      | none => none
      | some (p, rest) =>
        match repeated? rest.length p rest with
        | none => none
        | some (p, rest) => (sequence? choice? fuel rest).map fun (q, after) => (seq p q, after)

/-- Alternatives with bars between them. `fuel` bounds their number. -/
def alternatives? (part? : Text → Option (Pattern × Text)) : Nat → Text → Option (Pattern × Text)
  | 0, _ => none
  | fuel + 1, t =>
    match part? t with
    | none => none
    | some (p, '|' :: rest) => (alternatives? part? fuel rest).map fun (q, after) => (alt p q, after)
    | found => found

/-- A pattern whose groups nest at most `fuel` deep. -/
def choice? : Nat → Text → Option (Pattern × Text)
  | 0, _ => none
  | fuel + 1, t =>
    alternatives? (fun t => sequence? (choice? fuel) (t.length + 1) t) (t.length + 1) t

end Reader

/-- The pattern that a whole text writes. -/
def parse? (t : Text) : Option Pattern :=
  match Reader.choice? (t.length + 1) t with
  | some (p, []) => some p
  | _ => none

end Pattern

end Stencil
