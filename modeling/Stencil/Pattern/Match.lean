import Stencil.Pattern

/-!
# Matching

Where and how a pattern matches. A match is looked for from left to right; at one position the first
alternative that lets the whole pattern match wins. `Pattern.run` tries the alternatives in order and
hands each end it reaches to the rest of the work, which accepts it or asks for the next.
-/

namespace Stencil

/-- The text that a named group matched: a number of characters counted from where it began. -/
structure Captured where
  /-- The name of the group. -/
  name : Text
  /-- The text from the start of the group on. -/
  source : Text
  /-- How many characters of it the group took. -/
  size : Nat
  deriving Repr

/-- The captured text. -/
def Captured.text (c : Captured) : Text := c.source.take c.size

/-- A place in a text on the way of a match. -/
structure Cursor where
  /-- The number of characters before the place. -/
  position : Nat
  /-- The last character before the place. -/
  previous : Option Char
  /-- The text after the place. -/
  rest : Text
  /-- What the groups closed so far have matched, the latest first. -/
  captured : List Captured
  deriving Repr

namespace Cursor

/-- The beginning of a text. -/
def start (t : Text) : Cursor := ⟨0, none, t, []⟩

/-- Step over a character that is the first of the rest. -/
def step (cursor : Cursor) (c : Char) (rest : Text) : Cursor :=
  { cursor with position := cursor.position + 1, previous := some c, rest := rest }

/-- Note what a group matched between two places. -/
def capture (name : Text) (opened closed : Cursor) : Cursor :=
  { closed with
    captured := ⟨name, opened.rest, closed.position - opened.position⟩ :: closed.captured }

end Cursor

namespace Pattern

/-- Repeat a step while that helps: one more round before the continuation. A round that takes no
character ends the repetition. `fuel` bounds the rounds. -/
def runLongest (round : Cursor → (Cursor → Option Cursor) → Option Cursor) :
    Nat → Cursor → (Cursor → Option Cursor) → Option Cursor
  | 0, cursor, next => next cursor
  | fuel + 1, cursor, next =>
    (round cursor fun later =>
      if cursor.position < later.position then runLongest round fuel later next else none).or
        (next cursor)

/-- Repeat a step while that is needed: the continuation before one more round. -/
def runShortest (round : Cursor → (Cursor → Option Cursor) → Option Cursor) :
    Nat → Cursor → (Cursor → Option Cursor) → Option Cursor
  | 0, cursor, next => next cursor
  | fuel + 1, cursor, next =>
    (next cursor).or <|
      round cursor fun later =>
        if cursor.position < later.position then runShortest round fuel later next else none

/-- Match a pattern at a place and go on with `next`; the first way in which `next` succeeds. -/
def run : Pattern → Cursor → (Cursor → Option Cursor) → Option Cursor
  | empty, cursor, next => next cursor
  | one set, cursor, next =>
    match cursor.rest with
    | [] => none
    | c :: rest => if set.accepts c then next (cursor.step c rest) else none
  | seq first second, cursor, next => run first cursor fun later => run second later next
  | alt first second, cursor, next => (run first cursor next).or (run second cursor next)
  | optional .longest body, cursor, next => (run body cursor next).or (next cursor)
  | optional .shortest body, cursor, next => (next cursor).or (run body cursor next)
  | star .longest body, cursor, next => runLongest (run body) cursor.rest.length cursor next
  | star .shortest body, cursor, next => runShortest (run body) cursor.rest.length cursor next
  | group none body, cursor, next => run body cursor next
  | group (some name) body, cursor, next =>
    run body cursor fun closed => next (Cursor.capture name cursor closed)
  | boundary condition, cursor, next =>
    if condition.holds cursor.previous cursor.rest.head? then next cursor else none

/-- The preferred way a pattern matches at a place. -/
def matchAt? (p : Pattern) (cursor : Cursor) : Option Cursor := run p cursor some

end Pattern

/-- A piece of text that a pattern matched. -/
structure Match where
  /-- The position of its first character. -/
  start : Nat
  /-- The position just after its last character. -/
  stop : Nat
  /-- What the named groups matched. -/
  captured : List Captured
  deriving Repr

namespace Match

/-- What a named group matched, where it took part. -/
def group? (m : Match) (name : Text) : Option Text :=
  (m.captured.find? fun c => c.name = name).map Captured.text

/-- What a named group matched, or nothing. -/
def group (m : Match) (name : Text) : Text := (m.group? name).getD []

/-- A match may follow one that ended at `last` if it begins there or later, and an empty one only
later. -/
def mayFollow (m : Match) : Option Nat → Bool
  | none => true
  | some last => last ≤ m.start && !(m.start == m.stop && m.stop == last)

end Match

namespace Pattern

/-- The match at a place after one that ended at `last`. -/
def matchAfter? (p : Pattern) (last : Option Nat) (cursor : Cursor) : Option Match :=
  if last.all (· ≤ cursor.position) then
    match p.matchAt? { cursor with captured := [] } with
    | none => none
    | some later =>
      let found : Match := ⟨cursor.position, later.position, later.captured⟩
      if found.mayFollow last then some found else none
  else none

/-- The matches from a place on: at each position the preferred one, unless the position lies inside
the match before it. -/
def matchesFrom (p : Pattern) (last : Option Nat) (position : Nat) (previous : Option Char) :
    Text → List Match
  | [] => (p.matchAfter? last ⟨position, previous, [], []⟩).toList
  | c :: rest =>
    match p.matchAfter? last ⟨position, previous, c :: rest, []⟩ with
    | none => matchesFrom p last (position + 1) (some c) rest
    | some found => found :: matchesFrom p (some found.stop) (position + 1) (some c) rest

/-- All matches in a text, from left to right without overlap. -/
def occurrences (p : Pattern) (t : Text) : List Match := matchesFrom p none 0 none t

/-- Whether a pattern matches somewhere in a text. -/
def occursIn (p : Pattern) (t : Text) : Bool := !(p.occurrences t).isEmpty

end Pattern

end Stencil
