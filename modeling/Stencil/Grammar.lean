import Stencil.Delimiter
import Stencil.Pattern

/-!
# The grammar of tokens and blocks

What stands between two delimiters. The closing delimiter may be longer than a character, so the body
of a token is made of steps: some characters of the closing delimiter and then a character that is
not the next of them. A token is a body between its delimiters; a block is a body on lines of its
own, between an opening delimiter that ends its line and a closing one that may be indented.
-/

namespace Stencil

open Pattern

namespace Grammar

/-- The steps of a body: for each proper beginning of the closing delimiter, that beginning and one
character other than the next. -/
def steps : (beginning : Text) → (closing : Text) → List Pattern
  | _, [] => []
  | beginning, c :: rest =>
    sequence (beginning.map (fun b => one (.only b)) ++ [one (.except c)]) ::
      steps (beginning ++ [c]) rest

/-- One step of a body. -/
def step (closing : Text) : Pattern := group none (choice (steps [] closing))

/-- The body of a token: steps, as many as possible. -/
def body (closing : Text) : Pattern := star .longest (step closing)

/-- A token: a body, captured under a name, between its delimiters. -/
def inline (pair : Pair) (name : Text) : Pattern :=
  seq (literal pair.opening) (seq (group (some name) (body pair.closing)) (literal pair.closing))

/-- A line break, with or without a carriage return. -/
def lineBreak : Pattern :=
  seq (optional .longest (one .carriageReturn)) (one .lineFeed)

/-- White space across any number of lines. -/
def gap : Pattern := star .longest (one .space)

/-- A block: white space, the opening delimiter at the end of its line, as short a body as possible,
and the closing delimiter after a line break and white space. -/
def block (pair : Pair) (name : Text) : Pattern :=
  sequence
    [gap, literal pair.opening, lineBreak,
      group (some name) (star .shortest (step pair.closing)),
      lineBreak, gap, literal pair.closing]

end Grammar

end Stencil
