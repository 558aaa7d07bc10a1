import Stencil.Text

/-!
# Patterns

A pattern describes pieces of text by example characters, choice, repetition and named groups. It
is a value with a written form (`Pattern.written`), so the token and block grammars of a template
can be both shown and run.
-/

namespace Stencil

/-- A set of characters together with its written form. -/
structure CharSet where
  /-- How the set is written in a pattern. -/
  written : Text
  /-- Whether a character belongs to the set. -/
  accepts : Char → Bool

namespace CharSet

/-- The characters that stand for themselves only after a backslash. -/
def reserved : Text := "\\.+*?()|[]\x7b\x7d^$#&-~".toList

/-- Write a character so that it stands for itself. -/
def escape (c : Char) : Text := if c ∈ reserved then ['\\', c] else [c]

/-- Just one character. -/
def only (c : Char) : CharSet := ⟨escape c, (· == c)⟩

/-- Every character but one, line breaks included. -/
def except (c : Char) : CharSet := ⟨"[^".toList ++ escape c ++ "]".toList, (· != c)⟩

/-- White space. -/
def space : CharSet := ⟨"\\s".toList, Text.isSpace⟩

/-- A space or a tab. -/
def blank : CharSet := ⟨"[ \\t]".toList, fun c => c == ' ' || c == '\t'⟩

/-- The carriage return. -/
def carriageReturn : CharSet := ⟨"\\r".toList, (· == '\r')⟩

/-- The line feed. -/
def lineFeed : CharSet := ⟨"\\n".toList, (· == '\n')⟩

end CharSet

/-- A condition on the characters on both sides of a position; `none` is an end of the text. -/
structure Boundary where
  /-- How the condition is written in a pattern. -/
  written : Text
  /-- Whether it holds between these two characters. -/
  holds : Option Char → Option Char → Bool

namespace Boundary

/-- The start of the text, or just after a line feed. -/
def lineStart : Boundary := ⟨"^".toList, fun b _ => b == none || b == some '\n'⟩

/-- The end of the text. -/
def textEnd : Boundary := ⟨"$".toList, fun _ a => a == none⟩

end Boundary

/-- Whether a repetition prefers more rounds or fewer. -/
inductive Preference
  | longest
  | shortest
  deriving DecidableEq, Repr

/-- Patterns over characters. Where a pattern matches in several ways, the first alternative and the
preferred number of rounds come first. -/
inductive Pattern
  /-- Nothing at all. -/
  | empty
  /-- One character of a set. -/
  | one (set : CharSet)
  /-- One pattern and then another. -/
  | seq (first second : Pattern)
  /-- One pattern or, failing that, another. -/
  | alt (first second : Pattern)
  /-- A pattern once or not at all. -/
  | optional (preference : Preference) (body : Pattern)
  /-- A pattern any number of times. -/
  | star (preference : Preference) (body : Pattern)
  /-- A pattern in parentheses; under a name, the text it matches can be asked for. -/
  | group (name : Option Text) (body : Pattern)
  /-- A condition on the position, which takes no character. -/
  | boundary (condition : Boundary)

namespace Pattern

/-- The characters of a text, one after another. -/
def literal : Text → Pattern
  | [] => empty
  | [c] => one (.only c)
  | c :: rest => seq (one (.only c)) (literal rest)

/-- Patterns one after another. -/
def sequence : List Pattern → Pattern
  | [] => empty
  | [p] => p
  | p :: rest => seq p (sequence rest)

/-- The first of the patterns that matches. -/
def choice : List Pattern → Pattern
  | [] => empty
  | [p] => p
  | p :: rest => alt p (choice rest)

/-- The mark of a repetition that prefers few rounds. -/
def mark : Preference → Text
  | .longest => []
  | .shortest => ['?']

/-- The written form of a pattern. -/
def written : Pattern → Text
  | empty => []
  | one set => set.written
  | seq first second => written first ++ written second
  | alt first second => written first ++ '|' :: written second
  | optional preference body => written body ++ '?' :: mark preference
  | star preference body => written body ++ '*' :: mark preference
  | group none body => "(?:".toList ++ written body ++ ")".toList
  | group (some name) body => "(?P<".toList ++ name ++ ">".toList ++ written body ++ ")".toList
  | boundary condition => condition.written

end Pattern

end Stencil
