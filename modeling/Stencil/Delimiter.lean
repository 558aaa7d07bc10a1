import Stencil.Text

/-!
# Delimiters

A template is written with three pairs of delimiters: around variable tokens, around the tags that
open a loop and name its joiner, and around the body of a loop. Any text without a line break can be
a delimiter; the two loop pairs must differ, or a joiner could not be told from a body.
-/

namespace Stencil

/-- An opening and a closing delimiter. -/
structure Pair where
  /-- The text that opens. -/
  opening : Text
  /-- The text that closes. -/
  closing : Text
  deriving DecidableEq, Repr

/-- A name between the delimiters of a pair. -/
def Pair.wrap (p : Pair) (name : Text) : Text := p.opening ++ name ++ p.closing

/-- What a pair of delimiters marks. -/
inductive Role
  /-- A variable token. -/
  | token
  /-- The name of a loop, or its joiner. -/
  | tag
  /-- The body of a loop. -/
  | body
  deriving DecidableEq, Repr

/-- The two ends of a pair. -/
inductive Side
  | opening
  | closing
  deriving DecidableEq, Repr

/-- Why a pair cannot be used. -/
inductive PairFault
  /-- A delimiter holds no character. -/
  | empty (side : Side)
  /-- A delimiter holds a line break. -/
  | lineBreak (side : Side) (delimiter : Text)
  /-- The body pair is the tag pair. -/
  | sameAsTags
  deriving DecidableEq, Repr

/-- The three pairs a template is written with. -/
structure Delimiters where
  /-- Around variable tokens. -/
  token : Pair := ⟨"\x7b\x7b".toList, "\x7d\x7d".toList⟩
  /-- Around loop names and joiners. -/
  tag : Pair := ⟨"(".toList, ")".toList⟩
  /-- Around loop bodies. -/
  body : Pair := ⟨"[".toList, "]".toList⟩
  deriving DecidableEq, Repr

namespace Delimiters

/-- The pairs used where nothing else is said. -/
def standard : Delimiters := {}

/-- A pair with its empty delimiters filled in from another. -/
def fill (given standard : Pair) : Pair :=
  ⟨if given.opening.isEmpty then standard.opening else given.opening,
    if given.closing.isEmpty then standard.closing else given.closing⟩

/-- The given pairs, with the standard delimiter in place of each empty one. -/
def ofPairs (token tag body : Pair) : Delimiters :=
  ⟨fill token standard.token, fill tag standard.tag, fill body standard.body⟩

/-- Line feed and carriage return, the characters no delimiter may hold. -/
def isLineBreak (c : Char) : Bool := c == '\n' || c == '\r'

/-- What is wrong with one delimiter. -/
def sideFault? (side : Side) (delimiter : Text) : Option PairFault :=
  if delimiter.isEmpty then some (.empty side)
  else if delimiter.any isLineBreak then some (.lineBreak side delimiter)
  else none

/-- What is wrong with a pair, its opening side first. -/
def pairFault? (p : Pair) : Option PairFault :=
  (sideFault? .opening p.opening).or (sideFault? .closing p.closing)

/-- The first thing wrong with the three pairs, and where. -/
def fault? (d : Delimiters) : Option (Role × PairFault) :=
  ((pairFault? d.token).map (Role.token, ·)).or <|
    ((pairFault? d.tag).map (Role.tag, ·)).or <|
      ((pairFault? d.body).map (Role.body, ·)).or <|
        if d.tag = d.body then some (.body, .sameAsTags) else none

/-- Delimiters are usable when nothing is wrong with them. -/
def Usable (d : Delimiters) : Prop := d.fault? = none

end Delimiters

end Stencil
