import Stencil.Value

/-!
# Queries

A query selects values inside a document step by step. Conditions compare terms, ask whether a query
finds anything, or look at text with a pattern. Terms and conditions are different types, so a query
cannot compare a condition or test a number.
-/

namespace Stencil

/-- How two terms are compared. -/
inductive Comparison
  | equal
  | notEqual
  | less
  | lessOrEqual
  | greater
  | greaterOrEqual
  deriving DecidableEq, Repr

/-- A step that leads to one value at most. -/
inductive Step
  /-- The entry of a map. -/
  | key (name : Text)
  /-- The item of a list, by its position. -/
  | index (i : Int)
  deriving DecidableEq, Repr

/-- Where a query begins. -/
inductive Anchor
  /-- At the whole document. -/
  | root
  /-- At the value that a condition is about. -/
  | current
  deriving DecidableEq, Repr

/-- A path to one value at most. -/
structure Place where
  /-- Where it begins. -/
  anchor : Anchor
  /-- The steps from there. -/
  steps : List Step
  deriving DecidableEq, Repr

mutual

/-- A query: where it begins, and the segments from there. -/
inductive Query
  | mk (anchor : Anchor) (segments : List Segment)

/-- A segment applies its selectors to a value, or to a value and everything inside it. -/
inductive Segment
  | mk (deep : Bool) (selectors : List Selector)

/-- A selector chooses among the children of a value. -/
inductive Selector
  /-- The entry of that key. -/
  | key (name : Text)
  /-- All children. -/
  | all
  /-- The item at that position, from the end where negative. -/
  | index (i : Int)
  /-- Items from a position to before another, by a step. -/
  | slice (start stop step : Option Int)
  /-- The children for which a condition holds. -/
  | filter (condition : Condition)

/-- A condition on a value. -/
inductive Condition
  | or (a b : Condition)
  | and (a b : Condition)
  | not (a : Condition)
  | compare (how : Comparison) (left right : Term)
  /-- The query finds something. -/
  | found (query : Query)
  /-- A text matches a pattern as a whole, or somewhere. -/
  | fits (whole : Bool) (subject pattern : Term)

/-- A term stands for one value or for none. -/
inductive Term
  | literal (v : Value)
  | place (p : Place)
  /-- The number of characters, items or entries. -/
  | size (of : Term)
  /-- The number of values that a query finds. -/
  | count (query : Query)
  /-- The number of values at a place: one or none. -/
  | countPlace (p : Place)
  /-- The value that a query finds, if it finds just one. -/
  | sole (query : Query)

end

instance : Inhabited Query := ⟨.mk .root []⟩

end Stencil
