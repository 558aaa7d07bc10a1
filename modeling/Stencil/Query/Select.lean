import Stencil.Pattern.Reader
import Stencil.Query

/-!
# Selecting

What a query selects. Map entries are visited in the order of their keys. A deep segment applies its
selectors to a value and then, in the same way, to each child in turn. Numbers are compared as doubles
where they are compared themselves; inside lists and maps a whole number never equals a double.
-/

namespace Stencil

namespace Value

/-- The values directly inside a value. -/
def children : Value → List Value
  | .list items => items
  | .map entries => entries.map Prod.snd
  | _ => []

mutual

/-- A value and everything inside it, each value before what it holds. -/
def nodes : Value → List Value
  | .list items => .list items :: nodesOfItems items
  | .map entries => .map entries :: nodesOfEntries entries
  | v => [v]

/-- The values of list items and everything inside them. -/
def nodesOfItems : List Value → List Value
  | [] => []
  | v :: rest => nodes v ++ nodesOfItems rest

/-- The values of map entries and everything inside them. -/
def nodesOfEntries : List (Text × Value) → List Value
  | [] => []
  | (_, v) :: rest => nodes v ++ nodesOfEntries rest

end

/-- Whether two numbers are the same, kind included. -/
def sameNumber : Number → Number → Bool
  | .whole a, .whole b => a.value == b.value
  | .real a, .real b => a == b
  | _, _ => false

mutual

/-- Whether two values are the same, kinds of numbers included. -/
def same : Value → Value → Bool
  | .null, .null => true
  | .bool a, .bool b => a == b
  | .number a, .number b => sameNumber a b
  | .string a, .string b => a == b
  | .list a, .list b => sameItems a b
  | .map a, .map b => sameEntries a b
  | _, _ => false

/-- Whether two lists hold the same values. -/
def sameItems : List Value → List Value → Bool
  | [], [] => true
  | a :: as, b :: bs => same a b && sameItems as bs
  | _, _ => false

/-- Whether two maps hold the same entries. -/
def sameEntries : List (Text × Value) → List (Text × Value) → Bool
  | [], [] => true
  | (k, a) :: as, (l, b) :: bs => k == l && same a b && sameEntries as bs
  | _, _ => false

end

/-- Whether two values are of one kind. -/
def sameKind : Value → Value → Bool
  | .null, .null | .bool _, .bool _ | .number _, .number _ | .string _, .string _ | .list _, .list _
  | .map _, .map _ => true
  | _, _ => false

/-- Equality of compared values. -/
def equal : Value → Value → Bool
  | .number a, .number b => a.toFloat == b.toFloat
  | a, b => same a b

/-- The order of compared values: numbers by size, texts by code points, and no other. -/
def less : Value → Value → Bool
  | .number a, .number b => a.toFloat < b.toFloat
  | .string a, .string b => Text.before a b
  | _, _ => false

/-- The number of characters, items or entries. -/
def size? : Value → Option Nat
  | .string s => some s.length
  | .list items => some items.length
  | .map entries => some entries.length
  | _ => none

end Value

namespace Comparison

/-- Equality of terms: two terms without a value are equal. -/
def equalTerms : Option Value → Option Value → Bool
  | none, none => true
  | some a, some b => a.equal b
  | _, _ => false

/-- Whether two terms are of one kind: their values are, or neither has one. -/
def sameKindTerms : Option Value → Option Value → Bool
  | none, none => true
  | some a, some b => a.sameKind b
  | _, _ => false

/-- The order of terms: a term without a value comes neither before nor after another. -/
def lessTerms : Option Value → Option Value → Bool
  | some a, some b => a.less b
  | _, _ => false

/-- Whether a comparison holds. Of terms of one kind, one is greater unless it is less or equal. -/
def holds : Comparison → Option Value → Option Value → Bool
  | equal, a, b => equalTerms a b
  | notEqual, a, b => !equalTerms a b
  | less, a, b => lessTerms a b
  | lessOrEqual, a, b => lessTerms a b || equalTerms a b
  | greater, a, b => sameKindTerms a b && !lessTerms a b && !equalTerms a b
  | greaterOrEqual, a, b => sameKindTerms a b && !lessTerms a b

end Comparison

/-- The value one step further in; a place counts positions from the beginning only. -/
def Step.follow? (v : Value) : Step → Option Value
  | .key name => v.asMap?.bind (Dictionary.find? name)
  | .index i => if i < 0 then none else v.asList?.bind fun items => items[i.toNat]?

/-- The value at a place. -/
def Place.find? (p : Place) (current root : Value) : Option Value :=
  p.steps.foldl (fun v step => v.bind fun v => step.follow? v)
    (some (match p.anchor with | .root => root | .current => current))

namespace Selector

/-- The item of a list at a position, from the end where negative. -/
def item? (items : List Value) (i : Int) : Option Value :=
  if 0 ≤ i then items[i.toNat]?
  else if 0 ≤ items.length + i then items[(items.length + i).toNat]?
  else none

/-- A position counted from the beginning. -/
def fromStart (length i : Int) : Int := if 0 ≤ i then i else length + i

/-- The items at positions from `at` on, by a step, as long as they lie before or after `stop`. `fuel`
bounds their number. -/
def stepping (items : List Value) (step stop : Int) : Nat → Int → List Value
  | 0, _ => []
  | fuel + 1, position =>
    if (0 < step ∧ position < stop) ∨ (step < 0 ∧ stop < position) then
      (item? items position).toList ++ stepping items step stop fuel (position + step)
    else []

/-- The items of a slice: forwards from the greater of its start and the first item, backwards from the
lesser of its start and the last. -/
def sliced (items : List Value) (start stop step : Option Int) : List Value :=
  let length : Int := items.length
  let step := step.getD 1
  if 0 < step then
    let first := fromStart length (start.getD 0)
    let last := fromStart length (stop.getD length)
    stepping items step (min (max last 0) length) items.length (min (max first 0) length)
  else if step < 0 then
    let first := fromStart length (start.getD (length - 1))
    let last := fromStart length (stop.getD (-length - 1))
    stepping items step (min (max last (-1)) (length - 1)) items.length
      (min (max first (-1)) (length - 1))
  else []

end Selector

/-- Whether a text fits a pattern, as a whole or somewhere; not if either is no text or the pattern
cannot be read. -/
def fits (whole : Bool) : Option Value → Option Value → Bool
  | some (.string subject), some (.string pattern) =>
    let written :=
      if whole then "^(".toList ++ pattern ++ ")$".toList else "(".toList ++ pattern ++ ")".toList
    match Pattern.parse? written with
    | none => false
    | some p => p.occursIn subject
  | _, _ => false

mutual

/-- The values that a query selects, from the value at hand and the whole document. -/
def Query.select : Query → Value → Value → List Value
  | .mk .root segments, _, root => Segment.selectAll segments [root] root
  | .mk .current segments, current, root => Segment.selectAll segments [current] root

/-- Apply segments one after another. -/
def Segment.selectAll : List Segment → List Value → Value → List Value
  | [], values, _ => values
  | segment :: rest, values, root =>
    Segment.selectAll rest (values.flatMap fun v => Segment.select segment v root) root

/-- The values that a segment selects. -/
def Segment.select : Segment → Value → Value → List Value
  | .mk false selectors, v, root => Selector.selectAll selectors v root
  | .mk true selectors, v, root => v.nodes.flatMap fun node => Selector.selectAll selectors node root

/-- The values that the selectors of a segment select, in the order of the selectors. -/
def Selector.selectAll : List Selector → Value → Value → List Value
  | [], _, _ => []
  | selector :: rest, v, root =>
    Selector.select selector v root ++ Selector.selectAll rest v root

/-- The children that a selector selects. -/
def Selector.select : Selector → Value → Value → List Value
  | .key name, v, _ => (v.asMap?.bind (Dictionary.find? name)).toList
  | .all, v, _ => v.children
  | .index i, v, _ => (v.asList?.bind fun items => Selector.item? items i).toList
  | .slice start stop step, v, _ => Selector.sliced (v.asList?.getD []) start stop step
  | .filter condition, v, root => v.children.filter fun child => Condition.holds condition child root

/-- Whether a condition holds of a value. -/
def Condition.holds : Condition → Value → Value → Bool
  | .or a b, v, root => Condition.holds a v root || Condition.holds b v root
  | .and a b, v, root => Condition.holds a v root && Condition.holds b v root
  | .not a, v, root => !Condition.holds a v root
  | .compare how left right, v, root => how.holds (Term.value? left v root) (Term.value? right v root)
  | .found query, v, root => !(Query.select query v root).isEmpty
  | .fits whole subject pattern, v, root =>
    fits whole (Term.value? subject v root) (Term.value? pattern v root)

/-- The value of a term. -/
def Term.value? : Term → Value → Value → Option Value
  | .literal value, _, _ => some value
  | .place p, v, root => p.find? v root
  | .size term, v, root =>
    ((Term.value? term v root).bind Value.size?).bind fun n => Value.ofInt? n
  | .count query, v, root => Value.ofInt? (Query.select query v root).length
  | .countPlace p, v, root => Value.ofInt? (p.find? v root).toList.length
  | .sole query, v, root =>
    match Query.select query v root with
    | [value] => some value
    | _ => none

end

/-- The values that a query selects in a document. -/
def Query.run (query : Query) (document : Value) : List Value := query.select document document

end Stencil
