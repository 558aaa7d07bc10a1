import Stencil.Text

/-!
# Dictionaries

A dictionary binds names to values in the order of their names, one binding a name. Looking up
after `insert` gives the inserted value for its name and the old one for every other name. Names are
texts, but the operations do with any names that have an order.
-/

namespace Stencil

/-- Bindings in increasing order of their names. -/
abbrev Dictionary (α : Type) := List (Text × α)

namespace Dictionary

variable {κ α : Type} [DecidableEq κ]

/-- The value bound to a name. -/
def find? (name : κ) : List (κ × α) → Option α
  | [] => none
  | (key, value) :: rest => if key = name then some value else find? name rest

/-- Whether a name is bound. -/
def contains (name : κ) (d : List (κ × α)) : Bool := (find? name d).isSome

/-- Nothing is found in an empty dictionary. -/
@[simp] theorem find?_nil (name : κ) : find? name ([] : List (κ × α)) = none := rfl

variable [LT κ] [DecidableLT κ]

/-- Bind a name, in place of what it was bound to. -/
def insert (name : κ) (value : α) : List (κ × α) → List (κ × α)
  | [] => [(name, value)]
  | (key, old) :: rest =>
    if key = name then (name, value) :: rest
    else if key < name then (key, old) :: insert name value rest
    else (name, value) :: (key, old) :: rest

/-- Bind names one after another: the last binding of a name stays. -/
def insertAll (bindings d : List (κ × α)) : List (κ × α) :=
  bindings.foldl (fun d b => insert b.1 b.2 d) d

/-- The dictionary of a list of bindings. -/
def ofList (bindings : List (κ × α)) : List (κ × α) := insertAll bindings []

/-- The names, in order. -/
def keys (d : List (κ × α)) : List κ := d.map Prod.fst

/-- The bound values, in the order of their names. -/
def values (d : List (κ × α)) : List α := d.map Prod.snd

/-- A dictionary is ordered when its names strictly increase. -/
def Ordered (d : List (κ × α)) : Prop := (keys d).Pairwise (· < ·)

/-- A name is bound to what was inserted for it. -/
theorem find?_insert_self (name : κ) (value : α) (d : List (κ × α)) :
    find? name (insert name value d) = some value := by
  induction d with
  | nil => simp [insert, find?]
  | cons b rest ih =>
    obtain ⟨key, old⟩ := b
    by_cases h : key = name
    · simp [insert, find?, h]
    · by_cases hb : key < name <;> simp [insert, find?, h, hb, ih]

/-- Inserting leaves the other names as they were. -/
theorem find?_insert_of_ne {name other : κ} (value : α) (d : List (κ × α)) (h : other ≠ name) :
    find? other (insert name value d) = find? other d := by
  induction d with
  | nil => simp [insert, find?, Ne.symm h]
  | cons b rest ih =>
    obtain ⟨key, old⟩ := b
    by_cases hk : key = name
    · subst hk
      simp [insert, find?, Ne.symm h]
    · by_cases hb : key < name
      · simp [insert, find?, hk, hb, ih]
      · simp [insert, find?, hk, hb, Ne.symm h]

end Dictionary

end Stencil
