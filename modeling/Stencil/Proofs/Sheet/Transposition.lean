import Mathlib.Data.List.Basic
import Mathlib.Data.List.Forall2
import Mathlib.Data.List.Induction
import Mathlib.Data.Nat.PSub
import Stencil.Proofs.Dictionary
import Stencil.Source

/-!
# Transposition

Each column of a sheet but the key column becomes a record. Read column by column, a record has the
fields that the rows enter into it, the last row of a name counting. Read row by row, each cell goes
to the place of its column among the records, where the columns behind the key column move up by one.
Both give the same records, whatever the lengths of the rows are: no cell goes astray, and no place is
below zero.
-/

namespace Stencil

namespace Sheet

open Dictionary

variable {rows : List (List Text)} {row : List Text} {key column : Nat} {name cell : Text}
  {value : Value} {record : Variables} {records : List Variables}

/-! ## Columns -/

/-- A row names a field and has a cell for a column. -/
def Enters (key column : Nat) (row : List Text) (name cell : Text) : Prop :=
  name ≠ [] ∧ row[key]? = some name ∧ row[column]? = some cell

/-- The last row that enters anything under a name into a column enters a text. -/
def Gives (rows : List (List Text)) (key column : Nat) (name cell : Text) : Prop :=
  ∃ before row after, rows = before ++ row :: after ∧ Enters key column row name cell ∧
    ∀ later ∈ after, ∀ other, ¬ Enters key column later name other

/-- A row enters one cell under a name. -/
theorem Enters.unique {other : Text} (h : Enters key column row name cell)
    (h' : Enters key column row name other) : cell = other :=
  Option.some.inj (h.2.2.symm.trans h'.2.2)

/-- A row either enters a text under a name, or leaves what was there. -/
theorem find?_enter (h : Enters key column row name cell) (record : Variables) :
    find? name (enter key column record row) = some (.string cell) := by
  obtain ⟨hname, hkey, hcolumn⟩ := h
  simp only [enter, hkey, hcolumn, List.isEmpty_iff, hname, ite_false]
  exact find?_insert_self name _ record

/-- A row leaves the names alone that it does not enter a cell under. -/
theorem find?_enter_of_not (h : ∀ cell, ¬ Enters key column row name cell) (record : Variables) :
    find? name (enter key column record row) = find? name record := by
  simp only [enter]
  split
  · next entered cell hkey hcolumn =>
    split
    · rfl
    · next hname =>
      refine find?_insert_of_ne _ record ?_
      rintro rfl
      exact h cell ⟨by simpa using hname, hkey, hcolumn⟩
  · rfl

/-- A record stays in order when a row is entered. -/
theorem ordered_enter (h : Ordered record) (row : List Text) :
    Ordered (enter key column record row) := by
  simp only [enter]
  split
  · split
    · exact h
    · exact h.insert _ _
  · exact h

/-- The last row is entered last. -/
theorem record_append (rows : List (List Text)) (row : List Text) (key column : Nat) :
    Sheet.record (rows ++ [row]) key column =
      enter key column (Sheet.record rows key column) row := by
  rw [Sheet.record, List.foldl_append, List.foldl_cons, List.foldl_nil, ← Sheet.record]

/-- The last row gives what it enters, and leaves to the rows before it what it does not. -/
theorem gives_append : Gives (rows ++ [row]) key column name cell ↔
    Enters key column row name cell ∨
      (∀ other, ¬ Enters key column row name other) ∧ Gives rows key column name cell := by
  constructor
  · rintro ⟨before, entering, after, hrows, henters, hlater⟩
    rcases List.eq_nil_or_concat' after with rfl | ⟨after, last, rfl⟩
    · obtain ⟨_, hlast⟩ := List.append_inj' hrows rfl
      obtain rfl : row = entering := List.head_eq_of_cons_eq hlast
      exact .inl henters
    · rw [← List.cons_append, ← List.append_assoc] at hrows
      obtain ⟨rfl, hlast⟩ := List.append_inj' hrows rfl
      obtain rfl : row = last := List.head_eq_of_cons_eq hlast
      exact .inr ⟨hlater row (by simp), before, entering, after, rfl, henters,
        fun later hmem => hlater later (by simp [hmem])⟩
  · rintro (henters | ⟨hnot, before, entering, after, rfl, henters, hlater⟩)
    · exact ⟨rows, row, [], rfl, henters, by simp⟩
    · refine ⟨before, entering, after ++ [row], by simp, henters, ?_⟩
      intro later hmem
      rcases List.mem_append.mp hmem with hmem | hmem
      · exact hlater later hmem
      · rw [List.mem_singleton.mp hmem]
        exact hnot

/-- A record holds what the rows give its column, and nothing else. -/
theorem find?_record_eq_some_iff : find? name (Sheet.record rows key column) = some value ↔
    ∃ cell, value = .string cell ∧ Gives rows key column name cell := by
  induction rows using List.reverseRecOn with
  | nil => simp [Sheet.record, Gives]
  | append_singleton rows row ih =>
    rw [record_append]
    by_cases h : ∃ cell, Enters key column row name cell
    · obtain ⟨cell, hcell⟩ := h
      rw [find?_enter hcell, Option.some.injEq]
      constructor
      · rintro rfl
        exact ⟨cell, rfl, gives_append.mpr (.inl hcell)⟩
      · rintro ⟨other, rfl, hgives⟩
        rcases gives_append.mp hgives with henters | ⟨hnot, _⟩
        · rw [hcell.unique henters]
        · exact absurd hcell (hnot cell)
    · have hnot : ∀ cell, ¬ Enters key column row name cell := fun cell hcell => h ⟨cell, hcell⟩
      rw [find?_enter_of_not hnot, ih]
      refine exists_congr fun cell => and_congr_right fun _ => ?_
      rw [gives_append, or_iff_right (hnot cell), and_iff_right hnot]

/-- Records are in order. -/
theorem ordered_record (rows : List (List Text)) (key column : Nat) :
    Ordered (Sheet.record rows key column) := by
  induction rows using List.reverseRecOn with
  | nil => exact List.Pairwise.nil
  | append_singleton rows row ih =>
    rw [record_append]
    exact ordered_enter ih row

/-! ## Rows -/

/-- The column whose record stands at a place: the columns behind the key column move up by one. -/
def columnAt (key place : Nat) : Nat := if place < key then place else place + 1

/-- The place of the record of a column; none where moving up would go below zero. -/
def place? (key column : Nat) : Option Nat := if column < key then some column else column.ppred

/-- The key column has no record. -/
theorem columnAt_ne (key place : Nat) : columnAt key place ≠ key := by
  unfold columnAt
  split <;> omega

/-- Records at different places are different columns. -/
theorem columnAt_inj {place other : Nat} : columnAt key place = columnAt key other ↔ place = other := by
  unfold columnAt
  split <;> split <;> omega

/-- Each column but the key column has a place. -/
theorem exists_place? (h : column ≠ key) :
    ∃ place, place? key column = some place ∧ columnAt key place = column := by
  unfold place? columnAt
  by_cases hless : column < key
  · exact ⟨column, if_pos hless, if_pos hless⟩
  · refine ⟨column - 1, ?_, ?_⟩
    · rw [if_neg hless, Nat.ppred_eq_some]
      omega
    · rw [if_neg (by omega)]
      omega

/-- The columns but the key column, from the left. -/
theorem filter_range_ne {width : Nat} (h : key < width) :
    (List.range width).filter (· ≠ key) = (List.range (width - 1)).map (columnAt key) := by
  induction width with
  | zero => omega
  | succ width ih =>
    rw [List.range_succ, List.filter_append, Nat.add_sub_cancel]
    by_cases hkey : key = width
    · have hall : (List.range width).filter (· ≠ key) = List.range width := by
        refine List.filter_eq_self.mpr fun column hcolumn => ?_
        have hless := List.mem_range.mp hcolumn
        exact decide_eq_true (by omega)
      have hsame : (List.range width).map (columnAt key) = List.range width := by
        refine (List.map_congr_left fun place hplace => ?_).trans (List.map_id _)
        exact if_pos (hkey ▸ List.mem_range.mp hplace)
      rw [hall, hsame, List.filter_cons_of_neg (by simp [hkey]), List.filter_nil, List.append_nil]
    · obtain ⟨width, rfl⟩ : ∃ n, width = n + 1 := ⟨width - 1, by omega⟩
      have hlast : columnAt key width = width + 1 := if_neg (by omega)
      rw [ih (by omega), List.filter_cons_of_pos (by simpa using Ne.symm hkey), List.filter_nil,
        Nat.add_sub_cancel, List.range_succ, List.map_append, List.map_singleton, hlast]

/-- Enter a cell into the record of its column, if the column has one. -/
def enterCell (key : Nat) (name : Text) (records : List Variables) (cell : Text × Nat) :
    Option (List Variables) :=
  if cell.2 = key then some records
  else (place? key cell.2).map fun place =>
    records.modify place (Dictionary.insert name (.string cell.1))

/-- Enter the cells of a row from the left, if its key cell is there and not empty. -/
def enterRow (key : Nat) (records : List Variables) (row : List Text) : Option (List Variables) :=
  match row[key]? with
  | some name =>
    if name.isEmpty then some records else row.zipIdx.foldlM (enterCell key name) records
  | none => some records

/-- The records of a sheet whose header has some number of columns, filled row by row; none where an
index would go below zero. -/
def fill (rows : List (List Text)) (key width : Nat) : Option (List Variables) := do
  let count ← width.ppred
  rows.foldlM (enterRow key) (List.replicate count [])

private theorem getElem?_concat_of_ne {i : Nat} (h : row.length ≠ i) :
    (row ++ [cell])[i]? = row[i]? := by
  rcases Nat.lt_or_gt_of_ne h with hless | hless
  · rw [List.getElem?_eq_none (Nat.le_of_lt hless), List.getElem?_eq_none]
    rw [List.length_append, List.length_singleton]
    exact hless
  · exact List.getElem?_append_left hless

private theorem foldlM_enterCell (key : Nat) (name : Text) (row : List Text)
    (records : List Variables) :
    ∃ entered, row.zipIdx.foldlM (enterCell key name) records = some entered ∧
      ∀ place, entered[place]? = records[place]?.map fun record =>
        match row[columnAt key place]? with
        | some cell => Dictionary.insert name (.string cell) record
        | none => record := by
  -- From the right: the column of the last cell is the length of the row before it.
  induction row using List.reverseRecOn with
  | nil => exact ⟨records, rfl, by simp⟩
  | append_singleton row cell ih =>
    obtain ⟨entered, hentered, hplaces⟩ := ih
    rw [List.zipIdx_append, List.foldlM_append, hentered, List.zipIdx_singleton, Nat.zero_add]
    by_cases hkey : row.length = key
    · refine ⟨entered, by simp [enterCell, hkey], fun place => ?_⟩
      have hne : row.length ≠ columnAt key place := by
        rw [hkey]
        exact (columnAt_ne key place).symm
      rw [hplaces, getElem?_concat_of_ne hne]
    · obtain ⟨last, hlast, hcolumn⟩ := exists_place? hkey
      refine ⟨entered.modify last (Dictionary.insert name (.string cell)),
        by simp [enterCell, hkey, hlast], fun place => ?_⟩
      by_cases hplace : last = place
      · subst hplace
        have hnone : row[columnAt key last]? = none :=
          List.getElem?_eq_none (Nat.le_of_eq hcolumn.symm)
        have hcell : (row ++ [cell])[columnAt key last]? = some cell := by
          rw [hcolumn, List.getElem?_concat_length]
        rw [List.getElem?_modify_eq, hplaces, hnone, hcell]
        simp
      · have hne : row.length ≠ columnAt key place :=
          fun heq => hplace (columnAt_inj.mp (hcolumn.trans heq))
        rw [List.getElem?_modify_ne _ _ hplace, hplaces, getElem?_concat_of_ne hne]

/-- A row enters into the record of each column what it has for the column. -/
theorem enterRow_eq_some (key : Nat) (records : List Variables) (row : List Text) :
    ∃ entered, enterRow key records row = some entered ∧
      ∀ place, entered[place]? =
        records[place]?.map fun record => enter key (columnAt key place) record row := by
  cases hkey : row[key]? with
  | none => exact ⟨records, by simp [enterRow, hkey], by simp [enter, hkey]⟩
  | some name =>
    by_cases hname : name.isEmpty = true
    · refine ⟨records, by simp [enterRow, hkey, hname], fun place => ?_⟩
      cases hcell : row[columnAt key place]? <;> simp [enter, hkey, hname, hcell]
    · obtain ⟨entered, hentered, hplaces⟩ := foldlM_enterCell key name row records
      refine ⟨entered, by simp [enterRow, hkey, hname, hentered], fun place => ?_⟩
      rw [hplaces]
      cases hcell : row[columnAt key place]? <;> simp [enter, hkey, hname, hcell]

/-- The rows of a sheet fill the record of each column by themselves. -/
theorem foldlM_enterRow (key : Nat) (rows : List (List Text)) (records : List Variables) :
    ∃ filled, rows.foldlM (enterRow key) records = some filled ∧
      ∀ place, filled[place]? =
        records[place]?.map fun record => rows.foldl (enter key (columnAt key place)) record := by
  induction rows generalizing records with
  | nil => exact ⟨records, rfl, by simp⟩
  | cons row rows ih =>
    obtain ⟨entered, hentered, hrow⟩ := enterRow_eq_some key records row
    obtain ⟨filled, hfilled, hrows⟩ := ih entered
    refine ⟨filled, by simp [hentered, hfilled], fun place => ?_⟩
    rw [hrows, hrow, Option.map_map]
    rfl

/-- Row by row and column by column a sheet is filled alike. -/
theorem fill_eq {width : Nat} (h : key < width) (rows : List (List Text)) :
    fill rows key width =
      some (((List.range width).filter (· ≠ key)).map (Sheet.record rows key)) := by
  have hcount : width.ppred = some (width - 1) := by
    rw [Nat.ppred_eq_some]
    omega
  obtain ⟨filled, hfilled, hplaces⟩ :=
    foldlM_enterRow key rows (List.replicate (width - 1) [])
  rw [fill, hcount, Option.bind_eq_bind, Option.bind_some, hfilled, Option.some.injEq]
  apply List.ext_getElem?
  intro place
  rw [hplaces, filter_range_ne h, List.map_map, List.getElem?_map]
  by_cases hplace : place < width - 1
  · rw [List.getElem?_replicate_of_lt hplace, List.getElem?_range hplace]
    rfl
  · simp [hplace]

/-! ## Sheets -/

/-- A record of a column holds what the rows give the column, and nothing else. -/
structure IsRecord (rows : List (List Text)) (key column : Nat) (record : Variables) : Prop where
  /-- No name is bound twice. -/
  ordered : Ordered record
  /-- A name is bound to the text that the last row of that name enters. -/
  find?_eq_some_iff : ∀ name value, find? name record = some value ↔
    ∃ cell, value = .string cell ∧ Gives rows key column name cell

/-- Records are those of a sheet with a key column. -/
structure Transposed (s : Sheet) (key : Nat) (records : List Variables) : Prop where
  /-- There is one record less than there are columns. -/
  length_eq : records.length + 1 = s.header.length
  /-- The records are those of the columns but the key column, from the left. -/
  columns : List.Forall₂ (IsRecord s.rows key)
    ((List.range s.header.length).filter (· ≠ key)) records
  /-- They come about row by row, where no index goes below zero. -/
  filled : fill s.rows key s.header.length = some records

/-- The record of a column holds what the rows give. -/
theorem isRecord_record (rows : List (List Text)) (key column : Nat) :
    IsRecord rows key column (Sheet.record rows key column) :=
  ⟨ordered_record rows key column, fun _ _ => find?_record_eq_some_iff⟩

/-- The records of a sheet with a key column are its transposition. -/
theorem transposed_of_lt {s : Sheet} (h : key < s.header.length) :
    s.Transposed key
      (((List.range s.header.length).filter (· ≠ key)).map (Sheet.record s.rows key)) where
  length_eq := by
    rw [filter_range_ne h, List.length_map, List.length_map, List.length_range]
    omega
  columns := by
    rw [List.forall₂_map_right_iff, List.forall₂_same]
    exact fun column _ => isRecord_record s.rows key column
  filled := fill_eq h s.rows

end Sheet

/-- A sheet has a document exactly if it has a key column. The first column of the name counts; the
document is the list of the records of the others. -/
theorem Source.ofSheet_transposed (s : Sheet) (keyColumn : Text) :
    (ofSheet s keyColumn = .error (.noKeyColumn keyColumn) ↔ keyColumn ∉ s.header) ∧
    (keyColumn ∈ s.header → ∃ key records,
      s.header[key]? = some keyColumn ∧ (∀ before < key, s.header[before]? ≠ some keyColumn) ∧
      ofSheet s keyColumn = .ok (.list (records.map .map)) ∧ s.Transposed key records) := by
  unfold ofSheet Sheet.records?
  cases hkey : s.header.idxOf? keyColumn with
  | none =>
    have hnot : keyColumn ∉ s.header := List.idxOf?_eq_none_iff.mp hkey
    exact ⟨iff_of_true rfl hnot, fun h => absurd h hnot⟩
  | some key =>
    obtain ⟨hlength, heq, hbefore⟩ := List.idxOf?_eq_some_iff.mp hkey
    have hmem : keyColumn ∈ s.header := heq ▸ List.getElem_mem hlength
    refine ⟨by simpa using hmem, fun _ => ⟨key, _, ?_, ?_, rfl, Sheet.transposed_of_lt hlength⟩⟩
    · rw [List.getElem?_eq_getElem hlength, heq]
    · intro before hless hsome
      obtain ⟨_, hcell⟩ := List.getElem?_eq_some_iff.mp hsome
      exact hbefore before hless hcell

/-- A sheet with two columns of the key column's name. Its second row is shorter than the first and
has the same key, one row has no key cell, one has an empty one, and one reaches beyond the header. -/
def raggedSheet : Sheet :=
  ⟨["a".toList, "key".toList, "b".toList, "key".toList],
    [["1".toList, "x".toList, "2".toList, "3".toList], ["4".toList, "x".toList], ["5".toList],
      ["6".toList, [], "7".toList],
      ["8".toList, "y".toList, "9".toList, "10".toList, "11".toList]]⟩

/-- The short row overwrites the first record alone. -/
theorem Source.ofSheet_transposed_raggedSheet :
    "key".toList ∈ raggedSheet.header ∧
      ∃ records, raggedSheet.Transposed 1 records ∧ records =
        [[("x".toList, .string "4".toList), ("y".toList, .string "8".toList)],
          [("x".toList, .string "2".toList), ("y".toList, .string "9".toList)],
          [("x".toList, .string "3".toList), ("y".toList, .string "10".toList)]] := by
  have hmem : "key".toList ∈ raggedSheet.header := by decide
  refine ⟨hmem, ?_⟩
  obtain ⟨key, records, hkey, hbefore, _, htransposed⟩ :=
    (ofSheet_transposed raggedSheet "key".toList).2 hmem
  obtain rfl : key = 1 := by
    rcases Nat.lt_trichotomy key 1 with hless | heq | hless
    · obtain rfl := Nat.lt_one_iff.mp hless
      exact absurd hkey (by decide)
    · exact heq
    · exact absurd (by decide) (hbefore 1 hless)
  refine ⟨records, htransposed, ?_⟩
  exact (Option.some.inj htransposed.filled).symm.trans (by rfl)

end Stencil
