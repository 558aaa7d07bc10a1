import Mathlib.Data.List.GetD
import Stencil.Json

/-!
# Control characters

Printed values hold no control character: inside strings they are escaped, and everything else is
written with digits, letters and signs. So a list stays on one line, whatever texts are in it.
-/

namespace Stencil

namespace Text

/-- No character of the text lies before the space. -/
def ControlFree (t : Text) : Prop := ∀ c ∈ t, 0x20 ≤ c.toNat

instance (t : Text) : Decidable (ControlFree t) :=
  List.decidableBAll (fun c : Char => 0x20 ≤ c.toNat) t

namespace ControlFree

variable {s t : Text} {c : Char}

/-- Text without controls is on one line. -/
theorem lineFeed_notMem (h : ControlFree t) : '\n' ∉ t :=
  fun hm => absurd (h _ hm) (by decide)

/-- Two texts without controls make one. -/
theorem append (hs : ControlFree s) (ht : ControlFree t) : ControlFree (s ++ t) :=
  List.forall_mem_append.mpr ⟨hs, ht⟩

/-- A character that is no control may stand in front. -/
theorem cons (hc : 0x20 ≤ c.toNat) (ht : ControlFree t) : ControlFree (c :: t) :=
  List.forall_mem_cons.mpr ⟨hc, ht⟩

/-- A text has no controls if all its characters stand in a text without any. -/
theorem of_subset (h : ControlFree t) (hs : ∀ c ∈ s, c ∈ t) : ControlFree s :=
  fun c hc => h c (hs c hc)

/-- A character that is no control may be repeated. -/
theorem replicate (hc : 0x20 ≤ c.toNat) (n : Nat) : ControlFree (List.replicate n c) := by
  intro d hd
  rwa [List.eq_of_mem_replicate hd]

/-- Texts without controls may be joined by another one. -/
theorem intercalate {separator : Text} (hseparator : ControlFree separator) {ts : List Text}
    (h : ∀ t ∈ ts, ControlFree t) : ControlFree (List.intercalate separator ts) := by
  induction ts with
  | nil => exact fun c hc => absurd hc List.not_mem_nil
  | cons t ts ih =>
    obtain ⟨ht, hts⟩ := List.forall_mem_cons.mp h
    by_cases hne : ts = []
    · rwa [hne, List.intercalate_singleton]
    · rw [List.intercalate_cons_of_ne_nil hne]
      exact (ht.append hseparator).append (ih hts)

end ControlFree

/-- The digits of a number are no controls. -/
theorem controlFree_ofNat (n : Nat) : ControlFree (ofNat n) := by
  intro c hc
  have hdigit := isDigit_of_mem_ofNat hc
  simp only [Char.isDigit, Bool.and_eq_true, decide_eq_true_eq] at hdigit
  have hle : (48 : Nat) ≤ c.toNat := UInt32.le_iff_toNat_le.mp hdigit.1
  omega

end Text

open Text

/-! ## Numbers -/

/-- A decimal number is written without controls if its layout is. -/
theorem Decimal.controlFree_text {layout : DecimalLayout} (hend : ControlFree layout.wholeEnd)
    (hplus : ControlFree layout.plus) (d : Decimal) : ControlFree (d.text layout) := by
  have hdigits : ControlFree d.digitText := controlFree_ofNat d.digits
  have hpositional : ControlFree (d.positional layout) := by
    unfold positional
    split
    · exact (hdigits.append (.replicate (c := '0') (by decide) _)).append hend
    · split
      · exact (hdigits.of_subset fun c => List.mem_of_mem_take).append
          (.cons (by decide) (hdigits.of_subset fun c => List.mem_of_mem_drop))
      · have hzeros := ControlFree.replicate (c := '0') (by decide) (-d.leading - 1).toNat
        exact (ControlFree.cons (by decide) (hzeros.cons (by decide))).append hdigits
  have hscientific : ControlFree (d.scientific layout) := by
    have hsign : ControlFree (if d.leading < 0 then ['-'] else layout.plus) := by
      split
      · decide
      · exact hplus
    refine ControlFree.append (ControlFree.append ?_ (.cons (by decide) hsign))
      (controlFree_ofNat _)
    split
    · decide
    · next c hc => exact hc ▸ hdigits
    · next c more _ hc =>
      obtain ⟨hfirst, hmore⟩ := List.forall_mem_cons.mp (hc ▸ hdigits)
      exact .cons hfirst (.cons (by decide) hmore)
  unfold text
  split
  · exact hpositional
  · exact hscientific

/-- Numbers are written without controls. -/
theorem Number.controlFree_text (n : Number) : ControlFree n.text := by
  cases n with
  | whole n =>
    simp only [text, intText]
    split
    · exact .cons (by decide) (controlFree_ofNat _)
    · exact controlFree_ofNat _
  | real x =>
    simp only [text]
    split
    · decide
    · next b _ =>
      refine ControlFree.append ?_ (Decimal.controlFree_text (by decide) (by decide) _)
      split <;> decide

/-! ## Printed values -/

namespace Json

/-- What stands for a character in a string is no control. -/
theorem controlFree_escape (c : Char) : ControlFree (escape c) := by
  have hdigit (n : Nat) : 0x20 ≤ (hexDigit n).toNat := by
    have hdigits : ControlFree hexDigits := by decide
    by_cases hn : n < hexDigits.length
    · rw [hexDigit, List.getD_eq_getElem _ _ hn]
      exact hdigits _ (List.getElem_mem hn)
    · rw [hexDigit, List.getD_eq_default _ _ (Nat.not_lt.mp hn)]
      decide
  unfold escape
  repeat' split
  all_goals first
    | decide
    | exact ControlFree.append (by decide) (.cons (hdigit _) (.cons (hdigit _) (by decide)))
    | exact .cons (Nat.not_lt.mp ‹_›) (by decide)

/-- Strings are written without controls. -/
theorem controlFree_quote (s : Text) : ControlFree (quote s) := by
  refine .cons (by decide) (ControlFree.append ?_ (by decide))
  intro c hc
  obtain ⟨d, _, hc⟩ := List.mem_flatMap.mp hc
  exact controlFree_escape d c hc

mutual

/-- Printed values hold no control character. -/
theorem controlFree_print : ∀ v : Value, ControlFree (print v)
  | .null => by decide
  | .bool true => by decide
  | .bool false => by decide
  | .number n => n.controlFree_text
  | .string s => controlFree_quote s
  | .list items => .cons (by decide)
    ((ControlFree.intercalate (by decide) (controlFree_printItems items)).append (by decide))
  | .map entries => .cons (by decide)
    ((ControlFree.intercalate (by decide) (controlFree_printEntries entries)).append (by decide))

private theorem controlFree_printItems : ∀ items : List Value, ∀ t ∈ printItems items, ControlFree t
  | [] => fun _ ht => absurd ht List.not_mem_nil
  | v :: rest => List.forall_mem_cons.mpr ⟨controlFree_print v, controlFree_printItems rest⟩

private theorem controlFree_printEntries :
    ∀ entries : List (Text × Value), ∀ t ∈ printEntries entries, ControlFree t
  | [] => fun _ ht => absurd ht List.not_mem_nil
  | (key, v) :: rest => List.forall_mem_cons.mpr
    ⟨(controlFree_quote key).append (.cons (by decide) (controlFree_print v)),
      controlFree_printEntries rest⟩

end

end Json

end Stencil
