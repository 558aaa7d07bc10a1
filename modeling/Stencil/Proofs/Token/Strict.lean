import Stencil.Proofs.Delimiter
import Stencil.Proofs.Grammar.Uniform
import Stencil.Proofs.Token.First
import Stencil.Substitution

/-!
# What strict substitution lets through

Substitution replaces tokens as pieces of text, and strict mode afterwards looks for tokens with
bodies made of whole steps. A step may swallow the beginning of a closing delimiter, so the search
can miss a token that stands there as a piece of text. `strict_complete_iff` says for which pairs it
never does: those whose closing delimiter repeats one character, and those that open with just the
first character of the closing delimiter.
-/

namespace Stencil

open Grammar

variable {pair : Pair}

/-! ## Pairs whose tokens are always found -/

private theorem exists_ahead_of_uniform (hu : Uniform pair.closing) {n out : Text}
    (h : pair.wrap n <:+: out) :
    ∃ u, u <:+ out ∧ ∃ x rest, Ahead pair x rest u := by
  obtain ⟨pre, post, rfl⟩ := h
  obtain ⟨x, rest, hx, ht⟩ := exists_body_of_uniform hu (t := n ++ (pair.closing ++ post))
    ⟨n, post, by rw [List.append_assoc]⟩
  refine ⟨pair.opening ++ (n ++ (pair.closing ++ post)), ⟨pre, ?_⟩, x, rest, hx, by rw [ht]⟩
  simp only [Pair.wrap, List.append_assoc]

/-- Behind a closing delimiter of one repeated character nothing is missed: a text without tokens
holds no name between delimiters. -/
theorem Token.wrap_not_isInfix (hu : Uniform pair.closing) (hc : pair.closing ≠ []) {t : Text}
    (h : Token.first? pair t = none) (name : Text) : ¬ pair.wrap name <:+: t := by
  intro hinfix
  obtain ⟨u, hsuffix, x, rest, hahead⟩ := exists_ahead_of_uniform hu hinfix
  exact (Token.first?_eq_none_iff hc).mp h u hsuffix x rest hahead

private theorem exists_ahead_of_opening {a : Char} {rest : Text} (ho : pair.opening = [a])
    (hc : pair.closing = a :: rest) {n out : Text} (h : pair.wrap n <:+: out) :
    ∃ u, u <:+ out ∧ ∃ x rest, Ahead pair x rest u := by
  -- The last `a` before the closing delimiter is the one that opens a token.
  obtain ⟨pre, post, rfl⟩ := h
  have hlast : ∃ early x, a :: n = early ++ a :: x ∧ a ∉ x := by
    have hmem : a ∈ (a :: n).reverse := List.mem_reverse.mpr List.mem_cons_self
    obtain ⟨late, early, hsplit, hnot⟩ := List.eq_append_cons_of_mem hmem
    refine ⟨early.reverse, late.reverse, ?_, fun hm => hnot (List.mem_reverse.mp hm)⟩
    calc a :: n = (a :: n).reverse.reverse := (List.reverse_reverse _).symm
      _ = early.reverse ++ a :: late.reverse := by rw [hsplit]; simp
  obtain ⟨early, x, hsplit, hnot⟩ := hlast
  refine ⟨pair.opening ++ (x ++ (pair.closing ++ post)), ⟨pre ++ early, ?_⟩, x, post, ?_, rfl⟩
  · have hwrap : pair.wrap n = early ++ a :: x ++ pair.closing := by
      rw [Pair.wrap, ho, List.singleton_append, hsplit]
    rw [hwrap, ho]
    simp only [List.append_assoc, List.cons_append, List.nil_append]
  · rw [hc]
    exact body_of_head_notMem hnot

/-! ## Pairs with a token that is not found -/

section Missed

variable {a b : Char} {rest : Text} (hb : b ∈ rest) (hab : b ≠ a)

include hb hab

private theorem no_body_twice {x more : Text} (hx : Body (a :: rest) x) :
    b :: a :: a :: rest ≠ x ++ (a :: rest ++ more) := by
  intro h
  cases hx with
  | nil => exact hab (List.cons.inj h).1
  | @step beginning c d after hpre hd hafter =>
    cases beginning with
    | nil => exact no_body_once hb hab hafter (List.cons.inj h).2
    | cons e beginning =>
      have he : e = a := (List.cons_prefix_cons.mp hpre).1
      exact hab ((List.cons.inj h).1.trans he)

private theorem exists_missed (hopen : pair.opening ≠ []) (hne : pair.opening ≠ [a])
    (hc : pair.closing = a :: rest) : ∃ n, Token.first? pair (pair.wrap n) = none := by
  by_cases hall : ∀ c ∈ pair.opening, c = a
  · -- The opening delimiter repeats `a` at least twice; `b` keeps later openings from fitting.
    have hlong : 2 ≤ pair.opening.length := by
      rcases hl : pair.opening with _ | ⟨c, _ | ⟨d, o⟩⟩
      · exact absurd hl hopen
      · exact absurd (by rw [hl, hall c (by rw [hl]; exact List.mem_cons_self)]) hne
      · simp only [List.length_cons]
        omega
    refine ⟨[b, a], (Token.first?_eq_none_iff (by rw [hc]; exact List.cons_ne_nil _ _)).mpr ?_⟩
    rintro u ⟨pre, hpre⟩ x more ⟨hx, rfl⟩
    rw [Pair.wrap, hc, List.append_assoc] at hpre
    rw [hc] at hx
    cases pre with
    | nil =>
      rw [List.nil_append, List.append_cancel_left_eq] at hpre
      exact no_body_twice hb hab hx hpre.symm
    | cons p pre =>
      have hlength := congrArg List.length hpre
      simp only [List.length_append, List.length_cons, List.length_nil] at hlength
      have hget := congrArg (·[pair.opening.length]?) hpre
      simp only [List.getElem?_append_right (Nat.le_refl pair.opening.length), Nat.sub_self,
        List.cons_append, List.nil_append, List.getElem?_cons_zero] at hget
      rw [← List.cons_append, List.getElem?_append_right (by rw [List.length_cons]; omega),
        List.getElem?_append_left (by rw [List.length_cons]; omega)] at hget
      exact hab (hall b (List.mem_of_getElem? hget))
  · refine ⟨[a], (Token.first?_eq_none_iff (by rw [hc]; exact List.cons_ne_nil _ _)).mpr ?_⟩
    rintro u ⟨pre, hpre⟩ x more ⟨hx, rfl⟩
    rw [Pair.wrap, hc, List.append_assoc] at hpre
    rw [hc] at hx
    cases pre with
    | nil =>
      rw [List.nil_append, List.append_cancel_left_eq] at hpre
      exact no_body_once hb hab hx hpre.symm
    | cons p pre =>
      have hlength := congrArg List.length hpre
      simp only [List.length_append, List.length_cons, List.length_nil] at hlength
      obtain rfl : pre = [] := List.length_eq_zero_iff.mp (by omega)
      obtain rfl : x = [] := List.length_eq_zero_iff.mp (by omega)
      obtain rfl : more = [] := List.length_eq_zero_iff.mp (by omega)
      have hlonger : (p :: pair.opening) ++ a :: rest = (pair.opening ++ [a]) ++ a :: rest := by
        simpa using hpre
      have hshift : p :: pair.opening = pair.opening ++ [a] := List.append_cancel_right hlonger
      exact hall (forall_eq_of_cons_eq_append hshift)

end Missed

/-- Strict substitution lets no token through, whatever the text and the variables, exactly if the
closing delimiter repeats one character or the opening one is just its first character. -/
theorem strict_complete_iff (hp : Delimiters.pairFault? pair = none) :
    (∀ t vars out, fillTokens t vars pair true = .ok out → ∀ n, ¬ pair.wrap n <:+: out) ↔
      Uniform pair.closing ∨ pair.opening = pair.closing.take 1 := by
  have hopen := Delimiters.opening_ne_nil hp
  have hc := Delimiters.closing_ne_nil hp
  constructor
  · intro h
    by_contra hnot
    obtain ⟨hu, ho⟩ := not_or.mp hnot
    obtain ⟨a, b, rest, hclosing, hb, hab⟩ := exists_ne_of_not_uniform hu
    rw [hclosing, List.take_succ_cons, List.take_zero] at ho
    obtain ⟨n, hn⟩ := exists_missed hb hab hopen ho hclosing
    refine h (pair.wrap n) [] (pair.wrap n) ?_ n (List.infix_refl _)
    simp only [fillTokens, substituteAll, List.foldl_nil, ite_true, hn]
  · intro hpair t vars out hout n hn
    have hfirst : Token.first? pair out = none := by
      simp only [fillTokens, ite_true] at hout
      split at hout
      · exact absurd hout nofun
      · rwa [← Except.ok.inj hout]
    have hahead : ∃ u, u <:+ out ∧ ∃ x rest, Ahead pair x rest u := by
      rcases hpair with hu | ho
      · exact exists_ahead_of_uniform hu hn
      · obtain ⟨a, rest, hclosing⟩ := List.exists_cons_of_ne_nil hc
        rw [hclosing, List.take_succ_cons, List.take_zero] at ho
        exact exists_ahead_of_opening ho hclosing hn
    obtain ⟨u, hu, x, rest, hx⟩ := hahead
    exact (Token.first?_eq_none_iff hc).mp hfirst u hu x rest hx

/-- With the delimiters `#\x7b` and `\x7d#` the token of `a\x7d` is let through. -/
theorem strict_misses_hash_brace :
    let pair : Pair := ⟨"#\x7b".toList, "\x7d#".toList⟩
    Delimiters.pairFault? pair = none ∧
      fillTokens "#\x7ba\x7d\x7d#".toList [] pair true = .ok (pair.wrap "a\x7d".toList) ∧
      ¬ ∀ t vars out, fillTokens t vars pair true = .ok out → ∀ n, ¬ pair.wrap n <:+: out := by
  refine ⟨by decide, by rfl, ?_⟩
  rw [strict_complete_iff (by decide)]
  simp [Uniform]

end Stencil
