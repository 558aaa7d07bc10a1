import Mathlib.Tactic.TFAE
import Stencil.Proofs.Grammar.Scan

/-!
# Uniform closing delimiters

A body is meant to be a text without its closing delimiter. It is that just where all characters of
the closing delimiter are the same: otherwise a step may swallow the beginning of a closing delimiter
and go on behind it. `body_tfae` says that then neither half is left: some body holds the closing
delimiter, and some text without it is no body.
-/

namespace Stencil

open Pattern

variable {closing : Text}

/-- All characters of a delimiter are the same. -/
def Uniform (delimiter : Text) : Prop := ∀ c ∈ delimiter, ∀ d ∈ delimiter, c = d

instance (delimiter : Text) : Decidable (Uniform delimiter) :=
  decidable_of_iff (delimiter.all fun c => delimiter.all (c = ·)) (by simp [Uniform])

/-- A text that can be shifted by one repeats one character. -/
theorem forall_eq_of_cons_eq_append {a first : Char} {t : Text}
    (h : first :: t = t ++ [a]) : ∀ c ∈ t, c = a := by
  induction t generalizing first with
  | nil => exact fun c hc => absurd hc List.not_mem_nil
  | cons d t ih =>
    obtain ⟨_, ht⟩ := List.cons.inj h
    have htail := ih ht
    have hd : d = a := by
      cases t with
      | nil => exact (List.cons.inj ht).1
      | cons e t => exact (List.cons.inj ht).1.trans (htail e List.mem_cons_self)
    intro c hc
    rcases List.mem_cons.mp hc with rfl | hc
    · exact hd
    · exact htail c hc

namespace Grammar

/-! ## Uniform delimiters -/

/-- Where a uniform closing delimiter occurs, steps lead to an occurrence: none of them can hold a
whole one. -/
theorem exists_body_of_uniform (hu : Uniform closing) {t : Text} (h : closing <:+: t) :
    ∃ x rest, Body closing x ∧ t = x ++ (closing ++ rest) := by
  induction hl : t.length using Nat.strongRecOn generalizing t with
  | _ length ih =>
    cases hs : stepLength? closing t with
    | none =>
      have hpre : closing <+: t := by
        rcases stepLength?_eq_none_iff.mp hs with hpre | hpre
        · exact hpre
        · have heq : closing = t := h.eq_of_length_le hpre.length_le
          exact heq ▸ List.prefix_refl closing
      obtain ⟨rest, rfl⟩ := hpre
      exact ⟨[], rest, .nil, rfl⟩
    | some n =>
      obtain ⟨beginning, c, d, after, hb, hd, rfl, rfl⟩ := stepLength?_eq_some_iff.mp hs
      obtain ⟨pre, post, hpost⟩ := h
      have hmem : c ∈ closing := hb.subset (List.mem_append_right _ List.mem_cons_self)
      have hlong : beginning.length < closing.length := by
        have hle := hb.length_le
        rw [List.length_append, List.length_singleton] at hle
        exact hle
      have hafter : closing <:+: after := by
        have hpos : beginning.length < pre.length := by
          by_contra hlt
          -- Otherwise the character that ends the step lies inside the occurrence.
          have hle : pre.length ≤ beginning.length := Nat.not_lt.mp hlt
          have hget := congrArg (·[beginning.length]?) hpost
          simp only [List.append_assoc, List.getElem?_append_right hle,
            List.getElem?_append_right (Nat.le_refl beginning.length), Nat.sub_self,
            List.getElem?_cons_zero] at hget
          rw [List.getElem?_append_left (by omega)] at hget
          exact hd (hu d (List.mem_of_getElem? hget) c hmem)
        have hdrop := congrArg (List.drop (beginning.length + 1)) hpost
        rw [List.drop_length_add_append, List.drop_succ_cons, List.drop_zero, List.append_assoc,
          List.drop_append_of_le_length (by omega)] at hdrop
        exact ⟨pre.drop (beginning.length + 1), post, by rw [List.append_assoc, hdrop]⟩
      obtain ⟨x, rest, hx, rfl⟩ := ih after.length (by
        rw [← hl, List.length_append, List.length_cons]
        omega) hafter rfl
      exact ⟨beginning ++ d :: x, rest, .step hb hd hx, by rw [List.append_assoc, List.cons_append]⟩

/-- Before a uniform closing delimiter no body holds one. -/
theorem not_isInfix_of_uniform (hu : Uniform closing) (hc : closing ≠ []) {x : Text}
    (hx : Body closing x) : ¬ closing <:+: x := by
  intro hinfix
  obtain ⟨y, rest, hy, rfl⟩ := exists_body_of_uniform hu hinfix
  have hrest : Body closing (closing ++ rest) := (body_append_iff hy).mp hx
  have hstep : stepLength? closing (closing ++ rest) = none :=
    stepLength?_eq_none_iff.mpr (.inl (List.prefix_append closing rest))
  have hnil := (body_iff_of_stepLength?_eq_none hstep).mp hrest
  exact hc (List.append_eq_nil_iff.mp hnil).1

/-! ## Other delimiters -/

/-- The first character of a delimiter that is not uniform, together with one that differs. -/
theorem exists_ne_of_not_uniform (h : ¬ Uniform closing) :
    ∃ a b rest, closing = a :: rest ∧ b ∈ rest ∧ b ≠ a := by
  cases closing with
  | nil => exact absurd (fun c hc => absurd hc List.not_mem_nil) h
  | cons a rest =>
    by_contra hall
    have hsame : ∀ c ∈ a :: rest, c = a := by
      intro c hc
      rcases List.mem_cons.mp hc with rfl | hc
      · rfl
      · by_contra hne
        exact hall ⟨a, c, rest, rfl, hc, hne⟩
    exact h fun c hc d hd => (hsame c hc).trans (hsame d hd).symm

section Other

variable {a b : Char} {rest : Text} (hb : b ∈ rest) (hab : b ≠ a)

include hb hab

/-- A delimiter of different characters does not begin where its first one stands twice. -/
theorem not_prefix_cons_self : ¬ a :: rest <+: a :: a :: rest := by
  rintro ⟨more, hmore⟩
  have hlength := congrArg List.length hmore
  obtain ⟨r, rfl⟩ : ∃ r, more = [r] := List.length_eq_one_iff.mp (by
    simp only [List.length_append, List.length_cons] at hlength
    omega)
  have hsame := forall_eq_of_cons_eq_append hmore.symm
  exact hab ((hsame b (List.mem_cons_of_mem a hb)).trans (hsame a List.mem_cons_self).symm)

omit hb hab in
/-- The first character of the closing delimiter is no body by itself. -/
theorem not_body_singleton : ¬ Body (a :: rest) [a] := by
  generalize hx : [a] = x
  intro h
  cases h with
  | nil => exact List.cons_ne_nil _ _ hx
  | @step beginning c d after hpre hd _ =>
    cases beginning with
    | nil => exact hd ((List.cons.inj hx).1.symm.trans (List.cons_prefix_cons.mp hpre).1.symm)
    | cons e beginning =>
      have hnil := (List.cons.inj hx).2
      exact absurd hnil.symm (List.append_ne_nil_of_right_ne_nil _ (List.cons_ne_nil _ _))

/-- After one more of its first character no body ends at the closing delimiter. -/
theorem no_body_once {x more : Text} (hx : Body (a :: rest) x) :
    a :: a :: rest ≠ x ++ (a :: rest ++ more) := by
  intro h
  cases x with
  | nil => exact not_prefix_cons_self hb hab ⟨more, h.symm⟩
  | cons y x =>
    have hlength := congrArg List.length h
    simp only [List.length_append, List.length_cons] at hlength
    obtain rfl : x = [] := List.length_eq_zero_iff.mp (by omega)
    obtain ⟨rfl, _⟩ := List.cons.inj h
    exact not_body_singleton hx

/-- With one more of its first character in front, the closing delimiter fits into a body. -/
theorem exists_body_isInfix : ∃ x, Body (a :: rest) x ∧ a :: rest <:+: x := by
  obtain ⟨n, hn, hlast⟩ := exists_leads_last (advances_stepLength? (a :: rest)) (a :: a :: rest)
  have hx : Body (a :: rest) ((a :: a :: rest).take n) := (leads_iff_body.mp hn).2
  have hsplit : a :: a :: rest = (a :: a :: rest).take n ++ (a :: a :: rest).drop n :=
    (List.take_append_drop n _).symm
  generalize (a :: a :: rest).take n = x at hx hsplit
  generalize (a :: a :: rest).drop n = y at hlast hsplit
  -- The steps do not stop at a whole closing delimiter, so a beginning of one is left, and with a
  -- character that is not the next one it is the last step.
  have hnot : ¬ a :: rest <+: y := by
    rintro ⟨more, rfl⟩
    exact no_body_once hb hab hx hsplit
  obtain ⟨more, hmore⟩ := (stepLength?_eq_none_iff.mp hlast).resolve_left hnot
  obtain ⟨c, more, rfl⟩ := List.exists_cons_of_ne_nil (show more ≠ [] by
    rintro rfl
    exact hnot ⟨[], by rw [← hmore, List.append_nil, List.append_nil]⟩)
  obtain ⟨d, hd⟩ : ∃ d, d ≠ c := by
    by_cases hca : a = c
    · exact ⟨b, hca ▸ hab⟩
    · exact ⟨a, hca⟩
  have hstep : y ++ [c] <+: a :: rest := ⟨more, by rw [← hmore]; simp⟩
  refine ⟨x ++ (y ++ [d]), (body_append_iff hx).mpr (.step hstep hd .nil), [a], [d], ?_⟩
  rw [← List.append_assoc, ← hsplit]
  rfl

/-- Behind one more of its first character the closing delimiter occurs only at the end. -/
theorem eq_nil_of_cons_append {before after : Text}
    (h : [a] ++ (a :: rest) = before ++ (a :: rest) ++ after) : after = [] := by
  cases before with
  | nil => exact absurd ⟨after, h.symm⟩ (not_prefix_cons_self hb hab)
  | cons c before =>
    have hlength := congrArg List.length h
    simp only [List.length_append, List.length_cons, List.length_nil] at hlength
    exact List.length_eq_zero_iff.mp (by omega)

end Other

/-- The pattern of a body is right for uniform closing delimiters and wrong for all others, in both
ways: a closing delimiter repeats one character if and only if no body holds it, and if and only if
every text before the first closing delimiter is a body. -/
theorem body_tfae (hc : closing ≠ []) : List.TFAE [
    Uniform closing,
    ∀ x, (body closing).MatchesWhole x → ¬ closing <:+: x,
    ∀ x, (∀ before after, x ++ closing = before ++ closing ++ after → after = []) →
      (body closing).MatchesWhole x] := by
  simp only [matchesWhole_body_iff hc]
  tfae_have 1 → 2 := fun hu x hx => not_isInfix_of_uniform hu hc hx
  tfae_have 2 → 1 := by
    intro h
    by_contra hu
    obtain ⟨a, b, rest, rfl, hb, hab⟩ := exists_ne_of_not_uniform hu
    obtain ⟨x, hx, hinfix⟩ := exists_body_isInfix hb hab
    exact h x hx hinfix
  tfae_have 1 → 3 := by
    intro hu x honly
    obtain ⟨y, rest, hy, hsplit⟩ := exists_body_of_uniform hu ⟨x, [], List.append_nil _⟩
    rw [← List.append_assoc] at hsplit
    obtain rfl := honly y rest hsplit
    rw [List.append_nil] at hsplit
    exact List.append_cancel_right hsplit ▸ hy
  tfae_have 3 → 1 := by
    intro h
    by_contra hu
    obtain ⟨a, b, rest, rfl, hb, hab⟩ := exists_ne_of_not_uniform hu
    exact not_body_singleton (h [a] fun before after => eq_nil_of_cons_append hb hab)
  tfae_finish

/-- Before two braces no body holds them, but before a brace and `#` one does. -/
theorem body_tfae_braces :
    ("\x7d\x7d".toList ≠ [] ∧
      ∀ x, (body "\x7d\x7d".toList).MatchesWhole x → ¬ "\x7d\x7d".toList <:+: x) ∧
    "\x7d#".toList ≠ [] ∧
      ¬ ∀ x, (body "\x7d#".toList).MatchesWhole x → ¬ "\x7d#".toList <:+: x := by
  have hsame : "\x7d\x7d".toList ≠ [] := List.cons_ne_nil _ _
  have hmixed : "\x7d#".toList ≠ [] := List.cons_ne_nil _ _
  refine ⟨⟨hsame, ((body_tfae hsame).out 0 1).mp (by decide)⟩, hmixed, fun h => ?_⟩
  have huniform : Uniform "\x7d#".toList := ((body_tfae hmixed).out 0 1).mpr h
  exact absurd huniform (by decide)

end Grammar

end Stencil
