import Stencil.Proofs.Render.Stages
import Stencil.Proofs.Text.Replace
import Stencil.Proofs.Token.Strict

/-!
# Final texts

What strict rendering gives holds no token, so no later substitution can change it, provided that
the search for tokens misses none. That is so where the closing delimiter repeats one character. If
the text has no loop either, rendering it again gives it back, whatever the variables.
-/

namespace Stencil

variable {pair : Pair} {t : Text}

/-- Where no name stands between delimiters, no variable has anything to replace. -/
theorem substituteAll_eq_self (hp : Delimiters.pairFault? pair = none)
    (ht : ∀ name, ¬ pair.wrap name <:+: t) (vars : List (Text × Value)) :
    substituteAll pair vars t = t := by
  induction vars with
  | nil => rfl
  | cons entry vars ih =>
    have hwrap := Pair.wrap_ne_nil (Delimiters.opening_ne_nil hp) entry.1
    have hstay : substitute pair t entry = t := Text.replace_eq_self hwrap (ht entry.1)
    rw [substituteAll, List.foldl_cons, hstay]
    exact ih

/-- A text that strict substitution has let through holds no token. -/
theorem first?_eq_none_of_fillTokens {vars : Variables} {out : Text}
    (h : fillTokens t vars pair true = .ok out) : Token.first? pair out = none := by
  simp only [fillTokens, ite_true] at h
  split at h
  · cases h
  · rwa [← Except.ok.inj h]

/-- Substitution gives a text without tokens back, strict or not. -/
theorem fillTokens_eq_self (hp : Delimiters.pairFault? pair = none) (hu : Uniform pair.closing)
    (ht : Token.first? pair t = none) (vars : Variables) (strict : Bool) :
    fillTokens t vars pair strict = .ok t := by
  have hstay : substituteAll pair vars t = t :=
    substituteAll_eq_self hp (Token.wrap_not_isInfix hu (Delimiters.closing_ne_nil hp) ht) vars
  cases strict with
  | false => simp only [fillTokens, hstay, Bool.false_eq_true, ite_false]
  | true => simp only [fillTokens, hstay, ht, ite_true]

/-- Whether a text has loops does not depend on the variables. -/
theorem Loop.all_eq_nil_iff {vars : Variables} {tag body : Pair} :
    Loop.all t vars tag body = [] ↔ (Grammar.loop tag body).occurrences t = [] :=
  List.map_eq_nil_iff

/-- A strict render is final: if its text has no loop, rendering that text again gives it back, with
any variables, strict or not, and under any policy. -/
theorem render_of_strict_render {d : Delimiters} (hu : Uniform d.token.closing)
    {template out : Text} {vars : Variables} {policy : Shortfall}
    (h : render template vars ⟨d, true, policy⟩ = .ok out)
    (hloops : Loop.all out vars d.tag d.body = []) (vars' : Variables) (strict : Bool)
    (policy' : Shortfall) : render out vars' ⟨d, strict, policy'⟩ = .ok out := by
  have husable := usable_of_render h
  obtain ⟨expanded, _, hfilled⟩ := exists_of_render h
  have hloops' : Loop.all out vars' d.tag d.body = [] :=
    Loop.all_eq_nil_iff.mpr (Loop.all_eq_nil_iff.mp hloops)
  have hexpand : expandLoops out [] d.token policy' = .ok out := rfl
  rw [render_of_usable husable, filled, hloops', hexpand]
  exact fillTokens_eq_self husable.pairFault?.1 hu (first?_eq_none_of_fillTokens hfilled) _ strict

/-- A value that brings half a token in: rendered strictly under doubled delimiters, the text holds
a lone `\x7b\x7bb\x7d` and stays as it is although `b` now has a value. -/
theorem render_of_strict_render_half_token :
    render "\x7b\x7ba\x7d\x7d\x7d".toList [(['a'], .string "\x7b\x7bb".toList)]
        ⟨.standard, true, .fail⟩ = .ok "\x7b\x7bb\x7d".toList ∧
      render "\x7b\x7bb\x7d".toList [(['b'], .string ['B'])] ⟨.standard, true, .pad⟩ =
        .ok "\x7b\x7bb\x7d".toList := by
  have hfirst : render "\x7b\x7ba\x7d\x7d\x7d".toList [(['a'], .string "\x7b\x7bb".toList)]
      ⟨.standard, true, .fail⟩ = .ok "\x7b\x7bb\x7d".toList := by rfl
  refine ⟨hfirst, render_of_strict_render ?_ hfirst (by rfl) _ _ _⟩
  simp [Uniform, Delimiters.standard]

end Stencil
