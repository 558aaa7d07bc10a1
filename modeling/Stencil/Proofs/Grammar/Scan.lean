import Stencil.Proofs.Grammar.Body
import Stencil.Proofs.Pattern.Language

/-!
# Bodies by scanning

A body before its closing delimiter is found without trying alternatives: step over what the text
shares with the closing delimiter and one character more, until the closing delimiter stands ahead.
So there is one body at most, and it does not matter whether the pattern prefers long or short ones.
-/

namespace Stencil

open Pattern

namespace Grammar

variable {closing t x y : Text}

/-- The texts that the pattern of a body matches are those made of whole steps. -/
theorem matchesWhole_body_iff (hc : closing ≠ []) :
    (body closing).MatchesWhole x ↔ Body closing x := by
  rw [body, matchesWhole_star_iff (takes_step hc) (advances_stepLength? closing), leads_iff_body,
    List.take_length]
  exact and_iff_right (Nat.le_refl _)

/-- The number of characters from the beginning on that two texts share. -/
def sharedLength : Text → Text → Nat
  | c :: s, d :: t => if c = d then sharedLength s t + 1 else 0
  | _, _ => 0

/-- What is passed over up to a closing delimiter: as long as it does not stand ahead, the characters
shared with it and one more, which must be there. -/
def scanBody? (closing t : Text) : Option Text :=
  if closing <+: t then some []
  else if sharedLength closing t < t.length then
    (scanBody? closing (t.drop (sharedLength closing t + 1))).map
      (t.take (sharedLength closing t + 1) ++ ·)
  else none
termination_by t.length
decreasing_by rw [List.length_drop]; omega

private theorem stepLength?_of_not_closed (h : ¬ closing <+: t) : stepLength? closing t =
    if sharedLength closing t < t.length then some (sharedLength closing t + 1) else none := by
  induction closing generalizing t with
  | nil => exact absurd t.nil_prefix h
  | cons c closing ih =>
    cases t with
    | nil => rfl
    | cons d t =>
      by_cases hd : d = c
      · subst d
        have hrest : ¬ closing <+: t := fun hp => h (List.cons_prefix_cons.mpr ⟨rfl, hp⟩)
        rw [stepLength?, if_pos rfl, ih hrest, sharedLength, if_pos rfl]
        by_cases hlt : sharedLength closing t < t.length
        · simp [hlt]
        · simp [hlt]
      · simp [stepLength?, sharedLength, hd, Ne.symm hd]

private theorem scanBody?_of_closed (h : closing <+: t) : scanBody? closing t = some [] := by
  rw [scanBody?, if_pos h]

private theorem scanBody?_of_step {beginning rest : Text} {c d : Char}
    (hb : beginning ++ [c] <+: closing) (hd : d ≠ c) :
    scanBody? closing (beginning ++ d :: rest) =
      (scanBody? closing rest).map (beginning ++ d :: ·) := by
  have hstep : stepLength? closing (beginning ++ d :: rest) = some (beginning.length + 1) :=
    stepLength?_eq_some_iff.mpr ⟨beginning, c, d, rest, hb, hd, rfl, rfl⟩
  have hclose : ¬ closing <+: beginning ++ d :: rest := fun hp => by
    rw [stepLength?_eq_none_iff.mpr (.inl hp)] at hstep
    exact nomatch hstep
  rw [stepLength?_of_not_closed hclose, Option.ite_none_right_eq_some] at hstep
  obtain ⟨hlt, hshared⟩ := hstep
  rw [scanBody?, if_neg hclose, if_pos hlt, Option.some.inj hshared, List.take_length_add_append,
    List.drop_length_add_append, List.take_succ_cons, List.take_zero, List.drop_succ_cons,
    List.drop_zero]
  simp only [List.append_assoc, List.singleton_append]

/-- The scan stops behind a body, where the closing delimiter stands. -/
theorem scanBody?_append (hx : Body closing x) (rest : Text) :
    scanBody? closing (x ++ (closing ++ rest)) = some x := by
  induction hx with
  | nil => exact scanBody?_of_closed (List.prefix_append closing rest)
  | step hb hd _ ih => rw [List.append_assoc, List.cons_append, scanBody?_of_step hb hd, ih]; rfl

/-- What the scan has passed over is a body, and the closing delimiter stands behind it. -/
theorem body_of_scanBody? (h : scanBody? closing t = some x) :
    Body closing x ∧ x ++ closing <+: t := by
  induction hl : t.length using Nat.strongRecOn generalizing t x with
  | _ length ih =>
    by_cases hclose : closing <+: t
    · rw [scanBody?_of_closed hclose] at h
      obtain rfl := Option.some.inj h
      exact ⟨.nil, hclose⟩
    · cases hstep : stepLength? closing t with
      | none =>
        have hover : ¬ sharedLength closing t < t.length := fun hlt => by
          rw [stepLength?_of_not_closed hclose, if_pos hlt] at hstep
          exact nomatch hstep
        rw [scanBody?, if_neg hclose, if_neg hover] at h
        exact nomatch h
      | some n =>
        obtain ⟨beginning, c, d, rest, hb, hd, rfl, rfl⟩ := stepLength?_eq_some_iff.mp hstep
        rw [scanBody?_of_step hb hd, Option.map_eq_some_iff] at h
        obtain ⟨y, hy, rfl⟩ := h
        obtain ⟨hbody, hpre⟩ := ih rest.length
          (by rw [← hl, List.length_append, List.length_cons]; omega) hy rfl
        refine ⟨.step hb hd hbody, ?_⟩
        rw [List.append_assoc, List.cons_append, List.prefix_append_right_inj]
        exact List.cons_prefix_cons.mpr ⟨rfl, hpre⟩

/-- The scan finds the body before a closing delimiter, if there is one. -/
theorem scanBody?_eq_some_iff :
    scanBody? closing t = some x ↔ Body closing x ∧ x ++ closing <+: t := by
  refine ⟨body_of_scanBody?, ?_⟩
  rintro ⟨hx, rest, rfl⟩
  rw [List.append_assoc]
  exact scanBody?_append hx rest

end Grammar

end Stencil
