import Stencil.Grammar
import Stencil.Proofs.Pattern.Stride

/-!
# Bodies

A body is made of steps, each some characters of the closing delimiter and then one that is not the
next of them. At every place at most one step is possible, and none where the closing delimiter
begins, so a token has at most one body: `run_inline_of_ahead` finds it and `run_inline_eq_none`
says that nothing else is found.
-/

namespace Stencil

open Pattern

namespace Grammar

/-- The length of the step ahead: the characters shared with the closing delimiter and one more.
There is none where the text or the delimiter is over before they differ. -/
def stepLength? : (closing t : Text) → Option Nat
  | [], _ => none
  | _ :: _, [] => none
  | c :: closing, d :: t => if d = c then (stepLength? closing t).map (· + 1) else some 1

/-- The texts made of whole steps. -/
inductive Body (closing : Text) : Text → Prop
  /-- No step at all. -/
  | nil : Body closing []
  /-- A proper beginning of the closing delimiter, a character that is not the next, and a body. -/
  | step {beginning : Text} {c d : Char} {rest : Text} : beginning ++ [c] <+: closing → d ≠ c →
      Body closing rest → Body closing (beginning ++ d :: rest)

/-- No step is possible just where one of delimiter and text begins with the other. -/
theorem stepLength?_eq_none_iff {closing t : Text} :
    stepLength? closing t = none ↔ closing <+: t ∨ t <+: closing := by
  induction closing generalizing t with
  | nil => simp [stepLength?]
  | cons c closing ih =>
    cases t with
    | nil => simp [stepLength?]
    | cons d t =>
      by_cases h : d = c
      · subst d
        simp [stepLength?, ih, List.cons_prefix_cons]
      · simp [stepLength?, h, List.cons_prefix_cons, Ne.symm h]

/-- A step is a proper beginning of the closing delimiter and a character that is not the next. -/
theorem stepLength?_eq_some_iff {closing t : Text} {n : Nat} :
    stepLength? closing t = some n ↔ ∃ (beginning : Text) (c d : Char) (rest : Text),
      beginning ++ [c] <+: closing ∧ d ≠ c ∧ t = beginning ++ d :: rest ∧
        n = beginning.length + 1 := by
  induction closing generalizing t n with
  | nil => simp [stepLength?]
  | cons a closing ih =>
    cases t with
    | nil => simp [stepLength?]
    | cons b t =>
      by_cases h : b = a
      · subst b
        simp only [stepLength?, ite_true, Option.map_eq_some_iff, ih]
        constructor
        · rintro ⟨m, ⟨beginning, c, d, rest, hb, hd, rfl, rfl⟩, rfl⟩
          exact ⟨a :: beginning, c, d, rest, List.cons_prefix_cons.mpr ⟨rfl, hb⟩, hd, rfl, rfl⟩
        · rintro ⟨beginning, c, d, rest, hb, hd, ht, rfl⟩
          cases beginning with
          | nil =>
            have hc : c = a := (List.cons_prefix_cons.mp hb).1
            have hda : a = d := (List.cons.inj ht).1
            exact absurd (hda.symm.trans hc.symm) hd
          | cons e beginning =>
            obtain ⟨rfl, rfl⟩ := List.cons.inj ht
            exact ⟨_, ⟨beginning, c, d, rest, (List.cons_prefix_cons.mp hb).2, hd, rfl, rfl⟩, rfl⟩
      · simp only [stepLength?, h, ite_false, Option.some.injEq]
        constructor
        · rintro rfl
          exact ⟨[], a, b, t, by simp, h, rfl, rfl⟩
        · rintro ⟨beginning, c, d, rest, hb, hd, ht, rfl⟩
          cases beginning with
          | nil => rfl
          | cons e beginning =>
            have hea : e = a := (List.cons_prefix_cons.mp hb).1
            have hbe : b = e := (List.cons.inj ht).1
            exact absurd (hbe.trans hea) h

/-- A step of a body takes at least one character. -/
theorem advances_stepLength? (closing : Text) : Advances (stepLength? closing) := by
  intro t n h
  obtain ⟨beginning, c, d, rest, _, _, rfl, rfl⟩ := stepLength?_eq_some_iff.mp h
  simp only [List.length_append, List.length_cons]
  omega

/-! ## The pattern of a step -/

private theorem takes_beginning (beginning : Text) (c : Char) :
    Takes (sequence (beginning.map (fun b => one (.only b)) ++ [one (.except c)])) fun t =>
      if beginning <+: t then
        (strideOne (.except c) (t.drop beginning.length)).map (beginning.length + ·)
      else none := by
  induction beginning with
  | nil =>
    intro cursor next
    have h := takes_one (.except c) cursor next
    simp only [List.map_nil, List.nil_append, Pattern.sequence, h, List.nil_prefix, ite_true,
      List.length_nil, List.drop_zero, Nat.zero_add, Option.map_id_fun', id_eq]
  | cons b beginning ih =>
    intro cursor next
    have hseq : sequence ((b :: beginning).map (fun b => one (.only b)) ++ [one (.except c)]) =
        seq (one (.only b))
          (sequence (beginning.map (fun b => one (.only b)) ++ [one (.except c)])) := by
      cases beginning <;> rfl
    rw [hseq]
    cases h : cursor.rest with
    | nil => simp [run, h]
    | cons d rest =>
      have hrest := ih (cursor.step d rest) next
      by_cases hd : d = b
      · subst d
        simp only [run, h, CharSet.accepts_only, beq_self_eq_true, ite_true, hrest,
          Cursor.rest_step, List.cons_prefix_cons, true_and, List.length_cons,
          List.drop_succ_cons]
        by_cases hp : beginning <+: rest
        · simp only [hp, ite_true, Option.bind_map]
          congr 1
          funext n
          simp only [Function.comp, Nat.add_right_comm _ 1 n, Cursor.skip_succ h]
        · simp only [hp, ite_false, Option.bind_none]
      · simp [run, h, hd, List.cons_prefix_cons, Ne.symm hd]

private theorem takes_choice_steps (beginning closing : Text) (hc : closing ≠ []) :
    Takes (choice (steps beginning closing)) fun t =>
      if beginning <+: t then
        (stepLength? closing (t.drop beginning.length)).map (beginning.length + ·)
      else none := by
  induction closing generalizing beginning with
  | nil => exact absurd rfl hc
  | cons c closing ih =>
    intro cursor next
    have hfirst := takes_beginning beginning c cursor next
    have hchoice : (choice (steps beginning (c :: closing))).run cursor next =
        ((sequence (beginning.map (fun b => one (.only b)) ++ [one (.except c)])).run
          cursor next).or (if closing = [] then none else
            (choice (steps (beginning ++ [c]) closing)).run cursor next) := by
      cases closing with
      | nil => simp [steps, choice]
      | cons e closing => simp [steps, choice, run]
    rw [hchoice, hfirst]
    by_cases hp : beginning <+: cursor.rest
    · obtain ⟨ahead, ha⟩ := hp
      have hdrop : cursor.rest.drop beginning.length = ahead := by rw [← ha, List.drop_left]
      have hpre : beginning <+: cursor.rest := ⟨ahead, ha⟩
      simp only [hpre, ite_true, hdrop]
      cases ahead with
      | nil =>
        have hnot : ¬ beginning ++ [c] <+: cursor.rest := by
          intro hle
          have hlength := hle.length_le
          rw [← ha, List.length_append, List.append_nil, List.length_singleton] at hlength
          omega
        by_cases hcl : closing = []
        · simp [strideOne, stepLength?, hcl]
        · simp [strideOne, stepLength?, hcl, ih (beginning ++ [c]) hcl cursor next, hnot]
      | cons d ahead =>
        by_cases hd : d = c
        · subst d
          have hle : beginning ++ [c] <+: cursor.rest := ⟨ahead, by rw [← ha]; simp⟩
          have hdrop' : cursor.rest.drop (beginning ++ [c]).length = ahead := by
            rw [← ha]; simp
          by_cases hcl : closing = []
          · simp [strideOne, stepLength?, hcl]
          · simp only [strideOne, CharSet.accepts_except, bne_self_eq_false, Bool.false_eq_true,
              ite_false, Option.map_none, Option.bind_none, Option.none_or, hcl, stepLength?,
              ite_true]
            rw [ih (beginning ++ [c]) hcl cursor next]
            simp only [hle, ite_true, hdrop', Option.map_map]
            congr 2
            funext n
            simp only [Function.comp, List.length_append, List.length_singleton]
            omega
        · have hnot : ¬ beginning ++ [c] <+: cursor.rest := by
            rintro ⟨more, hmore⟩
            rw [← ha, List.append_assoc, List.append_cancel_left_eq] at hmore
            exact hd (List.cons.inj hmore).1.symm
          by_cases hcl : closing = []
          · simp [strideOne, stepLength?, hcl, hd]
          · simp [strideOne, stepLength?, hcl, hd,
              ih (beginning ++ [c]) hcl cursor next, hnot]
    · have hnot : ¬ beginning ++ [c] <+: cursor.rest := fun hle =>
        hp ((List.prefix_append _ _).trans hle)
      by_cases hcl : closing = []
      · simp [hp, hcl]
      · simp [hp, hcl, ih (beginning ++ [c]) hcl cursor next, hnot]

/-- The pattern of a step takes the step ahead. -/
theorem takes_step {closing : Text} (hc : closing ≠ []) :
    Takes (step closing) (stepLength? closing) := by
  intro cursor next
  have h := takes_choice_steps [] closing hc cursor next
  simpa [step, run] using h

/-! ## Whole bodies -/

/-- A body is what steps lead through. -/
theorem leads_iff_body {closing t : Text} {n : Nat} :
    Leads (stepLength? closing) t n ↔ n ≤ t.length ∧ Body closing (t.take n) := by
  constructor
  · intro h
    refine ⟨h.le_length (advances_stepLength? closing), ?_⟩
    induction h with
    | stop t => exact .nil
    | @round t m n hm _ ih =>
      obtain ⟨beginning, c, d, rest, hb, hd, rfl, rfl⟩ := stepLength?_eq_some_iff.mp hm
      have htake : (beginning ++ d :: rest).take (beginning.length + 1 + n) =
          beginning ++ d :: rest.take n := by
        rw [Nat.add_assoc, List.take_length_add_append, Nat.add_comm 1, List.take_succ_cons]
      have hdrop : (beginning ++ d :: rest).drop (beginning.length + 1) = rest := by
        rw [List.drop_length_add_append, List.drop_succ_cons, List.drop_zero]
      rw [hdrop] at ih
      rw [htake]
      exact .step hb hd ih
  · rintro ⟨hn, hbody⟩
    generalize hx : t.take n = x at hbody
    induction hbody generalizing t n with
    | nil =>
      have : n = 0 := by
        have := congrArg List.length hx
        rw [List.length_take, List.length_nil] at this
        omega
      subst this
      exact .stop t
    | @step beginning c d rest hb hd _ ih =>
      have hlen : n = beginning.length + 1 + rest.length := by
        have := congrArg List.length hx
        rw [List.length_take] at this
        simp only [List.length_append, List.length_cons] at this
        omega
      have ht : t = beginning ++ d :: (rest ++ t.drop n) := by
        calc t = t.take n ++ t.drop n := (List.take_append_drop n t).symm
          _ = beginning ++ d :: (rest ++ t.drop n) := by
            rw [hx, List.append_assoc, List.cons_append]
      have hstep : stepLength? closing t = some (beginning.length + 1) :=
        stepLength?_eq_some_iff.mpr ⟨beginning, c, d, _, hb, hd, ht, rfl⟩
      have hdrop : t.drop (beginning.length + 1) = rest ++ t.drop n := by
        have h := congrArg (List.drop (beginning.length + 1)) ht
        exact h.trans (by rw [List.drop_length_add_append, List.drop_succ_cons, List.drop_zero])
      rw [hlen]
      refine .round hstep (ih ?_ ?_)
      · rw [hdrop, List.length_append]
        omega
      · rw [hdrop, List.take_left]

/-- Steps lead through a body whatever stands behind it. -/
theorem Body.leads {closing x : Text} (h : Body closing x) (rest : Text) :
    Leads (stepLength? closing) (x ++ rest) x.length :=
  leads_iff_body.mpr ⟨by rw [List.length_append]; omega, by rw [List.take_left]; exact h⟩

/-- A text is a body just where it is a body after its first step. -/
theorem body_iff_of_stepLength? {closing t : Text} {n : Nat}
    (h : stepLength? closing t = some n) : Body closing t ↔ Body closing (t.drop n) := by
  have hdrop (beginning : Text) (d : Char) (rest : Text) :
      (beginning ++ d :: rest).drop (beginning.length + 1) = rest := by
    rw [List.drop_length_add_append, List.drop_succ_cons, List.drop_zero]
  constructor
  · rintro (_ | @⟨beginning, c, d, rest, hb, hd, hrest⟩)
    · have hle := (advances_stepLength? closing _ _ h)
      rw [List.length_nil] at hle
      omega
    · have hstep := stepLength?_eq_some_iff.mpr ⟨beginning, c, d, rest, hb, hd, rfl, rfl⟩
      rw [Option.some.inj (h.symm.trans hstep), hdrop]
      exact hrest
  · obtain ⟨beginning, c, d, rest, hb, hd, rfl, rfl⟩ := stepLength?_eq_some_iff.mp h
    rw [hdrop]
    exact .step hb hd

/-- A text without a first step is a body only where it is empty. -/
theorem body_iff_of_stepLength?_eq_none {closing t : Text} (h : stepLength? closing t = none) :
    Body closing t ↔ t = [] := by
  constructor
  · rintro (_ | @⟨beginning, c, d, rest, hb, hd, _⟩)
    · rfl
    · rw [stepLength?_eq_some_iff.mpr ⟨beginning, c, d, rest, hb, hd, rfl, rfl⟩] at h
      exact nomatch h
  · rintro rfl
    exact .nil

/-- Behind a body a text is a body just where it is one by itself. -/
theorem body_append_iff {closing x y : Text} (hx : Body closing x) :
    Body closing (x ++ y) ↔ Body closing y := by
  induction hx with
  | nil => rfl
  | @step beginning c d rest hb hd _ ih =>
    have hstep : stepLength? closing (beginning ++ d :: (rest ++ y)) =
        some (beginning.length + 1) :=
      stepLength?_eq_some_iff.mpr ⟨beginning, c, d, _, hb, hd, rfl, rfl⟩
    rw [List.append_assoc, List.cons_append, body_iff_of_stepLength? hstep,
      List.drop_length_add_append, List.drop_succ_cons, List.drop_zero, ih]

/-- A text without the first character of the closing delimiter is a body. -/
theorem body_of_head_notMem {c : Char} {closing x : Text} (h : c ∉ x) : Body (c :: closing) x := by
  induction x with
  | nil => exact .nil
  | cons d x ih =>
    have hd : d ≠ c := fun he => h (by rw [he]; exact List.mem_cons_self)
    have hb : [] ++ [c] <+: c :: closing := ⟨closing, rfl⟩
    exact Body.step hb hd (ih fun hm => h (List.mem_cons_of_mem d hm))

/-- A text without any character of the closing delimiter is a body. -/
theorem body_of_forall_notMem {closing x : Text} (hne : closing ≠ []) (h : ∀ c ∈ x, c ∉ closing) :
    Body closing x := by
  obtain ⟨c, more, rfl⟩ := List.exists_cons_of_ne_nil hne
  exact body_of_head_notMem fun hm => h c hm List.mem_cons_self

variable {pair : Pair} {name : Text} {cursor : Cursor} {next : Cursor → Option Cursor}

/-- Where a step is possible no closing delimiter is found. -/
theorem run_capture_closing_eq_none {opened later : Cursor}
    (h : stepLength? pair.closing later.rest ≠ none) :
    (literal pair.closing).run (Cursor.capture name opened later) next = none := by
  have hnot : ¬ pair.closing <+: later.rest := fun hp => h (stepLength?_eq_none_iff.mpr (.inl hp))
  rw [run_literal, Cursor.capture]
  simp only [hnot, ite_false]

private theorem run_body_closing (hc : pair.closing ≠ []) (cursor : Cursor)
    (next : Cursor → Option Cursor) {n : Nat}
    (hn : Leads (stepLength? pair.closing) cursor.rest n)
    (hlast : stepLength? pair.closing (cursor.rest.drop n) = none) :
    (seq (group (some name) (body pair.closing)) (literal pair.closing)).run cursor next =
      if pair.closing <+: cursor.rest.drop n then
        next ((cursor.skip (n + pair.closing.length)).note name cursor.rest n)
      else none := by
  have hle := hn.le_length (advances_stepLength? _)
  rw [run, run, body, run_star_of_last (takes_step hc) (advances_stepLength? _) _
    (fun _ => run_capture_closing_eq_none) hn hlast, run_literal, Cursor.capture_skip hle,
    Cursor.rest_note, Cursor.rest_skip]
  by_cases hp : pair.closing <+: cursor.rest.drop n
  · simp only [hp, ite_true, Cursor.skip_note, Cursor.skip_skip]
  · simp only [hp, ite_false]

/-- The text ahead begins with a token of this body. -/
def Ahead (pair : Pair) (x rest t : Text) : Prop :=
  Body pair.closing x ∧ t = pair.opening ++ (x ++ (pair.closing ++ rest))

/-- A token ahead is found, and its body captured. -/
theorem run_inline_of_ahead (hc : pair.closing ≠ []) {x rest : Text}
    (h : Ahead pair x rest cursor.rest) :
    (inline pair name).run cursor next = next ((cursor.skip (pair.wrap x).length).note name
      (x ++ (pair.closing ++ rest)) x.length) := by
  obtain ⟨hx, ht⟩ := h
  have hdrop : (cursor.skip pair.opening.length).rest = x ++ (pair.closing ++ rest) := by
    rw [Cursor.rest_skip, ht, List.drop_left]
  have hlast : stepLength? pair.closing ((x ++ (pair.closing ++ rest)).drop x.length) = none := by
    rw [List.drop_left]
    exact stepLength?_eq_none_iff.mpr (.inl (List.prefix_append _ _))
  have hopen : pair.opening <+: cursor.rest := by rw [ht]; exact List.prefix_append _ _
  have hclose : pair.closing <+: (x ++ (pair.closing ++ rest)).drop x.length := by
    rw [List.drop_left]
    exact List.prefix_append _ _
  rw [inline, run, run_literal, if_pos hopen,
    run_body_closing hc _ next (n := x.length) (by rw [hdrop]; exact hx.leads _)
      (by rw [hdrop]; exact hlast), hdrop, if_pos hclose, Cursor.skip_skip, ← Nat.add_assoc]
  simp only [Pair.wrap, List.length_append]

/-- Where no token is ahead, none is found. -/
theorem run_inline_eq_none (hc : pair.closing ≠ [])
    (h : ∀ x rest, ¬ Ahead pair x rest cursor.rest) :
    (inline pair name).run cursor next = none := by
  rw [inline, run, run_literal]
  by_cases hopen : pair.opening <+: cursor.rest
  · obtain ⟨ahead, ha⟩ := hopen
    obtain ⟨n, hn, hlast⟩ := exists_leads_last (advances_stepLength? pair.closing) ahead
    have hdrop : (cursor.skip pair.opening.length).rest = ahead := by
      rw [Cursor.rest_skip, ← ha, List.drop_left]
    rw [if_pos ⟨ahead, ha⟩, run_body_closing hc _ next (n := n)
      (by rw [hdrop]; exact hn) (by rw [hdrop]; exact hlast), hdrop, if_neg]
    rintro ⟨rest, hrest⟩
    refine h (ahead.take n) rest ⟨(leads_iff_body.mp hn).2, ?_⟩
    rw [hrest, List.take_append_drop, ha]
  · rw [if_neg hopen]

end Grammar

end Stencil
