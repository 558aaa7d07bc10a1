import Stencil.Proofs.Delimiter
import Stencil.Proofs.Dictionary
import Stencil.Proofs.Text.Replace
import Stencil.Proofs.Token.First
import Stencil.Substitution

/-!
# Simultaneous substitution

Variables are substituted one after another, each in the text that the ones before it left. Where
only tokens hold characters of the opening delimiter, that is the same as putting all values in at
once, in whatever order the variables come: every replacement reaches the tokens of its name and
nothing else, and what it writes is not looked at again.
-/

namespace Stencil

open Dictionary

/-- A part of a text: characters that stand for themselves, or a token. -/
inductive Passage
  | literal (t : Text)
  | token (name : Text)
  deriving DecidableEq, Repr

namespace Passage

/-- The text of a passage. -/
def text (pair : Pair) : Passage → Text
  | literal t => t
  | token name => pair.wrap name

/-- The text of passages one after another. -/
def join (pair : Pair) (passages : List Passage) : Text := passages.flatMap (text pair)

/-- What variables make of a passage: the text of the value in place of a token that has one. -/
def fill (vars : List (Text × Value)) : Passage → Passage
  | literal t => literal t
  | token name =>
    match find? name vars with
    | some value => literal value.display
    | none => token name

/-- The name of a token. -/
def name? : Passage → Option Text
  | literal _ => none
  | token name => some name

/-- The name of a token that stands for nothing. -/
def missing? (vars : List (Text × Value)) : Passage → Option Text
  | literal _ => none
  | token name => if contains name vars then none else some name

/-- Passages that cannot be taken for each other, neither now nor when they are filled: literals and
values hold no character of the opening delimiter, and names none of either delimiter. -/
def Plain (pair : Pair) (vars : List (Text × Value)) : Passage → Prop
  | literal t => ∀ c ∈ t, c ∉ pair.opening
  | token name => pair.Free name ∧
      ∀ value ∈ find? name vars, ∀ c ∈ value.display, c ∉ pair.opening

instance (pair : Pair) (vars : List (Text × Value)) : DecidablePred (Plain pair vars)
  | literal t => List.decidableBAll (fun c : Char => c ∉ pair.opening) t
  | token name => decidable_of_iff (pair.Free name ∧
      (find? name vars).all fun value => value.display.all (· ∉ pair.opening))
    (by cases h : find? name vars <;> simp [Plain, h])

variable {pair : Pair} {vars : List (Text × Value)} {s : Passage} {passages : List Passage}

theorem join_cons : join pair (s :: passages) = s.text pair ++ join pair passages := rfl

/-- Without variables every passage stays as it is. -/
theorem fill_nil : fill [] = id := funext fun s => by cases s <;> rfl

/-- Variables fill a passage one after another. -/
theorem fill_fill (b : Text × Value) (vars : List (Text × Value)) (s : Passage) :
    (s.fill [b]).fill vars = s.fill (b :: vars) := by
  cases s with
  | literal t => rfl
  | token name => by_cases h : b.1 = name <;> simp [fill, find?, h]

/-- The tokens that are left are those whose names stand for nothing. -/
theorem name?_fill (vars : List (Text × Value)) (s : Passage) :
    (s.fill vars).name? = s.missing? vars := by
  cases s with
  | literal t => rfl
  | token name => cases h : find? name vars <;> simp [fill, missing?, name?, contains, h]

/-- A passage stays plain when it is filled with the first of its variables. -/
theorem Plain.fill_head {b : Text × Value} (h : s.Plain pair (b :: vars)) :
    (s.fill [b]).Plain pair vars := by
  cases s with
  | literal t => exact h
  | token name =>
    obtain ⟨hfree, hvalue⟩ := h
    by_cases hname : b.1 = name
    · simpa [fill, find?, hname, Plain] using hvalue b.2 (by simp [find?, hname])
    · simpa [fill, find?, hname, Plain] using And.intro hfree hvalue

/-- Filled passages are plain whatever else is filled in. -/
theorem Plain.filled (h : s.Plain pair vars) : (s.fill vars).Plain pair [] := by
  cases s with
  | literal t => exact h
  | token name =>
    cases hfind : find? name vars with
    | none => simpa [fill, hfind, Plain] using h.1
    | some value => simpa [fill, hfind, Plain] using h.2 value hfind

section Agree

variable {vars' : List (Text × Value)} (hfind : ∀ name, find? name vars = find? name vars')

include hfind

/-- Variables that are looked up alike fill alike. -/
theorem fill_congr : fill vars = fill vars' := funext fun s => by
  cases s with
  | literal t => rfl
  | token name => simp only [fill, hfind]

/-- Passages are plain among variables that are looked up alike. -/
theorem Plain.congr (h : s.Plain pair vars') : s.Plain pair vars := by
  cases s with
  | literal t => exact h
  | token name =>
    obtain ⟨hfree, hvalue⟩ := h
    exact ⟨hfree, by rwa [hfind]⟩

end Agree

/-! ## One variable -/

/-- Substituting a variable fills the tokens of its name and leaves everything else as it is. -/
theorem substitute_join (hp : pair.Apart) {b : Text × Value} (hb : pair.Free b.1)
    (h : ∀ s ∈ passages, s.Plain pair vars) :
    substitute pair (join pair passages) b = join pair (passages.map (fill [b])) := by
  have hne := Pair.wrap_ne_nil hp.opening_ne_nil b.1
  unfold substitute
  induction passages with
  | nil => exact Text.replace_nil hne
  | cons s passages ih =>
    obtain ⟨hs, hpassages⟩ := List.forall_mem_cons.mp h
    rw [join_cons, List.map_cons, join_cons, ← ih hpassages]
    -- A literal has no place where a token begins, a token none where another one does.
    cases s with
    | literal t =>
      refine Text.replace_append_left hne fun v hv hnil => ?_
      obtain ⟨c, v, rfl⟩ := List.exists_cons_of_ne_nil hnil
      exact Pair.wrap_not_isPrefix_cons hp.opening_ne_nil (hs c (hv.subset List.mem_cons_self))
    | token name =>
      by_cases hname : b.1 = name
      · subst hname
        simp only [fill, find?, ite_true, text]
        exact Text.replace_append hne _
      · simp only [fill, find?, hname, ite_false, text]
        exact Text.replace_append_left hne fun v hv hnil =>
          Pair.wrap_not_isPrefix hp hb hs.1 hname hv hnil

/-! ## All variables -/

/-- Substituting variables one after another fills every passage with them. -/
theorem substituteAll_join (hp : pair.Apart) (hvars : ∀ b ∈ vars, pair.Free b.1)
    (h : ∀ s ∈ passages, s.Plain pair vars) :
    substituteAll pair vars (join pair passages) = join pair (passages.map (fill vars)) := by
  induction vars generalizing passages with
  | nil => rw [fill_nil, List.map_id]; rfl
  | cons b vars ih =>
    obtain ⟨hb, hvars⟩ := List.forall_mem_cons.mp hvars
    have hfilled : ∀ s ∈ passages.map (fill [b]), s.Plain pair vars :=
      List.forall_mem_map.mpr fun s hs => (h s hs).fill_head
    calc substituteAll pair (b :: vars) (join pair passages)
        = substituteAll pair vars (substitute pair (join pair passages) b) := rfl
      _ = substituteAll pair vars (join pair (passages.map (fill [b]))) := by
          rw [substitute_join hp hb h]
      _ = join pair ((passages.map (fill [b])).map (fill vars)) := ih hvars hfilled
      _ = join pair (passages.map (fill (b :: vars))) := by
          rw [List.map_map]
          exact congrArg (join pair) (List.map_congr_left fun s _ => fill_fill b vars s)

private theorem notMem_opening_join (h : ∀ s ∈ passages, s.Plain pair vars)
    (hname : ∀ s ∈ passages, s.name? = none) : ∀ c ∈ join pair passages, c ∉ pair.opening := by
  intro c hc
  obtain ⟨s, hs, hc⟩ := List.mem_flatMap.mp hc
  cases s with
  | literal t => exact h _ hs c hc
  | token name => exact nomatch hname _ hs

/-- The first token found is the first of the passages that are tokens. -/
theorem first?_join (hp : pair.Apart) (h : ∀ s ∈ passages, s.Plain pair vars) :
    (Token.first? pair (join pair passages)).map Token.body = passages.findSome? name? := by
  cases hfirst : passages.findSome? name? with
  | none =>
    have hnot := notMem_opening_join h (List.findSome?_eq_none_iff.mp hfirst)
    rw [Token.first?_eq_none_of_forall_notMem hp.usable hnot, Option.map_none]
  | some name =>
    obtain ⟨before, s, after, rfl, hs, hbefore⟩ := List.findSome?_eq_some_iff.mp hfirst
    obtain ⟨hplain, hrest⟩ := List.forall_mem_append.mp h
    cases s with
    | literal t => exact nomatch hs
    | token other =>
      obtain rfl : other = name := Option.some.inj hs
      have hfree : pair.Free other := (hrest _ List.mem_cons_self).1
      obtain ⟨token, htoken, hbody⟩ := Token.first?_append_wrap hp.usable
        (notMem_opening_join hplain hbefore) (fun c hc => (hfree c hc).2) (join pair after)
      have hjoin : join pair (before ++ Passage.token other :: after) =
          join pair before ++ (pair.wrap other ++ join pair after) := List.flatMap_append
      rw [hjoin, htoken, Option.map_some, hbody]

/-- Filling the tokens of a text fills its passages; strict mode asks that no token is left. -/
theorem fillTokens_join (hp : pair.Apart) (hvars : ∀ b ∈ vars, pair.Free b.1)
    (h : ∀ s ∈ passages, s.Plain pair vars) (strict : Bool) :
    fillTokens (join pair passages) vars pair strict =
      match if strict then passages.findSome? (missing? vars) else none with
      | some name => .error (.missingVariable name)
      | none => .ok (join pair (passages.map (fill vars))) := by
  have hfirst := first?_join hp (List.forall_mem_map.mpr fun s hs => (h s hs).filled)
  rw [List.findSome?_map, show name? ∘ fill vars = missing? vars from funext (name?_fill vars)]
    at hfirst
  rw [fillTokens, substituteAll_join hp hvars h]
  cases strict with
  | false => rfl
  | true =>
    rw [if_pos rfl, if_pos rfl, ← hfirst]
    cases Token.first? pair (join pair (passages.map (fill vars))) <;> rfl

/-- Substitution is simultaneous. In whatever order the variables come, the text that is left is the
given one with the text of its value in place of every token that has one; that is what filling
gives, and in strict mode the first token without a value is refused. -/
theorem substitution_simultaneous {vars : Variables} (hp : pair.Apart) (hordered : Ordered vars)
    (hvars : ∀ b ∈ vars, pair.Free b.1) (h : ∀ s ∈ passages, s.Plain pair vars) :
    (∀ order, order.Perm vars →
      substituteAll pair order (join pair passages) = join pair (passages.map (fill vars))) ∧
    fillTokens (join pair passages) vars pair false = .ok (join pair (passages.map (fill vars))) ∧
    fillTokens (join pair passages) vars pair true =
      match passages.findSome? (missing? vars) with
      | some name => .error (.missingVariable name)
      | none => .ok (join pair (passages.map (fill vars))) := by
  refine ⟨fun order hperm => ?_, fillTokens_join hp hvars h false, fillTokens_join hp hvars h true⟩
  have hfind (name : Text) : find? name order = find? name vars :=
    find?_eq_of_perm hperm hordered.functional
  have hfree : ∀ b ∈ order, pair.Free b.1 := fun b hb => hvars b (hperm.mem_iff.mp hb)
  rw [substituteAll_join hp hfree fun s hs => (h s hs).congr hfind, fill_congr hfind]

/-- Two variables, the last first; one value looks like the end of a token and one token has no
value. -/
theorem substitution_simultaneous_reversed :
    let pair : Pair := ⟨"\x7b\x7b".toList, "\x7d\x7d".toList⟩
    let vars : Variables := [("a".toList, .string "\x7d\x7d".toList), ("b".toList, .bool true)]
    let passages := [literal "\x7d ".toList, token "b".toList, token "a".toList, token "c".toList]
    substituteAll pair vars.reverse (join pair passages) =
        "\x7d true\x7d\x7d\x7b\x7bc\x7d\x7d".toList ∧
      fillTokens (join pair passages) vars pair true = .error (.missingVariable "c".toList) := by
  intro pair vars passages
  have hp : pair.Apart := ⟨by decide, by simp [pair]⟩
  have hordered : Ordered vars := by decide
  have hvars : ∀ b ∈ vars, pair.Free b.1 := by decide
  have h : ∀ s ∈ passages, s.Plain pair vars := by decide
  obtain ⟨hany, _, hstrict⟩ := substitution_simultaneous hp hordered hvars h
  exact ⟨hany _ vars.reverse_perm, hstrict⟩

end Passage

end Stencil
