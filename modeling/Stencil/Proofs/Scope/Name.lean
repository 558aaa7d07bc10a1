import Stencil.Proofs.Dictionary
import Stencil.Proofs.Scope.Piece
import Stencil.Proofs.Scope.Tokenized

/-!
# Names of iterations

The name an iteration gives to a key tells the iteration, and with loop names that do not continue
each other also the loop and the key. So in the flat variables each such name stands for the entry
it was made for, and renaming followed by a look-up there is a look-up by scope.
-/

namespace Stencil

private theorem append_cons_inj {c : Char} {a b x y : Text} (hx : c ∉ x) (hy : c ∉ y)
    (h : a ++ c :: x = b ++ c :: y) : a = b ∧ x = y := by
  rcases List.append_eq_append_iff.mp h with ⟨z, rfl, hz⟩ | ⟨z, rfl, hz⟩
  · cases z with
    | nil => exact ⟨(List.append_nil a).symm, (List.cons.inj hz).2⟩
    | cons d z =>
      refine absurd ?_ hx
      rw [(List.cons.inj hz).2]
      exact List.mem_append_right z List.mem_cons_self
  · cases z with
    | nil => exact ⟨List.append_nil b, (List.cons.inj hz).2.symm⟩
    | cons d z =>
      refine absurd ?_ hy
      rw [(List.cons.inj hz).2]
      exact List.mem_append_right z List.mem_cons_self

/-- The name of an iteration tells the number of the iteration and the qualified name. -/
theorem iterationName_inj {loop key loop' key' : Text} {i i' : Nat}
    (h : iterationName loop key i = iterationName loop' key' i') :
    Loop.qualifiedName loop key = Loop.qualifiedName loop' key' ∧ i = i' := by
  have hnot (n : Nat) : '_' ∉ Text.ofNat n := by
    rw [Text.ofNat_eq_toDigits]
    exact Nat.underscore_not_in_toDigits
  exact (append_cons_inj (hnot i) (hnot i') h).imp_right Text.ofNat_inj

/-- Two iterations give the same name just if their numbers and qualified names are the same. -/
theorem iterationName_eq_iff {loop key loop' key' : Text} {i i' : Nat} :
    iterationName loop key i = iterationName loop' key' i' ↔
      i = i' ∧ Loop.qualifiedName loop key = Loop.qualifiedName loop' key' := by
  refine ⟨fun h => (iterationName_inj h).symm, ?_⟩
  rintro ⟨rfl, hqualified⟩
  have happend := congrArg (· ++ '_' :: Text.ofNat i) hqualified
  simpa only [Loop.qualifiedName, iterationName, List.append_assoc, List.cons_append] using happend

/-- Within a loop the name of an iteration tells the key and the number. -/
theorem iterationName_left_inj {loop key key' : Text} {i i' : Nat}
    (h : iterationName loop key i = iterationName loop key' i') : key = key' ∧ i = i' := by
  obtain ⟨hqualified, hindex⟩ := iterationName_inj h
  exact ⟨(List.cons.inj (List.append_cancel_left hqualified)).2, hindex⟩

/-- Where no loop name continues the other, a qualified name tells the loop and the key. -/
theorem qualifiedName_inj {loop key loop' key' : Text} (hl : ¬ loop ++ ['_'] <+: loop')
    (hl' : ¬ loop' ++ ['_'] <+: loop)
    (h : Loop.qualifiedName loop key = Loop.qualifiedName loop' key') :
    loop = loop' ∧ key = key' := by
  rcases List.append_eq_append_iff.mp h with ⟨x, rfl, hx⟩ | ⟨x, rfl, hx⟩
  · cases x with
    | nil => exact ⟨(List.append_nil loop).symm, (List.cons.inj hx).2⟩
    | cons c x =>
      have hc : '_' = c := (List.cons.inj hx).1
      exact absurd ⟨x, by rw [hc, List.append_assoc]; rfl⟩ hl
  · cases x with
    | nil => exact ⟨List.append_nil loop', (List.cons.inj hx).2.symm⟩
    | cons c x =>
      have hc : '_' = c := (List.cons.inj hx).1
      exact absurd ⟨x, by rw [hc, List.append_assoc]; rfl⟩ hl'

namespace Loop

/-- An iteration of the loop binds a key. -/
def Binds (l : Loop) (key : Text) (index : Nat) : Prop :=
  ∃ element, l.elements[index]? = some element ∧ key ∈ Dictionary.keys element

/-- The keys that the iterations of a loop bind, each with the number of its iteration. -/
def boundKeys (l : Loop) : List (Text × Nat) :=
  l.elements.zipIdx.flatMap fun (element, i) => (Dictionary.keys element).map fun k => (k, i)

/-- The bound keys are those that an iteration binds. -/
theorem mem_boundKeys_iff {l : Loop} {k : Text} {i : Nat} : (k, i) ∈ l.boundKeys ↔ l.Binds k i := by
  constructor
  · intro h
    obtain ⟨⟨element, j⟩, helement, h⟩ := List.mem_flatMap.mp h
    obtain ⟨k', hk, heq⟩ := List.mem_map.mp h
    obtain ⟨rfl, rfl⟩ := Prod.mk.inj heq
    exact ⟨element, List.mem_zipIdx_iff_getElem?.mp helement, hk⟩
  · rintro ⟨element, helement, hk⟩
    exact List.mem_flatMap.mpr ⟨(element, i), List.mem_zipIdx_iff_getElem?.mpr helement,
      List.mem_map.mpr ⟨k, hk, rfl⟩⟩

/-- Bound keys are looked at one after another. -/
theorem forall_binds_iff {l : Loop} {P : Nat → Text → Prop} :
    (∀ i k, l.Binds k i → P i k) ↔ ∀ b ∈ l.boundKeys, P b.2 b.1 :=
  ⟨fun h b hb => h b.2 b.1 (mem_boundKeys_iff.mp hb),
    fun h i k hk => h (k, i) (mem_boundKeys_iff.mpr hk)⟩

end Loop

/-- Variables and loops whose iterations can be given names that are taken for nothing else. -/
structure Separate (vars : Variables) (loops : List Loop) : Prop where
  /-- The variables are a dictionary. -/
  ordered : Dictionary.Ordered vars
  /-- Every element is one. -/
  elementOrdered : ∀ l ∈ loops, ∀ element ∈ l.elements, Dictionary.Ordered element
  /-- A loop runs over the list that its name stands for. -/
  elements_eq : ∀ l ∈ loops, l.elements = Loop.elementsOf vars l.name
  /-- No key of an iteration is another one followed by the number of the iteration, with the name
  of the loop in front or without. -/
  key_ne : ∀ l ∈ loops, ∀ i k k', l.Binds k i → l.Binds k' i →
    k' ≠ k ++ '_' :: Text.ofNat i ∧ k' ≠ iterationName l.name k i
  /-- No loop name continues another. -/
  loop_not_continued : ∀ l ∈ loops, ∀ l' ∈ loops, ¬ l.name ++ ['_'] <+: l'.name
  /-- No variable but a map has the name of a key of an iteration. -/
  outside_ne : ∀ l ∈ loops, ∀ i k, l.Binds k i → ∀ entry ∈ vars, entry.2.isMap = false →
    entry.1 ≠ iterationName l.name k i

/-- Loops are told apart by a look at the keys that their iterations bind. -/
theorem Separate.of_boundKeys {vars : Variables} {loops : List Loop}
    (ordered : Dictionary.Ordered vars)
    (elements_eq : ∀ l ∈ loops, l.elements = Loop.elementsOf vars l.name)
    (h : ∀ l ∈ loops, (∀ element ∈ l.elements, Dictionary.Ordered element) ∧
      (∀ b ∈ l.boundKeys, (∀ b' ∈ l.boundKeys, b'.2 = b.2 →
          b'.1 ≠ b.1 ++ '_' :: Text.ofNat b.2 ∧ b'.1 ≠ iterationName l.name b.1 b.2) ∧
        ∀ entry ∈ vars, entry.2.isMap = false → entry.1 ≠ iterationName l.name b.1 b.2) ∧
      ∀ l' ∈ loops, ¬ l.name ++ ['_'] <+: l'.name) : Separate vars loops where
  ordered := ordered
  elementOrdered l hl := (h l hl).1
  elements_eq := elements_eq
  key_ne l hl i k k' hk hk' := ((h l hl).2.1 (k, i) (Loop.mem_boundKeys_iff.mpr hk)).1
    (k', i) (Loop.mem_boundKeys_iff.mpr hk') rfl
  loop_not_continued l hl := (h l hl).2.2
  outside_ne l hl := Loop.forall_binds_iff.mpr fun b hb => ((h l hl).2.1 b hb).2

end Stencil
