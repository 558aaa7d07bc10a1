import Stencil.Proofs.Grammar.Scan
import Stencil.Proofs.Text.Cut
import Stencil.Proofs.Token.First

/-!
# Tokens by scanning

The tokens of a text are found by going from one opening delimiter to the next and scanning for the
closing one behind it, without trying anything twice.
-/

namespace Stencil

open Grammar Pattern

namespace Grammar

/-- A token whose body takes as many steps as possible, or as few. -/
def inlinePreferring (preference : Preference) (pair : Pair) (name : Text) : Pattern :=
  seq (literal pair.opening)
    (seq (group (some name) (star preference (step pair.closing))) (literal pair.closing))

/-- Whether a body prefers many steps or few makes no difference: as long as a step is possible, the
closing delimiter is not there. -/
theorem run_inlinePreferring {pair : Pair} (hc : pair.closing ≠ []) (preference : Preference)
    (name : Text) (cursor : Cursor) (next : Cursor → Option Cursor) :
    (inlinePreferring preference pair name).run cursor next =
      (inline pair name).run cursor next := by
  have hbody (opened : Cursor) :
      (seq (group (some name) (star preference (step pair.closing)))
          (literal pair.closing)).run opened next =
        (seq (group (some name) (star .longest (step pair.closing)))
          (literal pair.closing)).run opened next :=
    run_star_preference (takes_step hc) (advances_stepLength? pair.closing)
      (fun _ => run_capture_closing_eq_none) preference .longest
  rw [inlinePreferring, inline, run, run]
  simp only [hbody, body]

end Grammar

namespace Token

variable {pair : Pair} {t : Text}

/-- The body of the token that a text begins with. -/
def bodyAhead? (pair : Pair) (t : Text) : Option Text :=
  (Text.stripPrefix? pair.opening t).bind (scanBody? pair.closing)

/-- The tokens of a text after the next `skip` characters, in which no token may begin: each begins
at the first opening delimiter from which a body can be scanned. -/
def scanFrom (pair : Pair) : (position skip : Nat) → Text → List Token
  | _, _, [] => []
  | position, skip + 1, _ :: rest => scanFrom pair (position + 1) skip rest
  | position, 0, c :: rest =>
    match bodyAhead? pair (c :: rest) with
    | none => scanFrom pair (position + 1) 0 rest
    | some body =>
      ⟨position, position + (pair.wrap body).length, body⟩ ::
        scanFrom pair (position + 1) ((pair.wrap body).length - 1) rest

/-- The tokens of a text, scanned from left to right. -/
def scan (pair : Pair) (t : Text) : List Token := scanFrom pair 0 0 t

/-- A body is scanned just where a token is ahead. -/
theorem bodyAhead?_eq_some_iff {x : Text} :
    bodyAhead? pair t = some x ↔ ∃ rest, Ahead pair x rest t := by
  simp only [bodyAhead?, Option.bind_eq_some_iff, Text.stripPrefix?_eq_some_iff,
    scanBody?_eq_some_iff]
  constructor
  · rintro ⟨_, rfl, hx, rest, rfl⟩
    exact ⟨rest, hx, by rw [List.append_assoc]⟩
  · rintro ⟨rest, hx, rfl⟩
    exact ⟨_, rfl, hx, rest, by rw [List.append_assoc]⟩

private theorem matchAfter?_eq_none_of_bodyAhead? (hc : pair.closing ≠ []) {last : Option Nat}
    {cursor : Cursor} (h : bodyAhead? pair cursor.rest = none) :
    (inline pair nameGroup).matchAfter? last cursor = none := by
  refine matchAfter?_eq_none_of_not_ahead hc fun x rest hahead => ?_
  rw [bodyAhead?_eq_some_iff.mpr ⟨rest, hahead⟩] at h
  exact nomatch h

private theorem exists_matchAfter?_of_bodyAhead? (ho : pair.opening ≠ []) (hc : pair.closing ≠ [])
    {last : Option Nat} {position : Nat} (previous : Option Char) (hlast : last.getD 0 ≤ position)
    {x : Text} (h : bodyAhead? pair t = some x) :
    ∃ m, (inline pair nameGroup).matchAfter? last ⟨position, previous, t, []⟩ = some m ∧
      m.start = position ∧ m.stop = position + (pair.wrap x).length ∧ m.group nameGroup = x := by
  obtain ⟨rest, hahead⟩ := bodyAhead?_eq_some_iff.mp h
  obtain ⟨later, hmatch, hstop, hx⟩ :=
    exists_matchAt?_of_ahead hc ⟨position, previous, t, []⟩ hahead
  have hstop : later.position = position + (pair.wrap x).length := hstop
  have hpos := List.length_pos_iff.mpr (Pair.wrap_ne_nil ho x)
  have hafter : position < later.position := by omega
  exact ⟨_, matchAfter?_of_matchAt? hlast hmatch hafter, rfl, hstop, hx _ _⟩

private theorem map_matchesFrom_inline (ho : pair.opening ≠ []) (hc : pair.closing ≠ []) (t : Text)
    (last : Option Nat) (position : Nat) (previous : Option Char) :
    ((inline pair nameGroup).matchesFrom last position previous t).map
        (fun m => (⟨m.start, m.stop, m.group nameGroup⟩ : Token)) =
      scanFrom pair position (last.getD 0 - position) t := by
  induction t generalizing last position previous with
  | nil =>
    have hnone : bodyAhead? pair [] = none := by
      simp [bodyAhead?, Text.stripPrefix?, ho]
    rw [matchesFrom, matchAfter?_eq_none_of_bodyAhead? hc hnone]
    rfl
  | cons c rest ih =>
    -- Nothing is found here, and the scan goes on as the matches do.
    have hskip (hnone : (inline pair nameGroup).matchAfter? last
          ⟨position, previous, c :: rest, []⟩ = none) :
        ((inline pair nameGroup).matchesFrom last position previous (c :: rest)).map
            (fun m => (⟨m.start, m.stop, m.group nameGroup⟩ : Token)) =
          scanFrom pair (position + 1) (last.getD 0 - (position + 1)) rest := by
      rw [matchesFrom, hnone]
      exact ih last (position + 1) (some c)
    by_cases hlast : last.getD 0 ≤ position
    · rw [Nat.sub_eq_zero_of_le hlast, scanFrom]
      cases hbody : bodyAhead? pair (c :: rest) with
      | none =>
        rw [hskip (matchAfter?_eq_none_of_bodyAhead? hc hbody), Nat.sub_eq_zero_of_le (by omega)]
      | some x =>
        obtain ⟨m, hm, hstart, hstop, hgroup⟩ :=
          exists_matchAfter?_of_bodyAhead? ho hc previous hlast hbody
        have hleft : m.stop - (position + 1) = (pair.wrap x).length - 1 := by omega
        simp only [matchesFrom, hm, List.map_cons, hstart, hstop, hgroup]
        rw [← hstop, ih, Option.getD_some, hleft]
    · obtain ⟨skip, hleft⟩ := Nat.exists_eq_succ_of_ne_zero (n := last.getD 0 - position) (by omega)
      rw [hskip (matchAfter?_eq_none_of_lt (Nat.not_le.mp hlast)), hleft, scanFrom]
      congr 1
      omega

/-- The search for tokens never has to choose. Behind an opening delimiter there is at most one body
before a closing one, the text that a scan passes over; the tokens of a text are those of a scan from
left to right; and bodies that prefer few steps give the same matches. -/
theorem unambiguous (ho : pair.opening ≠ []) (hc : pair.closing ≠ []) :
    (∀ rest x, (Grammar.body pair.closing).MatchesWhole x ∧ x ++ pair.closing <+: rest ↔
      scanBody? pair.closing rest = some x) ∧
    (∀ t, all pair t = scan pair t) ∧
    ∀ preference t, (inlinePreferring preference pair nameGroup).occurrences t =
      (inline pair nameGroup).occurrences t := by
  refine ⟨fun rest x => ?_, fun t => ?_, fun preference t => ?_⟩
  · rw [matchesWhole_body_iff hc, scanBody?_eq_some_iff]
  · exact map_matchesFrom_inline ho hc t none 0 none
  · exact occurrences_congr (run_inlinePreferring hc preference nameGroup) t

/-- A closing delimiter that overlaps itself: behind the second opening one nothing is found, since
the first step takes the letters shared with the closing delimiter and one of its own. -/
theorem unambiguous_overlapping :
    let pair : Pair := ⟨['<'], "aab".toList⟩
    pair.opening ≠ [] ∧ pair.closing ≠ [] ∧
      all pair "<xaab<aaab".toList = [⟨0, 5, ['x']⟩] ∧
      (inlinePreferring .shortest pair nameGroup).occurrences "<xaab<aaab".toList =
        (inline pair nameGroup).occurrences "<xaab<aaab".toList := by
  intro pair
  have ho : pair.opening ≠ [] := List.cons_ne_nil _ _
  have hc : pair.closing ≠ [] := List.cons_ne_nil _ _
  obtain ⟨_, hscan, hlazy⟩ := unambiguous ho hc
  refine ⟨ho, hc, ?_, hlazy .shortest _⟩
  rw [hscan]
  decide +kernel

end Token

end Stencil
