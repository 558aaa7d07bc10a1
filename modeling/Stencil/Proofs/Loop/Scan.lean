import Stencil.Proofs.Loop.Match

/-!
# Loops by scanning

With closing delimiters of one character, a body ends at the first of them. Then `Loop.read?` reads
just what the loop grammar matches, and all loops of a template are those of the scan from line to
line.
-/

namespace Stencil

open Grammar Pattern

/-- With a closing delimiter of one character, a body is text without it. -/
theorem Grammar.body_singleton_iff {c : Char} {x : Text} : Body [c] x ↔ c ∉ x := by
  constructor
  · intro h
    induction h with
    | nil => exact List.not_mem_nil
    | @step beginning a d rest hb hd _ ih =>
      cases beginning with
      | nil =>
        have hac : a = c := (List.cons_prefix_cons.mp hb).1
        exact List.not_mem_cons_of_ne_of_not_mem (fun hcd => hd (hcd.symm.trans hac.symm)) ih
      | cons b beginning =>
        have hle := hb.length_le
        simp at hle
  · exact body_of_head_notMem

namespace Loop

variable {tag body : Pair} {c d : Char}

/-- With a closing delimiter of one character, a tag is found just where one is ahead. -/
theorem enclosed?_eq_some_iff_ahead (hc : tag.closing = [c]) {t name rest : Text} :
    tag.enclosed? t = some (name, rest) ↔ Ahead tag name rest t := by
  rw [Pair.enclosed?_eq_some_iff hc, Ahead, hc, body_singleton_iff]
  rfl

private theorem joinerAhead?_iff (hp : Plain tag body) (hc : tag.closing = [c])
    {t rest inside : Text} {joiner : Option Text} (ho : opened? body.opening rest = some inside) :
    joinerAhead? tag t = some (joiner, rest) ↔ JoinerAhead tag joiner rest t := by
  cases joiner with
  | none =>
    by_cases hopen : tag.opening <+: t
    · have hne : t ≠ rest := by
        rintro rfl
        rw [opened?_eq_none_of_tag hp hopen] at ho
        exact nomatch ho
      simp [joinerAhead?, JoinerAhead, hopen, hne]
    · simp [joinerAhead?, JoinerAhead, hopen]
  | some joiner =>
    rw [JoinerAhead, ← enclosed?_eq_some_iff_ahead hc]
    by_cases hopen : tag.opening <+: t
    · simp [joinerAhead?, hopen]
    · have hnone : tag.enclosed? t = none := by
        rw [Pair.enclosed?, Option.bind_eq_none_iff]
        intro u hu
        exact absurd ⟨u, (Text.stripPrefix?_eq_some_iff.mp hu).symm⟩ hopen
      simp [joinerAhead?, hopen, hnone]

private theorem closed?_iff (hp : body.Solid) (hd : body.closing = [d]) {t after : Text} :
    closed? body.closing t = some after ↔
      ∃ e, Text.Ending e ∧ Text.upTo? [d] t = some (e, after) := by
  have hspace : Text.isSpace d = false := hp.closing d (by rw [hd]; exact List.mem_cons_self)
  rw [closed?_eq_some_iff hp.closing_ne_nil hp.closing, hd]
  constructor
  · rintro ⟨e, he, hsplit⟩
    have hnot : d ∉ e := fun hm => by
      rw [Text.isBlank_iff.mp he.isBlank d hm] at hspace
      exact nomatch hspace
    exact ⟨e, he, Text.upTo?_eq_some_iff.mpr ⟨hnot, hsplit⟩⟩
  · rintro ⟨e, he, hcut⟩
    exact ⟨e, he, (Text.upTo?_eq_some_iff.mp hcut).2⟩

private theorem closed?_drop_iff (hp : body.Solid) (hd : body.closing = [d])
    {inside region after rest : Text} (h : Text.upTo? [d] inside = some (region, after)) {m : Nat}
    (hm : m ≤ region.length) : closed? body.closing (inside.drop m) = some rest ↔
      Text.Ending (region.drop m) ∧ after = rest := by
  rw [closed?_iff hp hd, Text.upTo?_drop h hm]
  constructor
  · rintro ⟨e, he, heq⟩
    obtain ⟨rfl, rfl⟩ := Prod.mk.inj (Option.some.inj heq)
    exact ⟨he, rfl⟩
  · rintro ⟨he, rfl⟩
    exact ⟨_, he, rfl⟩

private theorem closes_iff (hp : body.Solid) (hd : body.closing = [d])
    {inside block after : Text} : Closes body.closing block after inside ↔
      ∃ region, Text.upTo? [d] inside = some (region, after) ∧ blockOf? region = some block := by
  -- Neither the block nor its ending holds the one character of the closing delimiter.
  constructor
  · rintro ⟨hbody, ⟨u, rfl, hclosed⟩, hfirst⟩
    rw [hd, body_singleton_iff] at hbody
    obtain ⟨e, he, hcut⟩ := (closed?_iff hp hd).mp hclosed
    obtain ⟨hnot, rfl⟩ := Text.upTo?_eq_some_iff.mp hcut
    have hregion : Text.upTo? [d] (block ++ (e ++ d :: after)) = some (block ++ e, after) :=
      Text.upTo?_eq_some_iff.mpr
        ⟨fun hm => (List.mem_append.mp hm).elim hbody hnot, (List.append_assoc ..).symm⟩
    refine ⟨block ++ e, hregion, ?_⟩
    cases hblock : blockOf? (block ++ e) with
    | none => exact absurd he (by simpa using blockOf?_eq_none hblock block.length)
    | some early =>
      obtain ⟨⟨late, hlate, hsplit⟩, hearly⟩ := blockOf?_eq_some hblock
      have hle : early.length ≤ block.length := by
        by_contra hlt
        exact hearly block.length (Nat.not_le.mp hlt) (by rw [List.drop_left]; exact he)
      have hge : block.length ≤ early.length := by
        by_contra hlt
        have hbefore := hfirst early.length (Nat.not_le.mp hlt) (by
          rw [hd, body_singleton_iff, List.take_append_of_le_length hle]
          exact fun hm => hbody (List.mem_of_mem_take hm))
        rw [(closed?_drop_iff hp hd hregion (by rw [List.length_append]; omega)).mpr
          ⟨by rw [hsplit, List.drop_left]; exact hlate, rfl⟩] at hbefore
        exact nomatch hbefore
      rw [(List.append_inj hsplit (Nat.le_antisymm hge hle)).1]
  · rintro ⟨region, hregion, hblock⟩
    obtain ⟨⟨e, he, rfl⟩, hfirst⟩ := blockOf?_eq_some hblock
    obtain ⟨hnot, hinside⟩ := Text.upTo?_eq_some_iff.mp hregion
    have hle : block.length ≤ (block ++ e).length := by rw [List.length_append]; omega
    have hclosed := (closed?_drop_iff hp hd hregion hle).mpr
      ⟨by rw [List.drop_left]; exact he, rfl⟩
    refine ⟨?_, ⟨_, ?_, hclosed⟩, ?_⟩
    · rw [hd, body_singleton_iff]
      exact fun hm => hnot (List.mem_append_left _ hm)
    · rw [hinside, List.append_assoc, List.drop_left]
    · intro m hm _
      rw [Option.eq_none_iff_forall_ne_some]
      intro rest hrest
      exact hfirst m hm ((closed?_drop_iff hp hd hregion (by omega)).mp hrest).1

/-- Reading finds just what can be read. -/
theorem read?_eq_some_iff (hp : Plain tag body) (hc : tag.closing = [c]) (hd : body.closing = [d])
    {t : Text} {r : Reading} : read? tag body t = some r ↔ Reads tag body t r := by
  constructor
  · intro h
    simp only [read?, Option.bind_eq_bind, Option.bind_eq_some_iff, Option.some.injEq,
      Prod.exists] at h
    obtain ⟨name, afterName, hname, joiner, afterTags, hjoiner, opened, hopened, inside, hinside,
      region, after, hregion, block, hblock, rfl⟩ := h
    have hopen : opened? body.opening afterTags = some inside :=
      Option.bind_eq_some_iff.mpr ⟨opened, hopened, hinside⟩
    refine ⟨rfl, afterName, afterTags, inside, (enclosed?_eq_some_iff_ahead hc).mp hname,
      (joinerAhead?_iff hp hc hopen).mp hjoiner, hopen, ?_⟩
    exact (closes_iff hp.bodySolid hd).mpr ⟨region, by rw [← hd]; exact hregion, hblock⟩
  · rintro ⟨hoffset, afterName, afterTags, inside, hname, hjoiner, hopen, hclose⟩
    obtain ⟨opened, hopened, hinside⟩ := Option.bind_eq_some_iff.mp hopen
    obtain ⟨region, hregion, hblock⟩ := (closes_iff hp.bodySolid hd).mp hclose
    simp only [read?, Option.bind_eq_bind, Option.bind_eq_some_iff, Option.some.injEq,
      Prod.exists]
    refine ⟨r.name, afterName, ?_, r.joiner, afterTags, (joinerAhead?_iff hp hc hopen).mpr hjoiner,
      opened, hopened, inside, hinside, region, r.after, by rw [hd]; exact hregion, r.block,
      hblock, by rw [← hoffset]⟩
    rw [← hoffset]
    exact (enclosed?_eq_some_iff_ahead hc).mpr hname

variable {vars : Variables}

private theorem not_reads_nil (hp : Plain tag body) (r : Reading) : ¬ Reads tag body [] r :=
  fun h => Nat.not_lt_zero _ (h.length_lt hp)

private theorem map_matchesFrom (hp : Plain tag body) (hc : tag.closing = [c])
    (hd : body.closing = [d]) (t : Text) (last : Option Nat) (position : Nat)
    (previous : Option Char) :
    ((Grammar.loop tag body).matchesFrom last position previous t).map (ofMatch vars) =
      scanFrom vars tag body position (Boundary.lineStart.holds previous t.head?)
        (last.getD 0 - position) t := by
  induction t generalizing last position previous with
  | nil =>
    rw [matchesFrom, matchAfter?_eq_none hp (.inr (.inr (not_reads_nil hp)))]
    rfl
  | cons e rest ih =>
    have hstart : Boundary.lineStart.holds (some e) rest.head? = (e == '\n') := by
      simp [Boundary.lineStart]
    -- Nothing is found here, and the scan goes on as the matches do.
    have hskip (hnone : (Grammar.loop tag body).matchAfter? last
          ⟨position, previous, e :: rest, []⟩ = none) :
        ((Grammar.loop tag body).matchesFrom last position previous (e :: rest)).map
            (ofMatch vars) =
          scanFrom vars tag body (position + 1) (e == '\n') (last.getD 0 - (position + 1))
            rest := by
      rw [matchesFrom, hnone]
      exact (ih last (position + 1) (some e)).trans (by rw [hstart])
    by_cases hlast : last.getD 0 ≤ position
    · rw [Nat.sub_eq_zero_of_le hlast, scanFrom]
      cases hl : Boundary.lineStart.holds previous (e :: rest).head? with
      | false =>
        rw [hskip (matchAfter?_eq_none hp (.inr (.inl hl))), Nat.sub_eq_zero_of_le (by omega)]
        rfl
      | true =>
        cases hread : read? tag body (e :: rest) with
        | none =>
          have hnot (r : Reading) : ¬ Reads tag body (e :: rest) r := fun hr => by
            rw [(read?_eq_some_iff hp hc hd).mpr hr] at hread
            exact Option.some_ne_none r hread
          rw [hskip (matchAfter?_eq_none hp (.inr (.inr hnot))), Nat.sub_eq_zero_of_le (by omega)]
          simp only [ite_true]
        | some r =>
          have hr := (read?_eq_some_iff hp hc hd).mp hread
          obtain ⟨m, hm, hloop⟩ := exists_matchAfter?_of_reads vars hp hlast hl hr
          have hstop : m.stop = position + ((e :: rest).length - r.after.length) :=
            congrArg Loop.stop hloop
          have hlt := hr.length_lt hp
          have hleft : m.stop - (position + 1) = rest.length - r.after.length := by
            rw [List.length_cons] at hlt hstop
            omega
          simp only [matchesFrom, hm, ite_true, List.map_cons, hloop]
          rw [ih, Option.getD_some, hleft, hstart]
    · obtain ⟨skip, hleft⟩ := Nat.exists_eq_succ_of_ne_zero (n := last.getD 0 - position) (by omega)
      rw [hskip (matchAfter?_eq_none hp (.inl (Nat.not_le.mp hlast))), hleft, scanFrom]
      congr 1
      omega

/-- The loops of a template are those that a scan without alternatives reads. -/
theorem all_eq_scan (hp : Plain tag body) (hc : tag.closing = [c]) (hd : body.closing = [d])
    (template : Text) (vars : Variables) :
    all template vars tag body = scan template vars tag body :=
  map_matchesFrom hp hc hd template none 0 none

/-- A loop with a joiner, between two lines that hold parentheses and brackets but no loop. -/
theorem all_eq_scan_list :
    (all "(a) [b]\n  (items)(,)\n  [\n    - c\n  ]\n(d)\n".toList [] ⟨['('], [')']⟩
        ⟨['['], [']']⟩).map (fun l => (l.start, l.stop, l.name, l.block, l.offset, l.joiner)) =
      [(8, 36, "items".toList, "    - c".toList, 2, [','])] := by
  have hp : Plain ⟨['('], [')']⟩ ⟨['['], [']']⟩ :=
    ⟨.of_all rfl rfl, .of_all rfl rfl, by decide⟩
  rw [all_eq_scan hp rfl rfl]
  rfl

end Loop

end Stencil
