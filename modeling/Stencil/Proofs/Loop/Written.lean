import Stencil.Proofs.Loop.Match
import Stencil.Proofs.Pattern.Occurrence

/-!
# Written loops

A loop written in the usual way is found again, provided that its block is made of whole steps:
`head?_all_written_iff`. A block that ends inside the closing delimiter is not, since the last step
then takes the line break that has to stand before the closing delimiter.
-/

namespace Stencil

open Grammar Pattern

namespace Loop

variable {tag body : Pair} {indent name block closingIndent : Text} {joiner : Option Text}

/-- A loop as it is usually written: the block opens just after the tags, and stands on lines of its
own. -/
def written (tag body : Pair) (indent name : Text) (joiner : Option Text)
    (block closingIndent : Text) : Text :=
  indent ++ tag.wrap name ++ (joiner.elim [] tag.wrap) ++ body.opening ++ ['\n'] ++ block ++
    ['\n'] ++ closingIndent ++ body.closing

private theorem closed?_drop_eq_none (hp : body.Solid) (hlast : Text.Closed block)
    (hnot : ¬ body.closing <:+: block) {after : Text} {m : Nat} (hm : m < block.length) :
    closed? body.closing ((block ++ '\n' :: after).drop m) = none := by
  rw [Option.eq_none_iff_forall_ne_some]
  intro rest hrest
  obtain ⟨e, he, hsplit⟩ := (closed?_eq_some_iff hp.closing_ne_nil hp.closing).mp hrest
  rw [List.drop_append_of_le_length (Nat.le_of_lt hm)] at hsplit
  rcases List.append_eq_append_iff.mp hsplit with ⟨u, hu, _⟩ | ⟨u, hu, hrest⟩
  · -- The last character of the block would be white space.
    obtain ⟨c, hc⟩ := Option.ne_none_iff_exists'.mp (mt List.getLast?_eq_none_iff.mp
      (List.length_pos_iff.mp (Nat.zero_lt_of_lt hm)))
    have hmem : c ∈ block.drop m := by
      refine List.mem_of_getLast? ?_
      rw [List.getLast?_drop, if_neg (Nat.not_le.mpr hm), hc]
    have hspace := Text.isBlank_iff.mp he.isBlank c (by rw [hu]; exact List.mem_append_left _ hmem)
    rw [hlast c hc] at hspace
    exact nomatch hspace
  · have hinfix : u <:+: block := by
      have hsuffix : block.drop m <:+ block := List.drop_suffix m block
      rw [hu] at hsuffix
      exact (List.suffix_append e u).isInfix.trans hsuffix.isInfix
    rcases List.append_eq_append_iff.mp hrest with ⟨v, hv, _⟩ | ⟨v, hv, hafter⟩
    · exact hnot ((List.prefix_append _ v).isInfix.trans (hv ▸ hinfix))
    · cases v with
      | nil => exact hnot (by rw [hv, List.append_nil]; exact hinfix)
      | cons c v =>
        -- The closing delimiter would hold the line break.
        have hc : '\n' = c := (List.cons.inj hafter).1
        have hspace := hp.closing c (by rw [hv]; exact List.mem_append_right _ List.mem_cons_self)
        rw [← hc] at hspace
        exact absurd hspace (by decide)

private theorem reads_written (hp : Plain tag body)
    (hindent : ∀ c ∈ indent, CharSet.blank.accepts c = true)
    (hclosing : ∀ c ∈ closingIndent, CharSet.blank.accepts c = true)
    (hname : ∀ c ∈ name, c ∉ tag.closing) (hjoiner : ∀ j ∈ joiner, ∀ c ∈ j, c ∉ tag.closing)
    (hlast : Text.Closed block) (hnot : ¬ body.closing <:+: block)
    (hblock : Body body.closing block) (tail : Text) :
    Reads tag body (written tag body indent name joiner block closingIndent ++ tail)
      ⟨indent.length, name, joiner, block, tail⟩ := by
  let inside := block ++ '\n' :: (closingIndent ++ (body.closing ++ tail))
  let afterTags := body.opening ++ '\n' :: inside
  let afterName := joiner.elim [] tag.wrap ++ afterTags
  have htext : written tag body indent name joiner block closingIndent ++ tail =
      indent ++ (tag.opening ++ (name ++ (tag.closing ++ afterName))) := by
    simp only [written, inside, afterTags, afterName, Pair.wrap, List.append_assoc,
      List.cons_append, List.nil_append]
  have hoffset : (indent ++ (tag.opening ++ (name ++ (tag.closing ++ afterName)))).takeWhile
      CharSet.blank.accepts = indent := by
    obtain ⟨c, more, hc⟩ := List.exists_cons_of_ne_nil hp.tagSolid.opening_ne_nil
    have hnot := hp.tagSolid.not_blank (hc ▸ List.mem_cons_self)
    rw [List.takeWhile_append_of_pos hindent, hc, List.cons_append,
      List.takeWhile_cons_of_neg hnot, List.append_nil]
  have hahead : Ahead tag name afterName
      (tag.opening ++ (name ++ (tag.closing ++ afterName))) :=
    ⟨body_of_forall_notMem hp.tagSolid.closing_ne_nil hname, rfl⟩
  have hjoined : JoinerAhead tag joiner afterTags afterName := by
    cases joiner with
    | none => rfl
    | some joiner =>
      refine ⟨body_of_forall_notMem hp.tagSolid.closing_ne_nil (hjoiner joiner rfl), ?_⟩
      simp only [afterName, Option.elim_some, Pair.wrap, List.append_assoc]
  have hopen : opened? body.opening afterTags = some inside := by
    have hgap : Text.afterGap? body.opening afterTags = some ('\n' :: inside) :=
      (Text.afterGap?_eq_some_iff hp.bodySolid.opening_ne_nil hp.bodySolid.opening).mpr
        ⟨[], rfl, rfl⟩
    rw [opened?, hgap]
    rfl
  have hclose : closed? body.closing ('\n' :: (closingIndent ++ (body.closing ++ tail))) =
      some tail := by
    refine (closed?_eq_some_iff hp.bodySolid.closing_ne_nil hp.bodySolid.closing).mpr
      ⟨'\n' :: closingIndent, ⟨closingIndent, rfl, ?_⟩, rfl⟩
    exact Text.isBlank_iff.mpr fun c hc => CharSet.isSpace_of_blank (hclosing c hc)
  rw [htext]
  refine ⟨by rw [hoffset], afterName, afterTags, inside, ?_, hjoined, hopen,
    ⟨hblock, ⟨_, rfl, hclose⟩, ?_⟩⟩
  · rw [List.drop_left]
    exact hahead
  · intro m hm _
    exact closed?_drop_eq_none hp.bodySolid hlast hnot hm

/-- A written loop is the first one found just when its block is made of whole steps. -/
theorem head?_all_written_iff (hp : Plain tag body)
    (hindent : ∀ c ∈ indent, CharSet.blank.accepts c = true)
    (hclosing : ∀ c ∈ closingIndent, CharSet.blank.accepts c = true)
    (hname : ∀ c ∈ name, c ∉ tag.closing) (hjoiner : ∀ j ∈ joiner, ∀ c ∈ j, c ∉ tag.closing)
    (hlast : Text.Closed block) (hnot : ¬ body.closing <:+: block) (tail : Text)
    (vars : Variables) :
    (all (written tag body indent name joiner block closingIndent ++ tail) vars tag body).head? =
        some {
          start := 0
          stop := (written tag body indent name joiner block closingIndent).length
          name := name
          elements := elementsOf vars name
          block := block
          offset := indent.length
          joiner := joiner.getD standardJoiner } ↔
      Body body.closing block := by
  let text := written tag body indent name joiner block closingIndent ++ tail
  have hhead : (all text vars tag body).head? =
      ((Grammar.loop tag body).matchesFrom none 0 none text).head?.map (ofMatch vars) := by
    rw [all, occurrences, List.head?_map]
  have hlast₀ : (none : Option Nat).getD 0 ≤ 0 := Nat.le_refl 0
  have hstart : Boundary.lineStart.holds none text.head? = true := rfl
  constructor
  · intro h
    obtain ⟨m, hm, hloop⟩ := Option.map_eq_some_iff.mp (hhead.symm.trans h)
    have hfound := matchAfter?_of_head?_matchesFrom hm (congrArg Loop.start hloop)
    have hreads : ∃ r, Reads tag body text r := by
      by_contra hno
      rw [matchAfter?_eq_none hp (.inr (.inr fun r hr => hno ⟨r, hr⟩))] at hfound
      exact nomatch hfound
    obtain ⟨r, hr⟩ := hreads
    obtain ⟨m', hm', hloop'⟩ := exists_matchAfter?_of_reads vars hp hlast₀ hstart hr
    obtain rfl := Option.some.inj (hfound.symm.trans hm')
    have hblock : r.block = block := congrArg Loop.block (hloop'.symm.trans hloop)
    obtain ⟨_, _, _, _, _, _, _, hclose⟩ := hr
    exact hblock ▸ hclose.body
  · intro hblock
    have hr := reads_written hp hindent hclosing hname hjoiner hlast hnot hblock tail
    obtain ⟨m, hm, hloop⟩ := exists_matchAfter?_of_reads vars hp hlast₀ hstart hr
    have hstop : text.length - tail.length =
        (written tag body indent name joiner block closingIndent).length := by
      rw [List.length_append, Nat.add_sub_cancel]
    rw [hhead, head?_matchesFrom_of_matchAfter? hm, Option.map_some, hloop, ofReading]
    simp only [hstop, Nat.zero_add]

/-- Between `[[` and `]]` a block that ends in `]` is not found. -/
theorem not_found_single_bracket :
    let tag : Pair := ⟨['('], [')']⟩
    let body : Pair := ⟨['[', '['], [']', ']']⟩
    (all (written tag body [] ['x'] none "  a]".toList [] ++ []) [] tag body).head? ≠
      some ⟨0, 13, ['x'], [], "  a]".toList, 0, standardJoiner⟩ := by
  intro tag body hfound
  have hp : Plain tag body := ⟨.of_all rfl rfl, .of_all rfl rfl, by decide⟩
  have hjoiner : ∀ j ∈ (none : Option Text), ∀ c ∈ j, c ∉ tag.closing := nofun
  have hindent : ∀ c ∈ ([] : Text), CharSet.blank.accepts c = true := nofun
  have hname : ∀ c ∈ ['x'], c ∉ tag.closing := List.forall_mem_singleton.mpr (by decide)
  have hlast : Text.Closed "  a]".toList := fun c hc => Option.some.inj hc ▸ rfl
  have hblock : Body body.closing "  a]".toList :=
    (head?_all_written_iff hp hindent hindent hname hjoiner hlast (by decide) [] []).mp
      hfound
  have hbracket : Body body.closing [']'] := by
    rwa [body_iff_of_stepLength? (n := 1) rfl, body_iff_of_stepLength? (n := 1) rfl,
      body_iff_of_stepLength? (n := 1) rfl] at hblock
  exact absurd ((body_iff_of_stepLength?_eq_none rfl).mp hbracket) (List.cons_ne_nil _ _)

end Loop

end Stencil
