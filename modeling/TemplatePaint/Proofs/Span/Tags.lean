import TemplatePaint.Proofs.Pattern.Matches
import TemplatePaint.Proofs.Span.Plain

/-!
# Embedded tags

Scripts and comments are found by two rules over one pattern, and each match of
the pattern counts for just one of them: what one rule passes over, the other
takes (`Head.seek_tag`). So the scan for both gives the matches that follow each
other in the text, each as a script or as a comment (`Span.scan_tags`).
-/

namespace TemplatePaint

variable {text : List Char}

namespace Rule

/-- The rule of the tags that are no comments. -/
def scriptTag : Rule := ⟨.script, embeddedTag, .value, (!isCommentTag ·)⟩

/-- The rule of the comments. -/
def commentTag : Rule := ⟨.comment, embeddedTag, .value, isCommentTag⟩

theorem filter_serves_tags :
    table.filter (·.serves [.script, .comment]) = [scriptTag, commentTag] := rfl

theorem minLength_embeddedTag : embeddedTag.minLength = 4 := by decide

variable {rule : Rule} {place : Place text} {m : Match text}

theorem seek_of_counts (found : rule.pattern.search place = some m)
    (counts : rule.counts m.stretch.chars = true) : rule.seek place = some m := by
  rw [seek, found]
  exact if_pos counts

theorem seek_of_not_counts (found : rule.pattern.search place = some m)
    (passed : rule.counts m.stretch.chars = false) (lt : place.offset < m.stop.offset) :
    rule.seek place = rule.seek m.stop := by
  rw [seek, found]
  simp [passed, lt]

theorem seek_of_search_none (nothing : rule.pattern.search place = none) :
    rule.seek place = none := by
  rw [seek, nothing]

end Rule

/-- A tag that is found is not empty. -/
theorem Rule.lt_of_search_embeddedTag {place : Place text} {m : Match text}
    (found : embeddedTag.search place = some m) :
    place.offset < m.stop.offset ∧ m.start.offset < m.stop.offset := by
  have := Pattern.le_start_of_search found
  have := Pattern.add_minLength_le_of_search found
  rw [minLength_embeddedTag] at this
  omega

namespace Head

variable {rule : Rule} {place : Place text} {m : Match text}

/-- A tag as a match of the rule that it counts for. -/
def tag (m : Match text) : Head text :=
  ⟨if Rule.isCommentTag m.stretch.chars then .commentTag else .scriptTag, m⟩

theorem rule_tag_of_counts (hr : rule ∈ [Rule.scriptTag, Rule.commentTag])
    (counts : rule.counts m.stretch.chars = true) : rule = (tag m).rule := by
  rcases List.mem_pair.1 hr with rfl | rfl
  · have script : Rule.isCommentTag m.stretch.chars = false := by simpa [Rule.scriptTag] using counts
    simp [tag, script]
  · have comment : Rule.isCommentTag m.stretch.chars = true := counts
    simp [tag, comment]

theorem kind_ne_of_not_counts (hr : rule ∈ [Rule.scriptTag, Rule.commentTag])
    (passed : rule.counts m.stretch.chars = false) : rule.kind ≠ (tag m).rule.kind := by
  rcases List.mem_pair.1 hr with rfl | rfl
  · have comment : Rule.isCommentTag m.stretch.chars = true := by
      simpa [Rule.scriptTag] using passed
    simp [tag, comment, Rule.scriptTag, Rule.commentTag]
  · have script : Rule.isCommentTag m.stretch.chars = false := passed
    simp [tag, script, Rule.scriptTag, Rule.commentTag]

/-- The next tag is found by one of the two rules; the other passes over it. -/
theorem seek_tag (found : Rule.embeddedTag.search place = some m)
    (hr : rule ∈ [Rule.scriptTag, Rule.commentTag]) :
    rule = (tag m).rule ∧ seek rule place = some (tag m) ∨
      rule.kind ≠ (tag m).rule.kind ∧ seek rule place = seek rule m.stop := by
  have lt := (Rule.lt_of_search_embeddedTag found).1
  have found : rule.pattern.search place = some m := by
    rcases List.mem_pair.1 hr with rfl | rfl <;> exact found
  cases counts : rule.counts m.stretch.chars with
  | true =>
    have same := rule_tag_of_counts hr counts
    refine .inl ⟨same, ?_⟩
    rw [seek, Rule.seek_of_counts found counts, same]
    rfl
  | false =>
    exact .inr ⟨kind_ne_of_not_counts hr counts,
      by rw [seek, seek, Rule.seek_of_not_counts found counts lt]⟩

theorem rule_tag_mem (m : Match text) : (tag m).rule ∈ [Rule.scriptTag, Rule.commentTag] := by
  cases comment : Rule.isCommentTag m.stretch.chars <;> simp [tag, comment]

/-- The next tag is looked ahead for. -/
theorem mem_tags (found : Rule.embeddedTag.search place = some m) :
    tag m ∈ [Rule.scriptTag, Rule.commentTag].filterMap (seek · place) := by
  rcases seek_tag found (rule_tag_mem m) with ⟨-, taken⟩ | ⟨other, -⟩
  · exact List.mem_filterMap.2 ⟨_, rule_tag_mem m, taken⟩
  · exact absurd rfl other

/-- The next tag is the earliest of what the two rules look ahead for. -/
theorem earliest_tags (found : Rule.embeddedTag.search place = some m) :
    earliest ([Rule.scriptTag, Rule.commentTag].filterMap (seek · place)) = some (tag m) := by
  obtain ⟨e, first⟩ := exists_earliest (mem_tags found)
  obtain ⟨rule, hr, he⟩ := List.mem_filterMap.1 (mem_of_earliest first)
  rcases seek_tag found hr with ⟨-, taken⟩ | ⟨-, passed⟩
  · rw [first, ← he, taken]
  · -- what the other rule finds starts behind the tag
    have behind : m.stop.offset ≤ e.start := le_start_of_seek (passed ▸ he)
    have before : e.start ≤ m.start.offset := le_of_earliest first (mem_tags found)
    have := (Rule.lt_of_search_embeddedTag found).2
    omega

/-- After the next tag is taken, both rules look ahead from behind it. -/
theorem advance_tags (found : Rule.embeddedTag.search place = some m) :
    advance (tag m) ([Rule.scriptTag, Rule.commentTag].filterMap (seek · place)) =
      [Rule.scriptTag, Rule.commentTag].filterMap (seek · m.stop) := by
  rw [advance, List.filterMap_filterMap]
  refine List.filterMap_congr fun rule hr => ?_
  rcases seek_tag found hr with ⟨same, taken⟩ | ⟨other, passed⟩
  · rw [taken, Option.bind_some, resume, if_pos ⟨rfl, (Rule.lt_of_search_embeddedTag found).2⟩, same]
    rfl
  · rw [passed]
    cases hs : seek rule m.stop with
    | none => rfl
    | some h =>
      have := (seek_eq_some_iff.1 hs).1
      rw [Option.bind_some, resume, if_neg fun c => other (this ▸ c.1)]

/-- The two rules, run side by side, take the tags that follow each other. -/
theorem merge_tags (place : Place text) :
    merge ([Rule.scriptTag, Rule.commentTag].filterMap (seek · place)) =
      (Rule.embeddedTag.allFrom place).map tag := by
  fun_induction Rule.embeddedTag.allFrom place with
  | case1 place nothing =>
    have none : [Rule.scriptTag, Rule.commentTag].filterMap (seek · place) = [] := by
      refine List.filterMap_eq_nil_iff.2 fun rule hr => ?_
      have nothing : rule.pattern.search place = none := by
        rcases List.mem_pair.1 hr with rfl | rfl <;> exact nothing
      rw [seek, Rule.seek_of_search_none nothing]
      rfl
    rw [none, merge_nil]
    rfl
  | case2 place m found lt ih =>
    rw [merge_eq_cons (earliest_tags found) (Rule.lt_of_search_embeddedTag found).2,
      advance_tags found, ih]
    rfl
  | case3 place m found stuck => exact absurd (Rule.lt_of_search_embeddedTag found).1 stuck

end Head

namespace Span

/-- The scan for scripts and comments gives the tags that follow each other. -/
theorem scan_tags (text : String) : scan text [.script, .comment] =
    (Rule.embeddedTag.allFrom (Place.first text.toList)).map fun m => (Head.tag m).span := by
  have whole (s : Span) : expand [.script, .comment] s = [s] :=
    expand_of_not_split fun asked => absurd asked (by decide)
  rw [scan, Rule.filter_serves_tags, Head.merge_tags, Head.readAll_eq _ CharCounter.start_isAt,
    List.map_map, List.flatMap_congr fun s _ => whole s, List.flatMap_singleton']
  rfl

/-- Scripts and comments are not empty and lie in the text. -/
theorem bounds_of_mem_tags {text : String} {s : Span} (h : s ∈ scan text [.script, .comment]) :
    s.range.start < s.range.stop ∧ s.range.stop ≤ text.toList.length ∧
      (s.kind = .script ∨ s.kind = .comment) := by
  rw [scan_tags] at h
  obtain ⟨m, hm, rfl⟩ := List.mem_map.1 h
  have length := Pattern.add_minLength_le_of_matchAt (Pattern.matchAt_of_mem_allFrom hm).2
  rw [Rule.minLength_embeddedTag] at length
  refine ⟨Nat.lt_of_lt_of_le (Nat.lt_add_of_pos_right (by decide)) length, m.stop.offset_le, ?_⟩
  rcases List.mem_pair.1 (Head.rule_tag_mem m) with script | comment
  · exact .inl (congrArg Rule.kind script)
  · exact .inr (congrArg Rule.kind comment)

/-- Of the scripts and comments, each starts behind the ones before. -/
theorem pairwise_tags (text : String) :
    (scan text [.script, .comment]).Pairwise fun s t => s.range.stop ≤ t.range.start := by
  rw [scan_tags]
  exact List.pairwise_map.2 (Pattern.pairwise_allFrom _ _)

end Span

end TemplatePaint
