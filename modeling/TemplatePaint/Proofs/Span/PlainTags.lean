import TemplatePaint.Proofs.Pattern.First
import TemplatePaint.Proofs.Pattern.Language
import TemplatePaint.Proofs.Span.Tags

/-!
# Embedded tags from left to right

A tag stands at an opening that has a closing behind it, and ends with the first
such closing (`tagAt?`); an opening without one opens nothing. `Span.tagsFrom`
goes over the characters of a text, gives the tag that stands at the first place
where one does, and goes on behind it. It is the scan for scripts and comments
(`Span.scan_tags_eq_tagsFrom`), since the pattern of a tag matches where one stands
(`Rule.exists_matchAt_embeddedTag`) and nowhere else
(`Rule.matchAt_embeddedTag_eq_none`).
-/

namespace TemplatePaint

/-- What stands in the tag at the start of the characters, and what stands behind it. -/
def tagAt? : List Char → Option (List Char × List Char)
  | '<' :: '%' :: inner => splitAtFirst? ['%', '>'] inner
  | _ => none

/-- A sign that the value of a tag leaves out. -/
def isTagSign (c : Char) : Bool := c == '=' || c == '-'

/-- What stands in a tag, without one sign at its start. -/
def tagText (body : List Char) : List Char :=
  if body.head?.any isTagSign then body.tail else body

namespace Span

/-- The span of a tag with its opening at `offset`. -/
def ofTag (offset : Nat) (body : List Char) : Span :=
  let stop := offset + 2 + body.length
  ⟨if body.head? = some '#' then .comment else .script, ⟨offset, stop + 2⟩,
    .value ⟨String.ofList (tagText body), ⟨stop - (tagText body).length, stop⟩⟩⟩

end Span

theorem exists_of_tagAt? {cs body behind : List Char} (h : tagAt? cs = some (body, behind)) :
    ∃ inner, cs = ['<', '%'] ++ inner ∧ splitAtFirst? ['%', '>'] inner = some (body, behind) := by
  unfold tagAt? at h
  split at h
  · exact ⟨_, rfl, h⟩
  · cases h

/-- The characters of a tag. -/
theorem append_of_tagAt? {cs body behind : List Char} (h : tagAt? cs = some (body, behind)) :
    cs = ['<', '%'] ++ (body ++ (['%', '>'] ++ behind)) := by
  obtain ⟨inner, rfl, split⟩ := exists_of_tagAt? h
  rw [append_of_splitAtFirst? split]

/-- A tag has at least its opening and its closing. -/
theorem length_lt_of_tagAt? {cs body behind : List Char} (h : tagAt? cs = some (body, behind)) :
    behind.length < cs.length := by
  rw [append_of_tagAt? h]
  simp only [List.length_append, List.length_cons]
  omega

/-- The tags from left to right, where the first of the characters is at `offset`. -/
def Span.tagsFrom (offset : Nat) : List Char → List Span
  | [] => []
  | c :: rest =>
    match _h : tagAt? (c :: rest) with
    | some (body, behind) => ofTag offset body :: tagsFrom (offset + body.length + 4) behind
    | none => tagsFrom (offset + 1) rest
termination_by cs => cs.length
decreasing_by
  · exact length_lt_of_tagAt? ‹_›
  · exact Nat.lt_succ_self _

namespace Rule

open Pattern

variable {text : List Char} {r : Reading text} {p : Place text} {body behind : List Char}

/-! ## The pattern of a tag -/

/-- A closing does not start with a sign. -/
theorem splitAtFirst?_of_sign {c : Char} (sign : isTagSign c = true) (rest : List Char) :
    splitAtFirst? ['%', '>'] (c :: rest) =
      (splitAtFirst? ['%', '>'] rest).map fun (before, behind) => (c :: before, behind) := by
  refine splitAtFirst?_cons fun closing => ?_
  obtain rfl := (List.cons_prefix_cons.1 closing).1
  exact absurd sign (by decide)

/-- What is read of a tag behind its opening. -/
def tagBody : Pattern :=
  seq (optional (one isTagSign)) (seq (capture (few anyChar)) (chars ['%', '>']))

theorem run_embeddedTag (r : Reading text) : embeddedTag.run r some =
    runChars (fun q => tagBody.run { r with place := q } some) ['<', '%'] r.place := rfl

/-- Behind the opening, one sign is read and then all up to the first closing. -/
theorem run_tagBody_of_splitAtFirst?
    (split : splitAtFirst? ['%', '>'] r.place.after = some (body, behind)) :
    ∃ (c : Stretch text) (s : Place text), tagBody.run r some = some ⟨s, some c⟩ ∧
      c.start.after = tagText body ++ c.stop.after ∧ c.stop.after = ['%', '>'] ++ s.after ∧
      s.after = behind := by
  by_cases sign : ∃ c ∈ r.place.after.head?, isTagSign c = true
  · obtain ⟨c, first, sign⟩ := sign
    obtain ⟨rest, after⟩ := List.head?_eq_some_iff.1 first
    -- a closing has no sign, so the first one is also the first behind the sign
    rw [after, splitAtFirst?_of_sign sign] at split
    obtain ⟨⟨inner, behind⟩, split, parts⟩ := Option.map_eq_some_iff.1 split
    cases parts
    obtain ⟨q, s, passed, closing, last, read⟩ := run_captureFew_of_splitAtFirst?
      (r := { r with place := r.place.step after }) split
    refine ⟨⟨r.place.step after, q⟩, s, ?_, ?_, closing, last⟩
    · rw [tagBody, run_optional_one_of_mem after sign, read]
      rfl
    · have signed : tagText (c :: inner) = inner := if_pos sign
      rw [signed]
      exact passed
  · have unsigned : tagText body = body := by
      refine if_neg fun signed => sign ?_
      rw [append_of_splitAtFirst? split]
      cases body with
      | nil => cases signed
      | cons c inner => exact ⟨c, rfl, signed⟩
    obtain ⟨q, s, passed, closing, last, read⟩ := run_captureFew_of_splitAtFirst? split
    refine ⟨⟨r.place, q⟩, s, ?_, unsigned.symm ▸ passed, closing, last⟩
    rw [tagBody, run_optional_one_of_not_mem fun c hc is => sign ⟨c, hc, is⟩]
    exact read

/-- Without a closing nothing is read. -/
theorem run_tagBody_eq_none (split : splitAtFirst? ['%', '>'] r.place.after = none) :
    tagBody.run r some = none := by
  by_cases sign : ∃ c ∈ r.place.after.head?, isTagSign c = true
  · obtain ⟨c, first, sign⟩ := sign
    obtain ⟨rest, after⟩ := List.head?_eq_some_iff.1 first
    have later : splitAtFirst? ['%', '>'] rest = none := by
      rwa [after, splitAtFirst?_of_sign sign, Option.map_eq_none_iff] at split
    rw [tagBody, run_optional_one_of_mem after sign, run_captureFew_eq_none split,
      run_captureFew_eq_none (r := { r with place := r.place.step after }) later]
    rfl
  · rw [tagBody, run_optional_one_of_not_mem fun c hc is => sign ⟨c, hc, is⟩]
    exact run_captureFew_eq_none split

/-- A tag is a comment just if a number sign stands first in it. -/
theorem isCommentTag_iff (body : List Char) :
    isCommentTag (['<', '%'] ++ body ++ ['%', '>']) = true ↔ body.head? = some '#' := by
  rw [isCommentTag, List.isPrefixOf_iff_prefix]
  cases body with
  | nil => decide
  | cons c inner =>
    show ['<', '%', '#'] <+: '<' :: '%' :: c :: (inner ++ ['%', '>']) ↔ some c = some '#'
    simp [eq_comm]

theorem kind_tag {m : Match text} (whole : m.stretch.chars = ['<', '%'] ++ body ++ ['%', '>']) :
    (Head.tag m).rule.kind = if body.head? = some '#' then .comment else .script := by
  unfold Head.tag
  rw [whole]
  split
  · rename_i comment
    rw [if_pos ((isCommentTag_iff body).1 comment)]
    rfl
  · rename_i script
    rw [if_neg (mt (isCommentTag_iff body).2 script)]
    rfl

/-- The span of a match that has a tag as its characters. -/
theorem span_tag {m : Match text} {c : Stretch text}
    (whole : m.start.after = (['<', '%'] ++ body ++ ['%', '>']) ++ m.stop.after)
    (captured : m.captured = some c) (passed : c.start.after = tagText body ++ c.stop.after)
    (closing : c.stop.after = ['%', '>'] ++ m.stop.after) :
    (Head.tag m).span = Span.ofTag m.start.offset body := by
  have kind := kind_tag (Stretch.chars_of_after_eq whole)
  have shape : (Head.tag m).rule.shape = .value := by
    unfold Head.tag
    split <;> rfl
  have value : c.chars = tagText body := Stretch.chars_of_after_eq passed
  have stop := Place.offset_of_after_eq whole
  have value_stop := Place.offset_of_after_eq passed
  have closing_stop := Place.offset_of_after_eq closing
  simp only [List.length_append, List.length_cons, List.length_nil] at stop closing_stop
  have range : m.stretch.range = ⟨m.start.offset, m.start.offset + 2 + body.length + 2⟩ := by
    show TextRange.mk m.start.offset m.stop.offset = _
    rw [stop]
    congr 1
    omega
  have value_range : c.range = ⟨m.start.offset + 2 + body.length - (tagText body).length,
      m.start.offset + 2 + body.length⟩ := by
    show TextRange.mk c.start.offset c.stop.offset = _
    congr 1 <;> omega
  unfold Head.span Rule.span
  rw [kind, shape, show (Head.tag m).found = m from rfl, captured, range]
  show Span.mk _ _ (.value ⟨String.ofList c.chars, c.range⟩) = _
  rw [value, value_range]
  rfl

/-- Where a tag stands, the pattern matches just the tag. -/
theorem exists_matchAt_embeddedTag (h : tagAt? p.after = some (body, behind)) :
    ∃ m, embeddedTag.matchAt p = some m ∧ (Head.tag m).span = Span.ofTag p.offset body ∧
      m.stop.offset = p.offset + body.length + 4 ∧ m.stop.after = behind := by
  obtain ⟨inner, opening, split⟩ := exists_of_tagAt? h
  obtain ⟨q, after, read⟩ := runChars_of_after (fun q => tagBody.run ⟨q, none⟩ some) opening
  obtain ⟨c, s, found, passed, closing, last⟩ :=
    run_tagBody_of_splitAtFirst? (r := ⟨q, none⟩) (after ▸ split)
  obtain ⟨m, matched, rfl, stop, captured⟩ :=
    exists_matchAt_of_run ((run_embeddedTag _).trans (read.trans found))
  have whole : m.start.after = (['<', '%'] ++ body ++ ['%', '>']) ++ m.stop.after := by
    rw [append_of_tagAt? h, stop, last]
    simp
  refine ⟨m, matched, span_tag whole captured passed (stop ▸ closing), ?_, stop ▸ last⟩
  rw [Place.offset_of_after_eq whole]
  simp only [List.length_append, List.length_cons, List.length_nil]
  omega

/-- Where no tag stands, the pattern does not match. -/
theorem matchAt_embeddedTag_eq_none (h : tagAt? p.after = none) :
    embeddedTag.matchAt p = none := by
  refine matchAt_of_run_eq_none ?_
  rw [run_embeddedTag]
  by_cases opening : ['<', '%'] <+: p.after
  · obtain ⟨inner, opening⟩ := opening
    obtain ⟨q, after, read⟩ := runChars_of_after (fun q => tagBody.run ⟨q, none⟩ some) opening.symm
    rw [read]
    refine run_tagBody_eq_none ?_
    rw [← opening] at h
    exact after ▸ h
  · exact runChars_eq_none _ opening

end Rule

namespace Span

variable {text : List Char} {offset : Nat} {cs body behind : List Char}

/-! ## The tags of a text -/

theorem tagsFrom_of_tagAt? (h : tagAt? cs = some (body, behind)) :
    tagsFrom offset cs = ofTag offset body :: tagsFrom (offset + body.length + 4) behind := by
  cases cs with
  | nil => cases h
  | cons c rest =>
    rw [tagsFrom]
    split
    · rename_i found
      cases found.symm.trans h
      rfl
    · rename_i none
      cases none.symm.trans h

theorem tagsFrom_of_no_tag {c : Char} {rest : List Char} (h : tagAt? (c :: rest) = none) :
    tagsFrom offset (c :: rest) = tagsFrom (offset + 1) rest := by
  rw [tagsFrom]
  split
  · rename_i found
    cases found.symm.trans h
  · rfl

/-- The first tag from a place on is what a search for the pattern finds. -/
theorem tagsFrom_eq_of_search (p : Place text) :
    tagsFrom p.offset p.after =
      match Rule.embeddedTag.search p with
      | none => []
      | some m => (Head.tag m).span :: tagsFrom m.stop.offset m.stop.after := by
  have along (after : List Char) (p : Place text) (h : p.after = after) :
      tagsFrom p.offset after =
        match Rule.embeddedTag.searchIn after p h with
        | none => []
        | some m => (Head.tag m).span :: tagsFrom m.stop.offset m.stop.after := by
    induction after generalizing p with
    | nil =>
      rw [Pattern.searchIn, Rule.matchAt_embeddedTag_eq_none (by rw [h]; rfl), tagsFrom]
    | cons c rest ih =>
      rw [Pattern.searchIn]
      cases tag : tagAt? (c :: rest) with
      | none =>
        rw [tagsFrom_of_no_tag tag, Rule.matchAt_embeddedTag_eq_none (h ▸ tag)]
        exact ih (p.step h) (p.after_step h)
      | some parts =>
        obtain ⟨body, behind⟩ := parts
        obtain ⟨m, matched, span, stop, last⟩ := Rule.exists_matchAt_embeddedTag (h ▸ tag)
        rw [tagsFrom_of_tagAt? tag, matched, ← span, ← stop, ← last]
  rw [Pattern.search_eq_searchIn]
  exact along p.after p rfl

/-- The tags that are read from left to right are the matches of the pattern that follow each
other. -/
theorem tagsFrom_eq_map_allFrom (p : Place text) : tagsFrom p.offset p.after =
    (Rule.embeddedTag.allFrom p).map fun m => (Head.tag m).span := by
  fun_induction Rule.embeddedTag.allFrom p with
  | case1 p nothing => rw [tagsFrom_eq_of_search, nothing, List.map_nil]
  | case2 p m found lt ih => rw [tagsFrom_eq_of_search p, found, List.map_cons, ← ih]
  | case3 p m found stuck => exact absurd (Rule.lt_of_search_embeddedTag found).1 stuck

/-- The scan for scripts and comments gives the tags that are read from left to right. They are not
empty, and each starts behind the ones before. -/
theorem scan_tags_eq_tagsFrom (text : String) :
    let spans := scan text [.script, .comment]
    spans = tagsFrom 0 text.toList ∧ (∀ s ∈ spans, s.range.start < s.range.stop) ∧
      spans.Pairwise fun s t => s.range.stop ≤ t.range.start := by
  refine ⟨?_, fun s hs => (bounds_of_mem_tags hs).1, pairwise_tags text⟩
  rw [scan_tags]
  exact (tagsFrom_eq_map_allFrom (Place.first text.toList)).symm

/-- An opening and a closing share no character, and the last opening opens nothing. -/
example : scan "<%><%%><%=%><%#%><%=" [.script, .comment] =
    [⟨.script, ⟨0, 7⟩, .value ⟨"><%", ⟨2, 5⟩⟩⟩, ⟨.script, ⟨7, 12⟩, .value ⟨"", ⟨10, 10⟩⟩⟩,
      ⟨.comment, ⟨12, 17⟩, .value ⟨"#", ⟨14, 15⟩⟩⟩] := by
  decide +kernel

end Span

end TemplatePaint
