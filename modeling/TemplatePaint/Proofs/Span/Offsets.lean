import TemplatePaint.Span.Stream

/-!
# The offsets of spans

One counter is shared by all matches of a scan, which come in the order of
their starts, so a match may start before the byte at which the last one left
the counter. The offsets do not hang on that: from any place the counter goes
to any other, forward or back (`CharCounter.moveTo_isAt`), and the spans
that are read are those of the matches by themselves (`Head.readAll_eq`).
-/

namespace TemplatePaint

variable {text : List Char}

namespace Place

/-- The characters between two places. -/
theorem exists_between {p q : Place text} (le : q.offset ≤ p.offset) :
    ∃ cs, q.after = cs ++ p.after ∧ p.before.reverse = q.before.reverse ++ cs := by
  refine ⟨q.after.take (p.offset - q.offset), ?_, ?_⟩
  · have : p.offset = q.offset + (p.offset - q.offset) := by omega
    rw [p.after_eq_drop, this, ← List.drop_drop, ← q.after_eq_drop, Nat.add_sub_cancel_left,
      List.take_append_drop]
  · have : p.offset = q.offset + (p.offset - q.offset) := by omega
    rw [p.before_eq_take, q.before_eq_take, List.reverse_reverse, List.reverse_reverse,
      q.after_eq_drop]
    rw [this, List.take_add, Nat.add_sub_cancel_left]

theorem byteOffset_eq (p : Place text) : p.byteOffset = byteLength p.before.reverse :=
  (byteLength_reverse p.before).symm

theorem byteOffset_le (p : Place text) : p.byteOffset ≤ byteLength text := by
  have := congrArg byteLength p.split
  rw [byteLength_append, ← byteOffset_eq] at this
  omega

/-- The bytes tell the order of the places. -/
theorem offset_le_of_byteOffset_le {p q : Place text} (h : q.byteOffset ≤ p.byteOffset) :
    q.offset ≤ p.offset := by
  rcases Nat.lt_or_ge p.offset q.offset with lt | ge
  · obtain ⟨cs, -, hb⟩ := exists_between (Nat.le_of_lt lt)
    have bytes := congrArg byteLength hb
    have chars := congrArg List.length hb
    rw [byteLength_append, ← byteOffset_eq, ← byteOffset_eq] at bytes
    simp only [List.length_append, List.length_reverse, ← offset_eq] at chars
    have := length_le_byteLength cs
    omega
  · exact ge

end Place

namespace CharCounter

/-- The counter stands at the place. -/
structure IsAt (counter : CharCounter text) (p : Place text) : Prop where
  byte : counter.byte = p.byteOffset
  chars : counter.chars = p.offset

theorem start_isAt : (start : CharCounter text).IsAt (Place.first text) := ⟨rfl, rfl⟩

/-- Going on from a place counts the characters up to the other place. -/
theorem add_countChars {counter : CharCounter text} {p q : Place text} (h : counter.IsAt q)
    (le : q.offset ≤ p.offset) :
    counter.chars + countChars (p.byteOffset - counter.byte) (dropBytes counter.byte text) =
      p.offset := by
  obtain ⟨cs, ha, hb⟩ := Place.exists_between le
  have behind := dropBytes_byteLength q.before.reverse q.after
  rw [q.split, ← q.byteOffset_eq, ha] at behind
  have bytes : p.byteOffset - q.byteOffset = byteLength cs := by
    rw [p.byteOffset_eq, hb, byteLength_append, ← q.byteOffset_eq, Nat.add_sub_cancel_left]
  rw [h.byte, h.chars, behind, bytes, countChars_byteLength, q.offset_eq, p.offset_eq]
  have := congrArg List.length hb
  simpa using this.symm

/-- From wherever the counter stands, it moves to a place. -/
theorem moveTo_isAt {counter : CharCounter text} {q : Place text} (h : counter.IsAt q)
    (p : Place text) : (counter.moveTo p.byteOffset).IsAt p := by
  have target : min p.byteOffset (byteLength text) = p.byteOffset := Nat.min_eq_left p.byteOffset_le
  refine ⟨target, ?_⟩
  simp only [moveTo, target]
  split
  · exact add_countChars start_isAt (Nat.zero_le _)
  · rename_i ahead
    exact add_countChars h (Place.offset_le_of_byteOffset_le (by rw [← h.byte]; omega))

end CharCounter

namespace Head

/-- The span of a match by itself. -/
def span (h : Head text) : Span :=
  h.rule.span h.found.stretch.range
    (h.found.captured.map fun s => ⟨String.ofList s.chars, s.range⟩)

theorem readValue_eq (s : Stretch text) {counter : CharCounter text} {q : Place text}
    (at_ : counter.IsAt q) :
    (readValue s counter).1 = ⟨String.ofList s.chars, s.range⟩ ∧
      (readValue s counter).2.IsAt s.stop := by
  have first := CharCounter.moveTo_isAt at_ s.start
  have last := CharCounter.moveTo_isAt first s.stop
  refine ⟨?_, last⟩
  rw [readValue]
  simp only [first.chars, last.chars, Stretch.range]

/-- From wherever the counter stands, the span of the match is read, and the counter is left at its
end. -/
theorem read_eq (h : Head text) {counter : CharCounter text} {q : Place text}
    (at_ : counter.IsAt q) :
    (h.read counter).1 = h.span ∧ (h.read counter).2.IsAt h.found.stop := by
  have first := CharCounter.moveTo_isAt at_ h.found.start
  rw [read, span]
  cases h.found.captured with
  | none =>
    have last := CharCounter.moveTo_isAt first h.found.stop
    exact ⟨by simp only [first.chars, last.chars]; rfl, last⟩
  | some s =>
    obtain ⟨value, inner⟩ := readValue_eq s first
    have last := CharCounter.moveTo_isAt inner h.found.stop
    exact ⟨by simp only [value, first.chars, last.chars]; rfl, last⟩

/-- The spans that are read one after the other are those of the matches by themselves. -/
theorem readAll_eq (hs : List (Head text)) {counter : CharCounter text} {q : Place text}
    (at_ : counter.IsAt q) : readAll hs counter = hs.map span := by
  induction hs generalizing counter q with
  | nil => rfl
  | cons h hs ih =>
    obtain ⟨span, last⟩ := h.read_eq at_
    rw [readAll, List.map_cons, ← span, ← ih last]

end Head

end TemplatePaint
