import TemplatePaint.Span.Rule

/-!
# The spans of a template

The rules are run side by side. Each looks ahead to its next match, its head;
the earliest head is taken, and the heads of its kind that it overlaps are
looked for again behind it. So spans of one kind never overlap, and spans of
different kinds may.

* `mem_of_earliest`, `le_of_earliest`: the head that is taken is one of the
  heads, and none starts before it;
* `remaining_advance_lt`: every head that is taken leaves less to scan.
-/

namespace TemplatePaint

/-- A rule and its next match. -/
structure Head (text : List Char) where
  rule : Rule
  found : Match text

namespace Head

variable {text : List Char}

/-- The offset where the match starts. -/
def start (h : Head text) : Nat := h.found.start.offset

/-- The offset where the match stops. -/
def stop (h : Head text) : Nat := h.found.stop.offset

/-- The next match of a rule, from `place` on. -/
def seek (rule : Rule) (place : Place text) : Option (Head text) :=
  (rule.seek place).map fun m => ⟨rule, m⟩

/-- The head that starts first; of heads that start together, the first in the list. -/
def earliest : List (Head text) → Option (Head text)
  | [] => none
  | h :: hs =>
    match earliest hs with
    | none => some h
    | some g => if h.start ≤ g.start then some h else some g

/-- What becomes of the head `h` when `taken` is taken: a head of the same kind that starts
before `taken` stops is looked for again from there. -/
def resume (taken h : Head text) : Option (Head text) :=
  if h.rule.kind = taken.rule.kind ∧ h.start < taken.stop then seek h.rule taken.found.stop
  else some h

/-- The heads after `taken` is taken. -/
def advance (taken : Head text) (heads : List (Head text)) : List (Head text) :=
  heads.filterMap (resume taken)

/-- How much of the text the heads may still cover. -/
def remaining (heads : List (Head text)) : Nat :=
  heads.foldr (fun h rest => text.length + 1 - h.start + rest) 0

theorem mem_of_earliest {heads : List (Head text)} {e : Head text}
    (h : earliest heads = some e) : e ∈ heads := by
  induction heads generalizing e with
  | nil => simp [earliest] at h
  | cons g hs ih =>
    rw [earliest] at h
    split at h
    · simp_all
    · rename_i f hf
      split at h
      · simp_all
      · exact List.mem_cons_of_mem _ (Option.some.inj h ▸ ih hf)

theorem le_of_earliest {heads : List (Head text)} {e h : Head text}
    (he : earliest heads = some e) (hh : h ∈ heads) : e.start ≤ h.start := by
  induction heads generalizing e with
  | nil => simp at hh
  | cons g hs ih =>
    rw [earliest] at he
    split at he
    · rename_i hn
      have : hs = [] := by
        cases hs with
        | nil => rfl
        | cons f fs => simp only [earliest] at hn; split at hn <;> (try split at hn) <;> simp_all
      simp_all
    · rename_i f hf
      rcases List.mem_cons.1 hh with rfl | hh
      · split at he <;> obtain rfl := Option.some.inj he <;> omega
      · have := ih hf hh
        split at he <;> obtain rfl := Option.some.inj he <;> omega

theorem le_start_of_seek {rule : Rule} {place : Place text} {h : Head text}
    (hs : seek rule place = some h) : place.offset ≤ h.start := by
  obtain ⟨m, hm, rfl⟩ := Option.map_eq_some_iff.1 hs
  exact Rule.le_start_of_seek hm

theorem stop_le_length (h : Head text) : h.stop ≤ text.length := by
  have := h.found.stop.offset_add_length
  unfold stop
  omega

/-- A head that is kept or looked for again starts no earlier than before. -/
theorem start_le_of_resume {taken h g : Head text} (hg : resume taken h = some g) :
    h.start ≤ g.start := by
  unfold resume at hg
  split at hg
  · rename_i hc
    exact Nat.le_trans (Nat.le_of_lt hc.2) (le_start_of_seek hg)
  · exact Nat.le_of_eq (congrArg start (Option.some.inj hg))

theorem remaining_advance_le (taken : Head text) (heads : List (Head text)) :
    remaining (advance taken heads) ≤ remaining heads := by
  induction heads with
  | nil => simp [remaining, advance]
  | cons h hs ih =>
    simp only [remaining, advance, List.foldr_cons] at ih ⊢
    cases hg : resume taken h with
    | none => simp only [List.filterMap_cons_none hg]; omega
    | some g =>
      have := start_le_of_resume hg
      simp only [List.filterMap_cons_some hg, List.foldr_cons]
      omega

/-- Every head that is taken leaves less to scan. -/
theorem remaining_advance_lt {taken : Head text} {heads : List (Head text)}
    (hm : taken ∈ heads) (hlt : taken.start < taken.stop) :
    remaining (advance taken heads) < remaining heads := by
  induction heads with
  | nil => simp at hm
  | cons h hs ih =>
    have hle := remaining_advance_le taken hs
    simp only [remaining, advance, List.foldr_cons] at ih hle ⊢
    rcases List.mem_cons.1 hm with rfl | hm
    · have hlen := taken.stop_le_length
      cases hg : resume taken taken with
      | none => simp only [List.filterMap_cons_none hg]; omega
      | some g =>
        have : taken.stop ≤ g.start := by
          unfold resume at hg
          rw [if_pos ⟨rfl, hlt⟩] at hg
          exact le_start_of_seek hg
        simp only [List.filterMap_cons_some hg, List.foldr_cons]
        omega
    · have := ih hm
      cases hg : resume taken h with
      | none => simp only [List.filterMap_cons_none hg]; omega
      | some g =>
        have := start_le_of_resume hg
        simp only [List.filterMap_cons_some hg, List.foldr_cons]
        omega

/-- The heads that are taken one after the other, from these on. -/
def merge (heads : List (Head text)) : List (Head text) :=
  match _h : earliest heads with
  | none => []
  | some taken =>
    if _hlt : taken.start < taken.stop then taken :: merge (advance taken heads)
    else [taken]
termination_by remaining heads
decreasing_by exact remaining_advance_lt (mem_of_earliest ‹_›) ‹_›

/-! ## Spans -/

/-- The value of a captured stretch, and the counter at its end. -/
def readValue (s : Stretch text) (counter : CharCounter text) : Name × CharCounter text :=
  let first := counter.moveTo s.start.byteOffset
  let last := first.moveTo s.stop.byteOffset
  (⟨String.ofList s.chars, ⟨first.chars, last.chars⟩⟩, last)

/-- The span of the match, and the counter at its end: where it starts, what it captured and where
it stops are counted one after the other. -/
def read (h : Head text) (counter : CharCounter text) : Span × CharCounter text :=
  let first := counter.moveTo h.found.start.byteOffset
  let (captured, counter) :=
    match h.found.captured with
    | some s => let (value, counter) := readValue s first; (some value, counter)
    | none => (none, first)
  let last := counter.moveTo h.found.stop.byteOffset
  (h.rule.span ⟨first.chars, last.chars⟩ captured, last)

/-- The spans of the matches, read one after the other. -/
def readAll : List (Head text) → CharCounter text → List Span
  | [], _ => []
  | h :: hs, counter =>
    let (span, counter) := h.read counter
    span :: readAll hs counter

end Head

namespace Rule

/-- The rule's spans are asked for, by themselves or as class attributes to be split. -/
def serves (rule : Rule) (kinds : List SpanKind) : Bool :=
  kinds.contains rule.kind ||
    (kinds.contains .classToken && rule.kind == .classAttribute)

end Rule

namespace Span

/-- A span as it is asked for: if class tokens are wanted, a class attribute comes with, or is
replaced by, its classes that have modifiers. -/
def expand (kinds : List SpanKind) (span : Span) : List Span :=
  if kinds.contains .classToken && span.kind == .classAttribute then
    (if kinds.contains .classAttribute then [span] else []) ++
      ((span.value?.map Name.classTokens).getD []).filter (!·.names.isEmpty)
  else [span]

/-- The spans of the given kinds in a text, in the order of their starts. -/
def scan (text : String) (kinds : List SpanKind) : List Span :=
  let heads := (Rule.table.filter (·.serves kinds)).filterMap
    (Head.seek · (Place.first text.toList))
  (Head.readAll (Head.merge heads) .start).flatMap (expand kinds)

end Span

end TemplatePaint
