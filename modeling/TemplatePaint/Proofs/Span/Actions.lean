import TemplatePaint.Proofs.Span.Controllers

/-!
# Action lists

An action is written as an event, an arrow, a controller, a number sign and a
method. Where all words of a value are actions, the controllers that are read
in the value are theirs, in order (`Rule.actionTargets_eq`): from the end of one
match on, the next one starts at the arrow of the next action and stops behind
its number sign (`Rule.search_actionTarget`).
-/

namespace TemplatePaint

/-- An identifier: letters, digits, underscores and hyphens, at least one. -/
structure Identifier where
  text : String
  nonempty : text ≠ ""
  chars : text.toList.all isIdentifierChar = true

theorem Identifier.not_mem (name : Identifier) {c : Char} (other : isIdentifierChar c = false) :
    c ∉ name.text.toList :=
  fun mem => Bool.false_ne_true (other.symm.trans (List.all_eq_true.1 name.chars c mem))

/-- An action, and where it starts. -/
structure WrittenAction where
  start : Nat
  event : Identifier
  controller : Identifier
  method : Identifier

namespace WrittenAction

/-- The characters of the action. -/
def text (a : WrittenAction) : String :=
  a.event.text ++ "->" ++ a.controller.text ++ "#" ++ a.method.text

/-- The action as a word of its value. -/
def word (a : WrittenAction) : Name := ⟨a.text, ⟨a.start, a.start + a.text.toList.length⟩⟩

/-- The controller of the action, where it is written. -/
def target (a : WrittenAction) : Name :=
  let first := a.start + a.event.text.toList.length + 2
  ⟨a.controller.text, ⟨first, first + a.controller.text.toList.length⟩⟩

theorem toList_text (a : WrittenAction) : a.text.toList = a.event.text.toList ++
    '-' :: '>' :: a.controller.text.toList ++ '#' :: a.method.text.toList := by
  rw [text]
  simp only [String.toList_append, List.append_assoc]
  rfl

theorem length_text (a : WrittenAction) : a.text.toList.length =
    a.event.text.toList.length + 2 + a.controller.text.toList.length + 1 +
      a.method.text.toList.length := by
  rw [toList_text]
  simp only [List.length_append, List.length_cons]
  omega

end WrittenAction

namespace Rule

variable {text : List Char}

/-! ## One controller -/

/-- A character that has none of its like in front of it splits the text in one way. -/
theorem append_cons_inj {c : Char} {as bs rest rest' : List Char} (first : c ∉ as) (first' : c ∉ bs)
    (same : as ++ c :: rest = bs ++ c :: rest') : as = bs ∧ rest = rest' := by
  induction as generalizing bs with
  | nil =>
    cases bs with
    | nil => exact ⟨rfl, (List.cons.inj same).2⟩
    | cons b bs => exact absurd (List.cons.inj same).1 fun e => first' (e ▸ List.mem_cons_self)
  | cons a as ih =>
    cases bs with
    | nil => exact absurd (List.cons.inj same).1 fun e => first (e ▸ List.mem_cons_self)
    | cons b bs =>
      obtain ⟨rfl, tails⟩ := List.cons.inj same
      obtain ⟨rfl, rest⟩ := ih (fun h => first (List.mem_cons_of_mem a h))
        (fun h => first' (List.mem_cons_of_mem a h)) tails
      exact ⟨rfl, rest⟩

/-- What a match reads: up to two characters, a controller, and the first number sign. -/
theorem exists_split_of_actionTarget {q : Place text} {m : Match text}
    (h : actionTarget.matchAt q = some m) :
    ∃ lead name, q.after = lead ++ name ++ '#' :: m.stop.after ∧ lead.length ≤ 2 ∧
      '#' ∉ lead ++ name ∧ '>' ∉ name ∧ ∃ s, m.captured = some s ∧ s.chars = name ∧
        s.range = ⟨q.offset + lead.length, q.offset + lead.length + name.length⟩ := by
  obtain ⟨r, way, -, stop, captured⟩ := Pattern.exists_way_of_matchAt h
  obtain ⟨t, ht, way⟩ := List.mem_flatMap.1 way
  obtain ⟨u, hu, way⟩ := List.mem_flatMap.1 way
  obtain ⟨w, hw, rfl⟩ := List.mem_map.1 hu
  obtain ⟨lead, after, leads⟩ := Pattern.exists_reads_of_mem_ways ht
  obtain ⟨name, after', reads⟩ := Pattern.exists_reads_of_mem_ways hw
  obtain ⟨_, after'', sign, rfl, isSign⟩ := Pattern.exists_reads_of_mem_ways way
  obtain rfl : sign = '#' := eq_of_beq isSign
  have kept : r.captured = some ⟨t.place, w.place⟩ :=
    (Pattern.captured_of_mem_ways way).resolve_right fun ⟨_, mem, _⟩ => List.not_mem_nil mem
  have short : lead.length ≤ 2 ∧ '#' ∉ lead := by
    rcases leads with rfl | ⟨c, rfl, blank⟩ | rfl
    · exact ⟨by simp, by simp⟩
    · refine ⟨by simp, fun sign => ?_⟩
      rw [← List.mem_singleton.1 sign] at blank
      exact absurd blank (by decide)
    · exact ⟨by decide, by decide⟩
  have chars := (Pattern.reads_oneOrMore_iff.1 reads).2
  have out {c : Char} (other : isIdentifierChar c = false) : c ∉ name :=
    fun mem => Bool.false_ne_true (other.symm.trans (chars c mem))
  have start := Place.offset_of_after_eq after
  have last := Place.offset_of_after_eq after'
  refine ⟨lead, name, ?_, short.1, ?_, out (by decide), ⟨t.place, w.place⟩, captured.trans kept,
    Stretch.chars_of_after_eq after', ?_⟩
  · rw [stop, List.append_assoc]
    exact after.trans (congrArg (lead ++ ·) (after'.trans (congrArg (name ++ ·) after'')))
  · exact fun mem => (List.mem_append.1 mem).elim short.2 (out (by decide))
  · rw [Stretch.range, last, start]

/-- Up to the arrow before an identifier with a number sign behind it, a match starts only at the
arrow, and captures the identifier. -/
theorem captured_of_actionTarget {q : Place text} {m : Match text}
    (h : actionTarget.matchAt q = some m) {back rest : List Char} {name : Identifier}
    (after : q.after = back ++ '-' :: '>' :: name.text.toList ++ '#' :: rest)
    (quiet : '#' ∉ back) :
    back = [] ∧ m.stop.after = rest ∧ ∃ s, m.captured = some s ∧ s.chars = name.text.toList ∧
      s.range = ⟨q.offset + 2, q.offset + 2 + name.text.toList.length⟩ := by
  obtain ⟨lead, read, split, short, first, out, s, captured, chars, range⟩ :=
    exists_split_of_actionTarget h
  have noSign : '#' ∉ back ++ '-' :: '>' :: name.text.toList := by
    have := name.not_mem (c := '#') (by decide)
    simp [quiet, this]
  obtain ⟨same, rest⟩ := append_cons_inj noSign first (after.symm.trans split)
  -- the arrow's head is not part of what is captured, so all before it is in the lead
  obtain ⟨rfl, rfl, rfl⟩ : back = [] ∧ lead = ['-', '>'] ∧ read = name.text.toList := by
    have parts : (back ++ ['-']) ++ '>' :: name.text.toList = lead ++ read := by
      rw [← same, List.append_assoc]
      rfl
    rcases List.append_eq_append_iff.1 parts with ⟨front, rfl, tail⟩ | ⟨front, -, tail⟩
    · cases front with
      | nil => exact absurd (show '>' ∈ [] ++ read from tail ▸ List.mem_cons_self) out
      | cons c front =>
        obtain ⟨rfl, behind⟩ := List.cons.inj tail
        simp only [List.length_append, List.length_cons, List.length_nil] at short
        obtain rfl : back = [] := List.length_eq_zero_iff.1 (by omega)
        obtain rfl : front = [] := List.length_eq_zero_iff.1 (by omega)
        exact ⟨rfl, rfl, behind.symm⟩
    · exact absurd (tail ▸ List.mem_append_right _ List.mem_cons_self) out
  exact ⟨rfl, rest.symm, s, captured, chars, range⟩

/-- At the arrow there is such a match. -/
theorem exists_matchAt_arrow {q : Place text} {name : Identifier} {rest : List Char}
    (after : q.after = '-' :: '>' :: name.text.toList ++ '#' :: rest) :
    ∃ m, actionTarget.matchAt q = some m := by
  have some : name.text.toList ≠ [] := fun none => name.nonempty (String.toList_eq_nil_iff.1 none)
  have name_reads := Pattern.reads_oneOrMore_iff.2 ⟨some, List.all_eq_true.1 name.chars⟩
  have arrow : (Pattern.word "->").Reads ['-', '>'] := rfl
  have target : (Pattern.seq (.capture (Pattern.oneOrMore isIdentifierChar))
      (Pattern.char '#')).Reads (name.text.toList ++ ['#']) :=
    ⟨_, _, rfl, name_reads, '#', rfl, rfl⟩
  have parts : q.after = ['-', '>'] ++ (name.text.toList ++ '#' :: rest) := after
  obtain ⟨t, ht, behind⟩ := Pattern.exists_way_of_reads (r := ⟨q, none⟩) rfl parts arrow
  obtain ⟨s, hs, -⟩ := Pattern.exists_way_of_reads rfl
    (behind.trans (List.append_assoc name.text.toList ['#'] rest).symm) target
  -- the arrow is the last of the three things that may stand before a controller
  refine Pattern.exists_matchAt_of_mem_ways (s := s) (List.mem_flatMap.2 ⟨t, ?_, hs⟩)
  exact List.mem_append_right _ (List.mem_append_right _ ht)

/-- The next controller is the one behind the next arrow, if no number sign comes before that. -/
theorem search_actionTarget {p : Place text} {front rest : List Char} {name : Identifier}
    (after : p.after = front ++ '-' :: '>' :: name.text.toList ++ '#' :: rest)
    (quiet : '#' ∉ front) :
    ∃ m, actionTarget.search p = some m ∧ m.stop.after = rest ∧ ∃ s, m.captured = some s ∧
      s.chars = name.text.toList ∧
      s.range = ⟨p.offset + front.length + 2,
        p.offset + front.length + 2 + name.text.toList.length⟩ := by
  rw [List.append_assoc] at after
  obtain ⟨q, arrow⟩ := Place.exists_after after
  have offset : q.offset = p.offset + front.length :=
    Place.offset_of_after_eq (after.trans (congrArg (front ++ ·) arrow.symm))
  obtain ⟨m, hm⟩ := exists_matchAt_arrow arrow
  have start := Pattern.start_of_matchAt hm
  have captured := captured_of_actionTarget hm
    (arrow : q.after = [] ++ '-' :: '>' :: name.text.toList ++ '#' :: rest) List.not_mem_nil
  rw [offset] at captured
  refine ⟨m, Pattern.search_eq_some_iff.2 ⟨?_, start ▸ hm, fun place le lt => ?_⟩, captured.2⟩
  · rw [start, offset]
    exact Nat.le_add_right _ _
  · rw [start, offset] at lt
    refine Option.eq_none_iff_forall_ne_some.2 fun m' hm' => ?_
    have back : place.after = front.drop (place.offset - p.offset) ++
        '-' :: '>' :: name.text.toList ++ '#' :: rest := by
      rw [Place.after_eq_drop_of_le le, after, List.drop_append_of_le_length (by omega),
        List.append_assoc]
    have nothing := (captured_of_actionTarget hm' back
      fun sign => quiet (List.mem_of_mem_drop sign)).1
    rw [List.drop_eq_nil_iff] at nothing
    omega

/-- Where no number sign follows, there is no controller. -/
theorem search_actionTarget_eq_none {p : Place text} (quiet : '#' ∉ p.after) :
    actionTarget.search p = none := by
  refine Option.eq_none_iff_forall_ne_some.2 fun m hm => ?_
  obtain ⟨le, found, -⟩ := Pattern.search_eq_some_iff.1 hm
  obtain ⟨lead, name, split, -⟩ := exists_split_of_actionTarget found
  refine quiet (List.mem_of_mem_drop (i := m.start.offset - p.offset) ?_)
  rw [← Place.after_eq_drop_of_le le, split]
  exact List.mem_append_right _ List.mem_cons_self

/-- Where an action follows, its controller is read next, up to behind its number sign. -/
theorem search_of_action {p : Place text} {front rest : List Char} (a : WrittenAction)
    (after : p.after = front ++ (a.text.toList ++ rest)) (quiet : '#' ∉ front) :
    ∃ m, actionTarget.search p = some m ∧ m.stop.after = a.method.text.toList ++ rest ∧
      m.stop.offset + a.method.text.toList.length =
        p.offset + front.length + a.text.toList.length ∧
      ∀ base, base + (p.offset + front.length) = a.start → m.captured.map (fun s =>
        (⟨String.ofList s.chars, s.range.shift base⟩ : Name)) = some a.target := by
  have next : p.after = (front ++ a.event.text.toList) ++
      '-' :: '>' :: a.controller.text.toList ++ '#' :: (a.method.text.toList ++ rest) := by
    rw [after, a.toList_text]
    simp
  have noSign : '#' ∉ front ++ a.event.text.toList := by
    rw [List.mem_append, not_or]
    exact ⟨quiet, a.event.not_mem (by decide)⟩
  obtain ⟨m, found, stop, s, captured, chars, range⟩ := search_actionTarget next noSign
  refine ⟨m, found, stop, ?_, fun base start => ?_⟩
  · have whole : m.stop.offset = p.offset + ((front ++ a.event.text.toList) ++
        '-' :: '>' :: a.controller.text.toList ++ ['#']).length :=
      Place.offset_of_after_eq (by rw [next, stop]; simp)
    rw [whole, a.length_text]
    simp only [List.length_append, List.length_cons, List.length_nil]
    omega
  · rw [captured, Option.map_some, chars, range, String.ofList_toList, WrittenAction.target]
    simp only [TextRange.shift, List.length_append, ← start, Option.some.injEq, Name.mk.injEq,
      TextRange.mk.injEq, true_and]
    omega

/-! ## All controllers -/

/-- Where actions follow, perhaps behind the end of one, the controllers that are read from there on
are theirs. -/
theorem filterMap_allFrom_actionTarget {base : Nat} {actions : List WrittenAction} {p : Place text}
    {before cs : List Char} (after : p.after = before ++ cs) (quiet : '#' ∉ before)
    (words : (runs isBlank (p.offset + before.length) cs).map (·.toName base) =
      actions.map WrittenAction.word) :
    ((actionTarget.allFrom p).filterMap fun m => m.captured.map fun s =>
      (⟨String.ofList s.chars, s.range.shift base⟩ : Name)) = actions.map WrittenAction.target := by
  induction actions generalizing p before cs with
  | nil =>
    have blank := separator_of_runs_eq_nil (List.map_eq_nil_iff.1 words)
    have noSign : '#' ∉ p.after := by
      rw [after, List.mem_append, not_or]
      exact ⟨quiet, fun sign => absurd (blank _ sign) (by decide)⟩
    rw [Pattern.allFrom, search_actionTarget_eq_none noSign]
    rfl
  | cons a actions ih =>
    obtain ⟨r, rs, run, first, later⟩ := List.map_eq_cons_iff.1 words
    obtain ⟨gap, rest, split, blank, start, behind⟩ := exists_split_of_runs_eq_cons run
    have own : r.text = a.text.toList := by
      have := congrArg (fun n : Name => n.text.toList) first
      simpa [Run.toName, WrittenAction.word] using this
    have place : base + r.start = a.start := congrArg (fun n : Name => n.range.start) first
    have noSign : '#' ∉ before ++ gap := by
      rw [List.mem_append, not_or]
      exact ⟨quiet, fun sign => absurd (blank _ sign) (by decide)⟩
    obtain ⟨m, found, stop, offset, target⟩ := search_of_action a
      (show p.after = (before ++ gap) ++ (a.text.toList ++ rest) by
        rw [after, split, own, List.append_assoc]) noSign
    rw [List.length_append, ← Nat.add_assoc, ← start] at offset target
    have resumed : m.stop.offset + a.method.text.toList.length = r.stop := by
      rw [offset, Run.stop, own]
    have lt : p.offset < m.stop.offset := by
      have := a.length_text
      omega
    rw [Pattern.allFrom, found]
    dsimp only
    rw [dif_pos lt, List.filterMap_cons, target base place, List.map_cons,
      ih stop (a.method.not_mem (by decide)) (by rw [resumed, behind, later])]

/-- If the words of a value are actions, the controllers in it are theirs, in order. -/
theorem actionTargets_eq {v : Name} {actions : List WrittenAction}
    (words : v.words = actions.map WrittenAction.word) :
    actionTargets v = actions.map WrittenAction.target := by
  have whole : (Place.first v.text.toList).after = [] ++ v.text.toList := rfl
  exact filterMap_allFrom_actionTarget whole List.not_mem_nil words

/-- A rule for actions captures its value behind what it starts with. -/
theorem captureOffset?_of_action {rule : Rule} (mem : rule ∈ table) (kind : rule.kind = .action) :
    ∃ n, rule.pattern.captureOffset? = some n ∧ 0 < n := by
  have all : ∀ e ∈ table.map fun rule => (rule.kind, rule.pattern.captureOffset?),
      e.1 = .action → e.2.any (0 < ·) = true := by decide
  obtain ⟨n, always, pos⟩ := (Option.any_eq_true _ _).1 (all _ (List.mem_map_of_mem mem) kind)
  exact ⟨n, always, of_decide_eq_true pos⟩

end Rule

/-- An action list starts before its value, and carries the controllers in it. -/
theorem Span.names_of_action {text : String} {kinds : List SpanKind} {s : Span}
    (h : s ∈ scan text kinds) (kind : s.kind = .action) {v : Name} (hv : s.value? = some v) :
    s.range.start < v.range.start ∧ s.names = Rule.actionTargets v := by
  have whole : s.kind ≠ .classToken := by
    rw [kind]
    decide
  obtain ⟨g, ⟨mem, place, found⟩, same, rfl⟩ := exists_head_of_mem_scan h whole
  have action := same.trans kind
  have shape := Rule.shape_of_controllers mem (by simp [action])
  simp only [action, List.mem_cons, List.not_mem_nil, or_false, Prod.mk.injEq, reduceCtorEq,
    false_and, false_or, true_and] at shape
  obtain ⟨n, always, pos⟩ := Rule.captureOffset?_of_action mem action
  obtain ⟨c, captured, behind⟩ :=
    Pattern.captured_of_matchAt_captureOffset? always (Rule.matchAt_of_seek found)
  obtain ⟨c', captured', rfl⟩ := Option.map_eq_some_iff.1 (value?_span hv)
  obtain rfl := Option.some.inj (captured.symm.trans captured')
  refine ⟨Nat.lt_of_lt_of_le (Nat.lt_add_of_pos_right pos) behind, ?_⟩
  rw [Head.span, captured, Rule.span, names, shape]
  rfl

end TemplatePaint
