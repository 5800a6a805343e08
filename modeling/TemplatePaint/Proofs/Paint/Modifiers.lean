import Mathlib.Data.List.Nodup
import TemplatePaint.Proofs.Context.Innermost
import TemplatePaint.Proofs.Links.Modifiers
import TemplatePaint.Proofs.Paint.Bounds

/-!
# Highlighted modifiers

With the cursor on a class that has modifiers, each occurrence of one of these
in any class of the text is painted once, in the bucket of the modifier, and
the classes with the same modifiers, each as often, are painted as a whole; in
every other case nothing is painted (`Feature.edits_modifierHighlight`).

The modifiers of a text are written in it one after the other
(`Span.row_allModifiers`), so no two regions start at one place, and the plan
has those of one group as they come (`Region.inGroup_finish`). Modifiers are
numbered by first occurrence, and the number decides on the bucket
(`Links.mem_bucketed_occurrences`).
-/

namespace TemplatePaint

variable {text : String} {spans : List Span} {cursor : Nat} {t : Span}

namespace Span

/-! ## The modifiers of a text -/

/-- The modifiers of all classes of a text, in order. -/
def allModifiers (text : String) : List Name := (allClasses text).flatMap (·.names)

/-- The modifiers of the text that a class has too, wherever they occur, in order. -/
def occurrences (text : String) (token : Span) : List Name :=
  (allModifiers text).filter fun n => n.text ∈ token.names.map (·.text)

/-- The modifiers of a class, each once, in the order in which they first occur in the text. -/
def modifierOrder (text : String) (token : Span) : List String :=
  distinct ((occurrences text token).map (·.text))

/-- The classes of the text that have the modifiers of a class, each as often. -/
def alike (text : String) (token : Span) : List Span :=
  (allClasses text).filter fun c => (c.names.map (·.text)).Perm (token.names.map (·.text))

theorem kind_of_mem_allClasses (ht : t ∈ allClasses text) : t.kind = .classToken := by
  obtain ⟨a, -, v, -, ht⟩ := mem_allClasses_iff.1 ht
  obtain ⟨word, -, rfl⟩ := List.mem_map.1 ht
  rfl

/-- The modifiers of a class are written in it, each with its colon. -/
theorem row_names (ht : t ∈ allClasses text) : Name.Row text ":" t.range t.names := by
  have row := (located_of_mem_allClasses ht).names
  rwa [if_pos (kind_of_mem_allClasses ht)] at row

/-- The modifiers of all classes are written in the text one after the other, each with its
colon. -/
theorem row_allModifiers (text : String) :
    Name.Row text ":" ⟨0, text.toList.length⟩ (allModifiers text) where
  inside n hn := by
    obtain ⟨t, ht, hn⟩ := List.mem_flatMap.1 hn
    have within := TextRange.encloses_iff.1 ((row_names ht).inside n hn)
    have stop := (located_of_mem_allClasses ht).stop_le
    exact TextRange.encloses_iff.2 ⟨Nat.zero_le _, Nat.le_trans within.2 stop⟩
  nonempty n hn := by
    obtain ⟨t, ht, hn⟩ := List.mem_flatMap.1 hn
    exact (row_names ht).nonempty n hn
  slice_eq n hn := by
    obtain ⟨t, ht, hn⟩ := List.mem_flatMap.1 hn
    exact (row_names ht).slice_eq n hn
  pairwise := by
    refine List.pairwise_flatMap.2 ⟨fun t ht => (row_names ht).pairwise, ?_⟩
    refine (pairwise_allClasses text).imp_of_mem fun ht hu before n hn m hm => ?_
    have := TextRange.encloses_iff.1 ((row_names ht).inside n hn)
    have := TextRange.encloses_iff.1 ((row_names hu).inside m hm)
    omega

/-- So are the occurrences of the modifiers of one class. -/
theorem row_occurrences (text : String) (token : Span) :
    Name.Row text ":" ⟨0, text.toList.length⟩ (occurrences text token) :=
  (row_allModifiers text).filter _

/-- The stretches of modifiers of some classes have different starts, in order. -/
theorem pairwise_namesRange (p : Span → Bool) :
    (((allClasses text).filter p).filterMap namesRange?).Pairwise fun r s => r.start < s.start := by
  refine List.pairwise_filterMap.2 (((pairwise_allClasses text).filter p).imp_of_mem ?_)
  intro t u ht hu before r hr s hs
  have := (located_of_mem_allClasses (List.mem_filter.1 ht).1).bounds_of_namesRange? hr
  have := (located_of_mem_allClasses (List.mem_filter.1 hu).1).bounds_of_namesRange? hs
  omega

end Span

namespace Links

/-! ## What is linked -/

/-- The modifiers of a class are linked in their order, each with the ranges of its occurrences. -/
theorem occurrences_eq (text : String) (token : Span) :
    occurrences (Span.allClasses text) (distinct (token.names.map (·.text))) =
      (Span.modifierOrder text token).map fun modifier =>
        (modifier, ((Span.occurrences text token).filter (·.text == modifier)).map (·.range)) := by
  have found : (((Span.allClasses text).flatMap (·.names)).filter fun n =>
      (distinct (token.names.map (·.text))).contains n.text) = Span.occurrences text token := by
    refine List.filter_congr fun n _ => ?_
    rw [Bool.eq_iff_iff, List.contains_iff_mem, mem_distinct, decide_eq_true_iff]
  rw [occurrences, found]
  rfl

/-- Each occurrence of a modifier of a class is in the bucket of the modifier's number, and nothing
else is in a bucket. -/
theorem mem_bucketed_occurrences {token : Span} {r : Region} :
    r ∈ Style.bucketed (occurrences (Span.allClasses text) (distinct (token.names.map (·.text)))) ↔
      ∃ n ∈ Span.occurrences text token,
        r = .plain n.range (.bucket ((Span.modifierOrder text token).idxOf n.text)) := by
  have nodup : (Span.modifierOrder text token).Nodup := nodup_distinct _
  rw [occurrences_eq, Style.bucketed, List.zipIdx_map, List.flatMap_map, List.mem_flatMap]
  constructor
  · rintro ⟨⟨m, i⟩, numbered, hr⟩
    obtain ⟨range, hrange, rfl⟩ := List.mem_map.1 hr
    obtain ⟨n, own, rfl⟩ := List.mem_map.1 hrange
    obtain ⟨hn, same⟩ := List.mem_filter.1 own
    obtain ⟨lt, rfl⟩ := List.getElem?_eq_some_iff.1 (List.mk_mem_zipIdx_iff_getElem?.1 numbered)
    refine ⟨n, hn, ?_⟩
    rw [beq_iff_eq.1 same, nodup.idxOf_getElem]
    rfl
  · rintro ⟨n, hn, rfl⟩
    have listed : n.text ∈ Span.modifierOrder text token :=
      mem_distinct.2 (List.mem_map_of_mem hn)
    have own : n ∈ (Span.occurrences text token).filter (·.text == n.text) :=
      List.mem_filter.2 ⟨hn, beq_self_eq_true _⟩
    exact ⟨(n.text, _), List.mk_mem_zipIdx_iff_getElem?.2 (List.getElem?_idxOf listed),
      List.mem_map_of_mem (List.mem_map_of_mem own)⟩

/-- If a class has at least two different modifiers, the classes like it match it exactly. -/
theorem exactMatches_eq (token : Span) :
    exactMatches (Span.allClasses text) (distinct (token.names.map (·.text))) token.sortedNames =
      if 1 < (distinct (token.names.map (·.text))).length then
        (Span.alike text token).filterMap Span.namesRange?
      else [] := by
  rw [exactMatches]
  by_cases two : 1 < (distinct (token.names.map (·.text))).length
  · rw [if_pos two, if_pos two]
    have few := (sublist_distinctBy id (token.names.map (·.text))).length_le
    refine congrArg (List.filterMap Span.namesRange?) (List.filter_congr fun c _ => ?_)
    have same : c.sortedNames = token.sortedNames ↔
        (c.names.map (·.text)).Perm (token.names.map (·.text)) :=
      sortBy_eq_iff_perm (by simpa using fun _ _ _ => String.le_trans)
        (by simpa using String.le_total) (by simpa using fun _ _ => String.le_antisymm)
    rw [Bool.eq_iff_iff, Bool.and_eq_true, beq_iff_eq, same, decide_eq_true_iff, decide_eq_true_iff]
    refine and_iff_right_of_imp fun perm => ?_
    have length := perm.length_eq
    rw [List.length_map] at length
    rw [distinct] at two
    omega
  · rw [if_neg two, if_neg two]

end Links

/-! ## The class at the cursor -/

namespace Pass

variable {pass : Pass} {token : Span}

/-- The cursor is on a class that has modifiers, and on no comment. -/
structure OnModified (pass : Pass) (token : Span) : Prop where
  mem : token ∈ Span.allClasses pass.text
  touched : token.range.touches pass.snapshot.cursor = true
  modified : token.names ≠ []
  outside : ∀ s ∈ Span.scan pass.text [.comment], s.range.touches pass.snapshot.cursor = false

/-- With other kinds, a comment is at the cursor just if the cursor touches a comment of the
text. -/
theorem innermost_comment_isSome_iff (pass : Pass) (kinds : List SpanKind) :
    (Span.innermost (pass.spans kinds) pass.snapshot.cursor .comment).isSome = true ↔
      ∃ s ∈ Span.scan pass.text [.comment], s.range.touches pass.snapshot.cursor = true :=
  Span.isSome_innermost_scan (by simp)

theorem touchedClass_eq_some_iff :
    Context.touchedClass (pass.spans [.classAttribute]) pass.snapshot.cursor = some token ↔
      token ∈ Span.allClasses pass.text ∧ token.range.touches pass.snapshot.cursor = true :=
  Context.touchedClass_eq_some_iff (Span.filter_scan_eq_scan (by simp))

/-- On a class with modifiers, these are what the context is about. -/
theorem atCursor_of_onModified (h : pass.OnModified token) :
    Context.atCursor (pass.spans [.classAttribute]) pass.snapshot.cursor .modifiers =
      .modifiers token (distinct (token.names.map (·.text))) token.sortedNames := by
  have outside : ¬ (Span.innermost (pass.spans [.classAttribute]) pass.snapshot.cursor
      .comment).isSome = true := by
    rw [innermost_comment_isSome_iff]
    rintro ⟨s, hs, touched⟩
    exact Bool.false_ne_true ((h.outside s hs).symm.trans touched)
  have modified : ¬ (token.names.map (·.text)).isEmpty = true := by simpa using h.modified
  rw [Context.atCursor, if_neg outside, Context.ofModifiers,
    touchedClass_eq_some_iff.2 ⟨h.mem, h.touched⟩]
  dsimp only
  rw [if_neg modified]
  rfl

/-- Elsewhere there is no active context. -/
theorem isActive_atCursor_of_not_onModified (h : ∀ token, ¬ pass.OnModified token) :
    (Context.atCursor (pass.spans [.classAttribute]) pass.snapshot.cursor .modifiers).isActive =
      false := by
  rw [Context.atCursor]
  split
  · rfl
  · rename_i outside
    rw [innermost_comment_isSome_iff] at outside
    rw [Context.ofModifiers]
    split
    · rfl
    · rename_i token found
      obtain ⟨mem, touched⟩ := touchedClass_eq_some_iff.1 found
      dsimp only
      split
      · rfl
      · rename_i modified
        refine absurd ⟨mem, touched, by simpa using modified, fun s hs => ?_⟩ (h token)
        exact Bool.eq_false_iff.2 fun on => outside ⟨s, hs, on⟩

/-- On a class with modifiers, their occurrences and the classes like it are planned. -/
theorem plan_of_onModified (h : pass.OnModified token) :
    pass.plan (pass.spans [.classAttribute]) .modifiers .buckets = Region.finish
      (Style.bucketed
          (Links.occurrences (Span.allClasses pass.text) (distinct (token.names.map (·.text)))) ++
        (if 1 < (distinct (token.names.map (·.text))).length then
            (Span.alike pass.text token).filterMap Span.namesRange?
          else []).map (Region.plain · .modifierExact)) := by
  have classes : Links.classesOf (pass.spans [.classAttribute]) = Span.allClasses pass.text :=
    Links.classesOf_scan List.mem_cons_self
  have active : Style.applies (.modifiers token (distinct (token.names.map (·.text)))
      token.sortedNames) .buckets = true := rfl
  rw [plan, atCursor_of_onModified h]
  rw [Style.plan, if_pos active, Style.regions, Context.links, Links.ofModifiers, classes]
  dsimp only
  rw [Links.exactMatches_eq]

/-- Elsewhere nothing is planned. -/
theorem plan_of_not_onModified (h : ∀ token, ¬ pass.OnModified token) :
    pass.plan (pass.spans [.classAttribute]) .modifiers .buckets = [] :=
  if_neg (ne_true_of_eq_false (isActive_atCursor_of_not_onModified h))

/-- A bucket has the occurrences of the modifiers whose number leaves its remainder. -/
theorem inGroup_bucket (h : pass.OnModified token) (k : Nat) :
    Region.inGroup (pass.plan (pass.spans [.classAttribute]) .modifiers .buckets) (.bucket k) =
      ((Span.occurrences pass.text token).filter fun n =>
        (Span.modifierOrder pass.text token).idxOf n.text % 5 = k % 5).map fun n =>
          Region.plain n.range (.bucket k) := by
  have row := Span.row_occurrences pass.text token
  rw [plan_of_onModified h]
  refine Region.inGroup_finish (fun r => ?_) (List.pairwise_map.2 ?_)
  · rw [List.mem_append, Links.mem_bucketed_occurrences]
    constructor
    · intro hr
      obtain ⟨n, hn, rfl⟩ := List.mem_map.1 hr
      obtain ⟨hn, number⟩ := List.mem_filter.1 hn
      refine ⟨.inl ⟨n, hn, ?_⟩, rfl⟩
      rw [Group.bucket_eq_iff.2 (of_decide_eq_true number)]
    · rintro ⟨⟨n, hn, rfl⟩ | exact, group⟩
      · have number := Group.bucket_eq_iff.1 group
        refine List.mem_map.2 ⟨n, List.mem_filter.2 ⟨hn, decide_eq_true number⟩, ?_⟩
        rw [Group.bucket_eq_iff.2 number]
      · obtain ⟨range, -, rfl⟩ := List.mem_map.1 exact
        exact Group.noConfusion group
  · refine (row.pairwise.filter _).imp_of_mem fun hn _ before => ?_
    exact .inl (Nat.lt_of_lt_of_le (row.nonempty _ (List.mem_filter.1 hn).1) before)

/-- The classes that have the same modifiers, each as often, are matched exactly if there are two
different ones. -/
theorem inGroup_modifierExact (h : pass.OnModified token) :
    Region.inGroup (pass.plan (pass.spans [.classAttribute]) .modifiers .buckets) .modifierExact =
      (if 1 < (distinct (token.names.map (·.text))).length then
          (Span.alike pass.text token).filterMap Span.namesRange?
        else []).map (Region.plain · .modifierExact) := by
  rw [plan_of_onModified h]
  refine Region.inGroup_finish (fun r => ?_) (List.pairwise_map.2 ?_)
  · rw [List.mem_append, Links.mem_bucketed_occurrences]
    constructor
    · intro hr
      obtain ⟨range, -, rfl⟩ := List.mem_map.1 hr
      exact ⟨.inr hr, rfl⟩
    · rintro ⟨⟨n, -, rfl⟩ | exact, group⟩
      · exact Group.noConfusion group
      · exact exact
  · split
    · exact (Span.pairwise_namesRange _).imp .inl
    · exact .nil

end Pass

namespace Feature

/-- With the cursor on a class with modifiers and on no comment, each bucket has one region for
every occurrence, in any class of the text, of those of its modifiers whose number leaves the
remainder of the bucket; it covers the modifier and its colon. If the class has two different
modifiers, the classes with its modifiers, each as often, match it exactly, from the first modifier
to the colon of the last. In every other case all six groups are cleared. -/
theorem edits_modifierHighlight (pass : Pass) :
    let edits := modifierHighlight.edits pass
    edits.map Edit.group =
        [.bucket 0, .bucket 1, .bucket 2, .bucket 3, .bucket 4, .modifierExact] ∧
      (∀ token, pass.OnModified token →
        Name.Row pass.text ":" ⟨0, pass.text.toList.length⟩ (Span.occurrences pass.text token) ∧
          (∀ e ∈ edits, ∀ k, e.group = .bucket k →
            e.regions = ((Span.occurrences pass.text token).filter fun n =>
              (Span.modifierOrder pass.text token).idxOf n.text % 5 = k % 5).map fun n =>
                Region.plain n.range (.bucket k)) ∧
          ∀ e ∈ edits, e.group = .modifierExact →
            e.regions = (if 1 < (distinct (token.names.map (·.text))).length then
                (Span.alike pass.text token).filterMap Span.namesRange?
              else []).map (Region.plain · .modifierExact)) ∧
      ((¬ ∃ token, pass.OnModified token) → edits = Edit.clearAll Group.modifierGroups) := by
  intro edits
  refine ⟨map_group_edits pass modifierHighlight, fun token on => ?_, fun off => ?_⟩
  · refine ⟨Span.row_occurrences pass.text token, fun e he k group => ?_, fun e he group => ?_⟩
    · rw [Edit.regions_of_mem_ofPlan he, group, Pass.inGroup_bucket on]
    · rw [Edit.regions_of_mem_ofPlan he, group, Pass.inGroup_modifierExact on]
  · show Edit.ofPlan (pass.plan _ _ _) _ = _
    rw [Pass.plan_of_not_onModified (not_exists.1 off)]
    exact Edit.ofPlan_nil _

/-- On the first of two classes with the modifiers `a` and `b`, three occurrences of `b` are
painted, one of them in a third class, and two exact matches. -/
theorem edits_on_shared_modifiers :
    let pass : Pass := ⟨.ofCursor "class=\"a:b:x b:a: c:b:y\"" 8 false, .always, none, []⟩
    pass.OnModified (Name.classToken ⟨"a:b:x", ⟨7, 12⟩⟩) ∧
      ∀ e ∈ modifierHighlight.edits pass,
        (e.group = .bucket 1 → e.regions.map (·.range) = [⟨9, 11⟩, ⟨13, 15⟩, ⟨20, 22⟩]) ∧
          (e.group = .modifierExact → e.regions.map (·.range) = [⟨7, 11⟩, ⟨13, 17⟩]) := by
  intro pass
  have on : pass.OnModified (Name.classToken ⟨"a:b:x", ⟨7, 12⟩⟩) :=
    ⟨by decide +kernel, by decide +kernel, by decide +kernel, by decide +kernel⟩
  obtain ⟨-, bucket, exact⟩ := (edits_modifierHighlight pass).2.1 _ on
  refine ⟨on, fun e he => ⟨fun group => ?_, fun group => ?_⟩⟩
  · rw [bucket e he 1 group]
    decide +kernel
  · rw [exact e he group]
    decide +kernel

end Feature

end TemplatePaint
