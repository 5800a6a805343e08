import TemplatePaint.Links
import TemplatePaint.Proofs.Context.Touching
import TemplatePaint.Proofs.Span.Located

/-!
# The innermost span of a scan

The spans of one kind in a scan come one after the other, so the first that the
cursor touches is the innermost (`Span.innermost_scan`), and no two have the same
range, so that none is lost when spans of a scan are linked
(`Span.mem_gather_filter_scan`).
-/

namespace TemplatePaint

namespace Span

variable {text : String} {kinds : List SpanKind} {kind : SpanKind} {cursor : Nat} {s : Span}

/-- If the spans of a kind come one after the other, the first that the cursor touches is the
innermost. -/
theorem innermost_eq_find? {spans : List Span}
    (nonempty : ∀ s ∈ spans, s.range.start < s.range.stop)
    (apart : (spans.filter (·.kind == kind)).Pairwise fun s t => s.range.stop ≤ t.range.start) :
    innermost spans cursor kind =
      (spans.filter (·.kind == kind)).find? (·.range.touches cursor) := by
  have within : ∀ s ∈ touching spans cursor kind, s.range.start < s.range.stop :=
    fun s hs => nonempty s (mem_touching.1 hs).1
  have apart := apart.filter (·.range.touches cursor)
  rw [← touching_eq_filter] at apart
  have first : (spans.filter (·.kind == kind)).find? (·.range.touches cursor) =
      (touching spans cursor kind).head? := by
    rw [touching_eq_filter, List.head?_filter]
  rw [innermost_eq_find?_innerToAll, first]
  generalize touching spans cursor kind = touched at within apart
  cases touched with
  | nil => rfl
  | cons s later =>
    -- what comes behind a span stops later
    obtain ⟨-, within⟩ := List.forall_mem_cons.1 within
    obtain ⟨behind, -⟩ := List.pairwise_cons.1 apart
    have least : innerToAll (s :: later) s = true := innerToAll_iff.2 <|
      List.forall_mem_cons.2 ⟨TextRange.innerLe_refl _, fun t ht => TextRange.innerLe_iff.2 <|
        .inl (Nat.lt_of_le_of_lt (behind t ht) (within t ht))⟩
    exact List.find?_cons_of_pos least

/-- The innermost span of a kind that is asked for is the first of this kind that the cursor
touches. -/
theorem innermost_scan (asked : kind ∈ kinds) :
    innermost (scan text kinds) cursor kind =
      (scan text [kind]).find? (·.range.touches cursor) := by
  rw [innermost_eq_find? fun s hs => (located_of_mem_scan text kinds hs).start_lt_stop,
    filter_scan_eq_scan asked]
  rw [filter_scan_eq_scan asked]
  exact pairwise_scan_singleton text kind

/-- A span that the cursor is in, behind its start, is the innermost of its kind. -/
theorem innermost_scan_of_inside (asked : kind ∈ kinds) (h : s ∈ scan text [kind])
    (behind : s.range.start < cursor) (le : cursor ≤ s.range.stop) :
    innermost (scan text kinds) cursor kind = some s := by
  obtain ⟨front, back, split⟩ := List.append_of_mem h
  rw [innermost_scan asked, List.find?_eq_some_iff_append]
  refine ⟨TextRange.touches_iff.2 ⟨Nat.le_of_lt behind, le⟩, front, back, split, fun t ht => ?_⟩
  -- what comes before the span stops where it starts
  have apart := pairwise_scan_singleton text kind
  rw [split, List.pairwise_append] at apart
  have stop := apart.2.2 t ht s List.mem_cons_self
  rw [Bool.not_eq_true', Bool.eq_false_iff, Ne, TextRange.touches_iff]
  omega

/-- There is an innermost span of a kind that is asked for just if the cursor touches one of the
text's. -/
theorem isSome_innermost_scan (asked : kind ∈ kinds) :
    (innermost (scan text kinds) cursor kind).isSome = true ↔
      ∃ s ∈ scan text [kind], s.range.touches cursor = true := by
  rw [innermost_scan asked, List.find?_isSome]

/-- Of a kind that is not asked for, there is no innermost span. -/
theorem innermost_scan_of_not_mem (other : kind ∉ kinds) :
    innermost (scan text kinds) cursor kind = none := by
  refine Option.eq_none_iff_forall_ne_some.2 fun s hs => ?_
  obtain ⟨mem, rfl, -⟩ := mem_of_innermost hs
  exact other (kind_of_mem_scan mem)

/-- No two spans of a scan have the same range and kind. -/
theorem nodup_keys_scan (text : String) (kinds : List SpanKind) :
    ((scan text kinds).map fun s => (s.range, s.kind)).Nodup := by
  refine List.pairwise_map.2 ((pairwise_scan text kinds).imp_of_mem fun hs _ behind same => ?_)
  obtain ⟨range, kind⟩ := Prod.mk.inj same
  have lt := (located_of_mem_scan text kinds hs).start_lt_stop
  have le := behind kind
  rw [← range] at le
  exact Nat.not_lt_of_le le lt

/-- Gathering spans of a scan loses none. -/
theorem mem_gather_filter_scan {p : Span → Bool} :
    s ∈ gather ((scan text kinds).filter p) ↔ s ∈ scan text kinds ∧ p s = true := by
  have nodup := (nodup_keys_scan text kinds).sublist ((List.filter_sublist (p := p)).map _)
  rw [gather, distinctBy_of_nodup nodup, (perm_sortBy _ _).mem_iff, List.mem_filter]

/-- Every name that a span of a scan carries has a character. -/
theorem text_ne_empty_of_mem_names (h : s ∈ scan text kinds) (kind : s.kind ≠ .classToken)
    {n : Name} (hn : n ∈ s.names) : n.text ≠ "" := by
  have located := located_of_mem_scan text kinds h
  have row := located.names
  rw [if_neg kind] at row
  have lt := row.nonempty n hn
  have le := (TextRange.encloses_iff.1 (row.inside n hn)).2
  have stop := located.stop_le
  have written : slice text n.range = n.text := (row.slice_eq n hn).trans String.append_empty
  intro empty
  have length := congrArg (fun t => t.toList.length) (written.trans empty)
  simp only [slice, String.toList_ofList, List.length_take, List.length_drop, TextRange.length,
    String.toList_empty, List.length_nil] at length
  omega

end Span

end TemplatePaint
