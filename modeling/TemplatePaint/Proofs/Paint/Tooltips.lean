import TemplatePaint.Feature
import TemplatePaint.Proofs.Context.Primary
import TemplatePaint.Proofs.Span.Controllers
import TemplatePaint.Proofs.Span.Order
import TemplatePaint.Proofs.Text.Listing

/-!
# Tooltips of controllers

With the cursor on a controller, what names it is painted, each range once. Spans
of different kinds may share a range, as all entries of one data hash do; then
the one whose kind the rules list first is painted, with the tooltip that it has
by itself. So the tooltip lists a name of another of them just if the first one
has this name too (`Feature.edits_controllerLinks`); in a hash with a declaration
and an action list, the other controllers of the actions are missing
(`Feature.not_lists_of_shared_range`).
-/

namespace TemplatePaint

variable {text : String} {kinds : List SpanKind} {s t : Span} {range : TextRange}

/-! ## The first of the spans at a range -/

/-- Of the spans that have a range, `t` is the one whose kind is listed first. -/
structure Span.FirstAt (spans : List Span) (range : TextRange) (t : Span) : Prop where
  mem : t ∈ spans
  range_eq : t.range = range
  least : ∀ u ∈ spans, u.range = range → t.kind.place ≤ u.kind.place

/-- Of spans of a scan that are linked, the one that comes first at a range is the one whose kind is
listed first. -/
theorem Span.firstAt_of_find? (whole : .classToken ∉ kinds) {p : Span → Bool}
    (first : (gather ((scan text kinds).filter p)).find? (·.range = range) = some t) :
    FirstAt (gather ((scan text kinds).filter p)) range t := by
  have found : t.range = range := by simpa using List.find?_some first
  refine ⟨List.mem_of_find?_eq_some first, found, fun u hu same => ?_⟩
  -- gathering leaves the spans of one range in the order of the scan
  have tied (a b : Span) (ha : decide (a.range = range) = true)
      (hb : decide (b.range = range) = true) : le a b = true := by
    rw [le, of_decide_eq_true ha, of_decide_eq_true hb]
    exact TextRange.le_iff.2 (.inr ⟨rfl, Nat.le_refl _⟩)
  have kept : (gather ((scan text kinds).filter p)).filter (·.range = range) =
      ((scan text kinds).filter p).filter (·.range = range) := by
    rw [gather, distinctBy_of_nodup
      ((nodup_keys_scan text kinds).sublist (List.filter_sublist.map _)), filter_sortBy tied]
  have mem : u ∈ ((scan text kinds).filter p).filter (·.range = range) :=
    kept ▸ List.mem_filter.2 ⟨hu, decide_eq_true same⟩
  rw [← List.head?_filter, kept] at first
  have ties := ((pairwise_ties_scan text whole).filter p).filter (·.range = range)
  obtain ⟨later, split⟩ := List.head?_eq_some_iff.1 first
  rw [split] at mem ties
  rcases List.mem_cons.1 mem with rfl | mem
  · exact Nat.le_refl _
  · exact (List.pairwise_cons.1 ties).1 u mem (congrArg TextRange.start (found.trans same.symm))

/-! ## Regions and their tooltips -/

namespace Region

/-- The tooltip of the region lists an identifier. -/
def Lists (r : Region) (identifier : String) : Prop :=
  ∃ text, r.tooltip? = some text ∧ TemplatePaint.Lists text identifier

/-- Of highlighted spans, the first at a range is painted there, and no other. -/
theorem mem_finish_highlighted_iff {spans : List Span} {group : Group}
    (first : spans.find? (·.range = range) = some t) {r : Region} :
    r ∈ finish (spans.map (Style.highlighted group)) ∧ r.range = range ↔
      r = Style.highlighted group t := by
  have found : t.range = range := by simpa using List.find?_some first
  have at_range : (spans.map (Style.highlighted group)).find?
      (fun q => (q.group, q.range) = (group, range)) = some (Style.highlighted group t) := by
    rw [List.find?_map]
    have key : (fun q : Region => decide ((q.group, q.range) = (group, range))) ∘
        Style.highlighted group = fun s => decide (s.range = range) := by
      funext s
      rw [Function.comp_apply, decide_eq_decide, Prod.mk.injEq]
      exact and_iff_right rfl
    rw [key, first, Option.map_some]
  rw [mem_finish]
  constructor
  · rintro ⟨mem, rfl⟩
    obtain ⟨u, -, own⟩ := List.mem_map.1 (List.mem_of_find?_eq_some mem)
    have same : r.group = group := own ▸ rfl
    rw [same, at_range] at mem
    exact (Option.some.inj mem).symm
  · rintro rfl
    have same : (Style.highlighted group t).range = range := found
    refine ⟨?_, same⟩
    rw [same]
    exact at_range

end Region

namespace Style

/-- The tooltip of a span with controllers is a listing of them. -/
theorem tooltip?_controller (some : s.names ≠ []) :
    ∃ label, ' ' ∉ label.toList ∧
      tooltip? .controller s = Option.some (listing label (distinctIdentifiers s.names)) := by
  refine ⟨if s.kind = .controllerReference then "Controller" else "Controllers", ?_, ?_⟩
  · split <;> decide
  · rw [tooltip?, if_pos ⟨rfl, some⟩]
    rfl

/-- The tooltip of a span lists the normal forms of its names. -/
theorem lists_highlighted_iff (h : s ∈ Span.scan text kinds)
    (kind : s.kind ∈ [.controllerDeclaration, .controllerReference, .action])
    (some : s.names ≠ []) {identifier : String} (single : ' ' ∉ identifier.toList) :
    (highlighted .controller s).Lists identifier ↔ ∃ n ∈ s.names, normalize n.text = identifier := by
  obtain ⟨label, named, tooltip⟩ := tooltip?_controller some
  have whole : ∀ e ∈ distinctIdentifiers s.names, ' ' ∉ e.toList := by
    intro e he
    obtain ⟨n, hn, rfl⟩ := List.mem_map.1 (mem_distinct.1 he)
    exact space_not_mem_normalize (Span.space_not_mem_names h kind hn)
  have listed : distinctIdentifiers s.names ≠ [] := by
    obtain ⟨n, hn⟩ := List.exists_mem_of_ne_nil _ some
    exact List.ne_nil_of_mem (mem_distinct.2 (List.mem_map_of_mem hn))
  have reads : (highlighted .controller s).Lists identifier ↔
      identifier ∈ distinctIdentifiers s.names := by
    rw [← lists_listing_iff listed named whole single]
    constructor
    · rintro ⟨text, same, lists⟩
      obtain rfl := Option.some.inj (tooltip.symm.trans same)
      exact lists
    · exact fun lists => ⟨_, tooltip, lists⟩
  rw [reads, distinctIdentifiers, mem_distinct, List.mem_map]

end Style

namespace Feature

variable {pass : Pass} {p : Span} {names : List String} {e : Edit}

/-- With the cursor on a controller, the spans that belong to the context are painted. -/
theorem regions_of_mem_controllerLinks
    (on : Context.atCursor (pass.spans Target.controllers.kinds) pass.snapshot.cursor .controllers =
      .controllers p names) (he : e ∈ controllerLinks.edits pass) :
    e.regions = Region.finish
      (((Context.controllers p names).links (pass.spans Target.controllers.kinds)).spans.map
        (Style.highlighted .controller)) := by
  have active : Style.applies (.controllers p names) (.highlight .controller) = true := rfl
  have group : e.group = .controller := by
    have mem : e.group ∈ (controllerLinks.edits pass).map Edit.group := List.mem_map_of_mem he
    rw [map_group_edits] at mem
    exact List.mem_singleton.1 mem
  rw [Edit.regions_of_mem_ofPlan he, group]
  show Region.inGroup (pass.plan (pass.spans Target.controllers.kinds) .controllers _) _ = _
  rw [Pass.plan, on, Style.plan, if_pos active, Style.regions]
  refine Region.inGroup_eq_self fun r hr => ?_
  obtain ⟨u, -, rfl⟩ := List.mem_map.1 (List.mem_of_find?_eq_some (Region.mem_finish.1 hr))
  rfl

/-- With the cursor on a controller, whatever span belongs to the context, its range is painted just
once, like the span at this range whose kind is listed first. The tooltip lists a name of the span
just if the first one has a name of the same normal form. -/
theorem edits_controllerLinks
    (on : Context.atCursor (pass.spans Target.controllers.kinds) pass.snapshot.cursor .controllers =
      .controllers p names) (he : e ∈ controllerLinks.edits pass) {s : Span}
    (hs : s ∈ ((Context.controllers p names).links (pass.spans Target.controllers.kinds)).spans) :
    ∃ t, Span.FirstAt ((Context.controllers p names).links
          (pass.spans Target.controllers.kinds)).spans s.range t ∧
      (∀ r, r ∈ e.regions ∧ r.range = s.range ↔ r = Style.highlighted .controller t) ∧
      ∀ n ∈ s.names, (Style.highlighted .controller t).Lists (normalize n.text) ↔
        ∃ m ∈ t.names, normalize m.text = normalize n.text := by
  obtain ⟨t, first⟩ : ∃ t, ((Context.controllers p names).links
      (pass.spans Target.controllers.kinds)).spans.find? (·.range = s.range) = some t :=
    Option.isSome_iff_exists.1 (List.find?_isSome.2 ⟨s, hs, decide_eq_true rfl⟩)
  have firstAt := Span.firstAt_of_find? (by simp [Target.kinds]) first
  refine ⟨t, firstAt, fun r => ?_, fun n hn => ?_⟩
  · rw [regions_of_mem_controllerLinks on he]
    exact Region.mem_finish_highlighted_iff first
  · have kinds {k : SpanKind} (asked : k ∈ [.controllerDeclaration, .action, .controllerReference]) :
        k ∈ [.controllerDeclaration, .controllerReference, .action] := by simpa [or_comm] using asked
    obtain ⟨mem, kind, m, hm, -⟩ := Links.mem_ofNames_iff.1 firstAt.mem
    obtain ⟨mem', kind', -⟩ := Links.mem_ofNames_iff.1 hs
    exact Style.lists_highlighted_iff mem (kinds kind) (List.ne_nil_of_mem hm)
      (space_not_mem_normalize (Span.space_not_mem_names mem' (kinds kind') hn))

/-- With the cursor on the declaration in a hash with actions, both belong to the context, and have
the range of the hash. -/
theorem exists_shared_range :
    let pass : Pass :=
      ⟨.ofCursor "data: \x7b controller: \"a\", action: \"x->a#m y->b#n\" \x7d" 21 false, .always, none, []⟩
    ∃ declaration actions : Span,
      Context.atCursor (pass.spans Target.controllers.kinds) pass.snapshot.cursor .controllers =
          .controllers declaration ["a"] ∧
        ((Context.controllers declaration ["a"]).links
          (pass.spans Target.controllers.kinds)).spans = [declaration, actions] ∧
        declaration.range = ⟨0, 50⟩ ∧ actions.range = ⟨0, 50⟩ ∧
        declaration.kind.place < actions.kind.place ∧
        declaration.names.map (·.text) = ["a"] ∧ actions.names.map (·.text) = ["a", "b"] := by
  intro pass
  let declaration : Span := ⟨.controllerDeclaration, ⟨0, 50⟩,
    .names ⟨"a", ⟨21, 22⟩⟩ [⟨"a", ⟨21, 22⟩⟩]⟩
  let actions : Span := ⟨.action, ⟨0, 50⟩,
    .names ⟨"x->a#m y->b#n", ⟨34, 47⟩⟩ [⟨"a", ⟨37, 38⟩⟩, ⟨"b", ⟨44, 45⟩⟩]⟩
  have spans : pass.spans Target.controllers.kinds = [declaration, actions] := by decide +kernel
  refine ⟨declaration, actions, ?_, ?_, rfl, rfl, by decide, rfl, rfl⟩
  · rw [spans]
    decide +kernel
  · rw [spans]
    decide +kernel

/-- In a hash that declares the controller `a` and has an action of `a` and one of `b`, all of it is
painted, and the tooltip lists `a` and not `b`. -/
theorem edits_controllerLinks_on_shared_range :
    let pass : Pass :=
      ⟨.ofCursor "data: \x7b controller: \"a\", action: \"x->a#m y->b#n\" \x7d" 21 false, .always, none, []⟩
    ∀ e ∈ controllerLinks.edits pass, ∃ r, (∀ q, q ∈ e.regions ∧ q.range = ⟨0, 50⟩ ↔ q = r) ∧
      r.Lists (normalize "a") ∧ ¬ r.Lists (normalize "b") := by
  intro pass e he
  obtain ⟨declaration, actions, on, linked, range, range', place, names, names'⟩ :=
    exists_shared_range
  obtain ⟨t, first, painted, lists⟩ := edits_controllerLinks on he (s := actions) (by simp [linked])
  rw [linked] at first
  obtain rfl : t = declaration := by
    rcases List.mem_pair.1 first.mem with same | rfl
    · exact same
    · have least := first.least declaration List.mem_cons_self (range.trans range'.symm)
      omega
  obtain ⟨n, hn, a⟩ : ∃ n ∈ actions.names, n.text = "a" := List.mem_map.1 (by simp [names'])
  obtain ⟨n', hn', b⟩ : ∃ n ∈ actions.names, n.text = "b" := List.mem_map.1 (by simp [names'])
  refine ⟨_, range' ▸ painted, a ▸ (lists n hn).2 ?_, b ▸ mt (lists n' hn').1 ?_⟩
  · obtain ⟨m, hm, same⟩ : ∃ m ∈ t.names, m.text = "a" := List.mem_map.1 (by simp [names])
    exact ⟨m, hm, by rw [same, a]⟩
  · rintro ⟨m, hm, same⟩
    have only : m.text ∈ ["a"] := names ▸ List.mem_map_of_mem hm
    rw [List.mem_singleton.1 only, b] at same
    exact absurd same (by decide)

/-- The tooltips do not list every controller of every span that belongs to the context: where a
declaration and actions share the range of their hash, only the declaration's are listed. -/
theorem not_lists_of_shared_range :
    ¬ ∀ (pass : Pass) (p : Span) (names : List String),
      Context.atCursor (pass.spans Target.controllers.kinds) pass.snapshot.cursor .controllers =
        .controllers p names →
      ∀ s ∈ ((Context.controllers p names).links (pass.spans Target.controllers.kinds)).spans,
        ∀ n ∈ s.names, ∃ r ∈ (controllerLinks.edits pass).flatMap Edit.regions,
          r.range = s.range ∧ r.Lists (normalize n.text) := by
  intro all
  obtain ⟨declaration, actions, on, linked, range, range', -, names, names'⟩ := exists_shared_range
  obtain ⟨n, hn, b⟩ : ∃ n ∈ actions.names, n.text = "b" := List.mem_map.1 (by simp [names'])
  obtain ⟨r, painted, at_range, lists⟩ := all _ declaration ["a"] on actions (by simp [linked]) n hn
  obtain ⟨e, he, hr⟩ := List.mem_flatMap.1 painted
  -- the region is the declaration's, which is the first at this range
  have first : [declaration, actions].find? (·.range = actions.range) = some declaration :=
    List.find?_cons_of_pos (decide_eq_true (range.trans range'.symm))
  rw [regions_of_mem_controllerLinks on he, linked] at hr
  obtain rfl := (Region.mem_finish_highlighted_iff first).1 ⟨hr, at_range⟩
  obtain ⟨mem, kind, m, hm, -⟩ := Links.mem_ofNames_iff.1 (linked ▸ List.mem_cons_self)
  rw [b, Style.lists_highlighted_iff mem (by simpa [or_comm] using kind) (List.ne_nil_of_mem hm)
    (by decide)] at lists
  obtain ⟨m, hm, same⟩ := lists
  have only : m.text ∈ ["a"] := names ▸ List.mem_map_of_mem hm
  rw [List.mem_singleton.1 only] at same
  exact absurd same (by decide)

end Feature

end TemplatePaint
