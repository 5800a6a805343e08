import TemplatePaint.Proofs.Context.Primary

/-!
# Frames and the spans that name them

A declaration of a frame and a reference to one carry one identifier each, so a
span of a scan means at most one frame (`Span.frame?`). A context that comes from
one of them links the spans that mean the same frame (`Context.mem_links_frame_iff`).
So of two contexts of frames, either both link the same spans, or no span is
linked by both (`Context.links_frame_eq_or_disjoint`).
-/

namespace TemplatePaint

/-- All rules for frames read their value as one identifier. -/
theorem Rule.shape_of_frame {rule : Rule} (mem : rule ∈ table)
    (kind : rule.kind ∈ [.frameDeclaration, .frameReference]) : rule.shape = .ident := by
  have all : ∀ e ∈ table.map fun rule => (rule.kind, rule.shape),
      e.1 ∈ [.frameDeclaration, .frameReference] → e.2 = .ident := by decide
  exact all _ (List.mem_map_of_mem mem) kind

namespace Span

variable {text : String} {kinds : List SpanKind} {s : Span}

/-- The frame that a span declares or refers to, in its normal form. -/
def frame? (s : Span) : Option String :=
  if s.kind ∈ [.frameDeclaration, .frameReference] then
    s.names.head?.map fun name => normalize name.text
  else none

/-- A declaration or a reference in a scan carries no second name. -/
theorem names_of_frame (h : s ∈ scan text kinds)
    (kind : s.kind ∈ [.frameDeclaration, .frameReference]) : s.names = s.names.head?.toList := by
  have whole : s.kind ≠ .classToken := by
    intro token
    rw [token] at kind
    exact absurd kind (by decide)
  obtain ⟨g, ⟨mem, -⟩, same, rfl⟩ := exists_head_of_mem_scan h whole
  have ident : g.rule.shape = .ident := Rule.shape_of_frame mem (same ▸ kind)
  unfold Head.span Rule.span names
  cases g.found.captured with
  | none => rfl
  | some c =>
    rw [ident]
    rfl

/-- A span of a scan means a frame just if it is a declaration or a reference and carries the
frame's identifier. -/
theorem frame?_eq_some_iff (h : s ∈ scan text kinds) {id : String} :
    s.frame? = some id ↔ s.kind ∈ [.frameDeclaration, .frameReference] ∧
      ∃ n ∈ s.names, normalize n.text ∈ [id] := by
  unfold frame?
  split
  · rename_i kind
    rw [names_of_frame h kind]
    simp [kind]
  · rename_i other
    simp [other]

end Span

namespace Context

variable {text : String} {kinds : List SpanKind} {cursor : Nat} {p s : Span} {id : String}

/-- A context of a frame links the spans that mean this frame. -/
theorem mem_links_frame_iff :
    s ∈ ((Context.frame p id).links (Span.scan text kinds)).spans ↔
      s ∈ Span.scan text kinds ∧ s.frame? = some id := by
  show s ∈ (Links.ofNames _ _ _).spans ↔ _
  rw [Links.mem_ofNames_iff]
  exact and_congr_right fun h => (Span.frame?_eq_some_iff h).symm

/-- The span that a context of a frame comes from means this frame. -/
theorem frame?_of_atCursor
    (on : atCursor (Span.scan text kinds) cursor .frame = .frame p id) :
    p ∈ Span.scan text kinds ∧ p.frame? = some id := by
  have heard : atCursor (Span.scan text kinds) cursor .frame ≠ .suppressed := by
    rw [on]
    exact nofun
  have out : Span.innermost (Span.scan text kinds) cursor .comment = Option.none :=
    Option.not_isSome_iff_eq_none.1 (mt atCursor_eq_suppressed_iff.2 heard)
  have resolved : Resolved (Span.scan text kinds) cursor (.frame p id) :=
    on ▸ resolved_atCursor out
  cases resolved with
  | frame asked found read =>
    obtain ⟨mem, rfl, -⟩ := Span.mem_of_innermost found
    refine ⟨mem, ?_⟩
    unfold Span.frame?
    rw [if_pos asked, read]
    rfl

/-- The contexts of two cursors on frames link the spans that they come from. If the second comes
from a span that the first links, both link the same spans; otherwise no span is linked by both. -/
theorem links_frame_eq_or_disjoint {cursor₁ cursor₂ : Nat} {p₁ p₂ : Span} {id₁ id₂ : String}
    (on₁ : atCursor (Span.scan text kinds) cursor₁ .frame = .frame p₁ id₁)
    (on₂ : atCursor (Span.scan text kinds) cursor₂ .frame = .frame p₂ id₂) :
    let linked₁ := ((Context.frame p₁ id₁).links (Span.scan text kinds)).spans
    let linked₂ := ((Context.frame p₂ id₂).links (Span.scan text kinds)).spans
    p₁ ∈ linked₁ ∧ p₂ ∈ linked₂ ∧ (p₂ ∈ linked₁ → linked₁ = linked₂) ∧
      (p₂ ∉ linked₁ → ∀ s ∈ linked₁, s ∉ linked₂) := by
  intro linked₁ linked₂
  obtain ⟨mem₁, own₁⟩ := frame?_of_atCursor on₁
  obtain ⟨mem₂, own₂⟩ := frame?_of_atCursor on₂
  refine ⟨mem_links_frame_iff.2 ⟨mem₁, own₁⟩, mem_links_frame_iff.2 ⟨mem₂, own₂⟩, ?_, ?_⟩
  · intro shared
    obtain ⟨-, same⟩ := mem_links_frame_iff.1 shared
    obtain rfl : id₁ = id₂ := Option.some.inj (same.symm.trans own₂)
    rfl
  · intro apart s hs₁ hs₂
    obtain ⟨-, first⟩ := mem_links_frame_iff.1 hs₁
    obtain ⟨-, second⟩ := mem_links_frame_iff.1 hs₂
    -- a span that both link means both frames, so the first links what the second comes from
    have same : id₂ = id₁ := Option.some.inj (second.symm.trans first)
    exact apart (mem_links_frame_iff.2 ⟨mem₂, same ▸ own₂⟩)

/-- A declaration and a reference that spells the frame otherwise link the same spans, and a
reference to another frame links none of them. -/
theorem links_frame_of_three :
    let spans := Span.scan
      "<turbo-frame id=\"My_List\"><a data-turbo-frame=\"my-list\"><a data-turbo-frame=\"b\">"
      [.frameDeclaration, .frameReference, .comment]
    let declaration : Span := ⟨.frameDeclaration, ⟨0, 26⟩, .ident ⟨"My_List", ⟨17, 24⟩⟩⟩
    let reference : Span := ⟨.frameReference, ⟨29, 55⟩, .ident ⟨"my-list", ⟨47, 54⟩⟩⟩
    let other : Span := ⟨.frameReference, ⟨59, 79⟩, .ident ⟨"b", ⟨77, 78⟩⟩⟩
    let linked (p : Span) (id : String) := ((Context.frame p id).links spans).spans
    linked declaration "my-list" = linked reference "my-list" ∧
      ∀ s ∈ linked declaration "my-list", s ∉ linked other "b" := by
  intro spans declaration reference other linked
  have scanned : spans = [declaration, reference, other] := by decide +kernel
  have on : atCursor spans 5 .frame = .frame declaration "my-list" := by
    rw [scanned]
    decide +kernel
  have on' : atCursor spans 30 .frame = .frame reference "my-list" := by
    rw [scanned]
    decide +kernel
  have on_other : atCursor spans 60 .frame = .frame other "b" := by
    rw [scanned]
    decide +kernel
  have linked_own : linked declaration "my-list" = [declaration, reference] := by
    show ((Context.frame declaration "my-list").links spans).spans = _
    rw [scanned]
    decide +kernel
  obtain ⟨-, -, same, -⟩ := links_frame_eq_or_disjoint on on'
  obtain ⟨-, -, -, apart⟩ := links_frame_eq_or_disjoint on on_other
  refine ⟨same ?_, apart ?_⟩
  · show reference ∈ linked declaration "my-list"
    rw [linked_own]
    decide +kernel
  · show other ∉ linked declaration "my-list"
    rw [linked_own]
    decide +kernel

end Context

end TemplatePaint
