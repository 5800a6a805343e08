import TemplatePaint.Proofs.Paint.Complement
import TemplatePaint.Proofs.Span.Tags

/-!
# Dimming around embedded tags

Where scripts are set off, the regions that are dimmed and the embedded tags
have every character of the text once (`Style.dims_partition`): the tags do
not overlap, all of them are linked, and the gaps between them are dimmed. In a
comment, and outside scripts if they are set off from inside only, nothing is
dimmed.
-/

namespace TemplatePaint

/-- Scripts are set off at the cursor: it touches no comment and, where scripts are set off from
inside only, touches a script. -/
def Context.SetsOff (spans : List Span) (cursor : Nat) (emphasis : Emphasis) : Prop :=
  (¬ ∃ s ∈ spans, s.kind = .comment ∧ s.range.touches cursor = true) ∧
    (emphasis = .whenInside → ∃ s ∈ spans, s.kind = .script ∧ s.range.touches cursor = true)

namespace Context

variable {spans : List Span} {cursor : Nat} {emphasis : Emphasis}

theorem atCursor_script_of_setsOff (h : SetsOff spans cursor emphasis) :
    atCursor spans cursor (.script emphasis) = .script (Span.innermost spans cursor .script) := by
  obtain ⟨comment, script⟩ := h
  rw [← Span.innermost_isSome_iff] at comment
  rw [← Span.innermost_isSome_iff] at script
  rw [atCursor.eq_def, if_neg comment]
  cases emphasis with
  | always => rfl
  | whenInside =>
    obtain ⟨s, hs⟩ := Option.isSome_iff_exists.1 (script rfl)
    rw [hs]

theorem isActive_eq_false_of_not_setsOff (h : ¬ SetsOff spans cursor emphasis) :
    (atCursor spans cursor (.script emphasis)).isActive = false := by
  rw [SetsOff, ← Span.innermost_isSome_iff, ← Span.innermost_isSome_iff] at h
  rw [atCursor.eq_def]
  split
  · rfl
  · rename_i comment
    cases emphasis with
    | always => exact absurd ⟨comment, nofun⟩ h
    | whenInside =>
      cases script : Span.innermost spans cursor .script with
      | none => rfl
      | some s => exact absurd ⟨comment, fun _ => by rw [script]; rfl⟩ h

end Context

/-- All scripts and comments of a text are linked. -/
theorem Links.spans_ofScript_tags (text : String) :
    (ofScript (Span.scan text [.script, .comment])).spans = Span.scan text [.script, .comment] := by
  have tags : (Span.scan text [.script, .comment]).filter
      (fun s => s.kind == .script || s.kind == .comment) = Span.scan text [.script, .comment] :=
    List.filter_eq_self.2 fun s hs => by simpa using (Span.bounds_of_mem_tags hs).2.2
  show Span.gather (List.filter _ _) = _
  rw [tags, Span.gather_of_pairwise (fun s hs => (Span.bounds_of_mem_tags hs).1)
    (Span.pairwise_tags text)]

namespace Style

/-- The gaps that the linked spans leave are dimmed, in order. -/
theorem plan_dimOthers {text : String} {context : Context} {links : Links}
    (active : context.isActive = true) (ordered : ∀ s ∈ links.spans, s.range.start ≤ s.range.stop) :
    dimOthers.plan text context links =
      (complement (links.spans.map (·.range)) text.toList.length).map (Region.plain · .dim) := by
  rw [plan, if_pos (show applies context dimOthers = true from active), regions]
  refine Region.finish_of_pairwise (List.pairwise_map.2 ?_)
  refine (pairwise_complement (List.forall_mem_map.2 ordered) _).imp_of_mem ?_
  exact fun hg _ before => .inl (Nat.lt_of_lt_of_le (bounds_of_mem_complement hg).1 before)

/-- Where scripts are set off, the dimmed regions and the embedded tags have every character of the
text once, and all scripts and comments are linked; elsewhere nothing is dimmed. -/
theorem dims_partition (text : String) (cursor : Nat) (emphasis : Emphasis) :
    let spans := Span.scan text [.script, .comment]
    let context := Context.atCursor spans cursor (.script emphasis)
    let links := context.links spans
    let dims := dimOthers.plan text context links
    (context.isActive = true ↔ Context.SetsOff spans cursor emphasis) ∧
      (context.isActive = true →
        links.spans = spans ∧ (∀ r ∈ dims, r.group = .dim) ∧
          TextRange.Partition text.toList.length
            (dims.map (·.range) ++ links.spans.map (·.range))) ∧
      (¬ Context.SetsOff spans cursor emphasis → dims = []) := by
  intro spans context links dims
  by_cases on : Context.SetsOff spans cursor emphasis
  · have script : context = .script (Span.innermost spans cursor .script) :=
      Context.atCursor_script_of_setsOff on
    have active : context.isActive = true := by rw [script]; rfl
    have linked : links.spans = spans := by
      show (context.links spans).spans = spans
      rw [script]
      exact Links.spans_ofScript_tags text
    have bounds (s : Span) (hs : s ∈ links.spans) := Span.bounds_of_mem_tags (linked ▸ hs)
    have gaps : dims = (complement (links.spans.map (·.range)) text.toList.length).map
        (Region.plain · .dim) :=
      plan_dimOthers active fun s hs => Nat.le_of_lt (bounds s hs).1
    refine ⟨iff_of_true active on, fun _ => ⟨linked, ?_, ?_⟩, fun off => absurd on off⟩
    · rw [gaps]
      exact List.forall_mem_map.2 fun _ _ => rfl
    · have whole : dims.map (·.range) =
          complement (links.spans.map (·.range)) text.toList.length := by
        rw [gaps, List.map_map]
        exact List.map_id _
      rw [whole]
      refine TextRange.partition_complement ?_ ?_ ?_
      · exact List.forall_mem_map.2 fun s hs => (bounds s hs).1
      · exact List.pairwise_map.2 (linked ▸ Span.pairwise_tags text)
      · exact List.forall_mem_map.2 fun s hs => (bounds s hs).2.1
  · have inactive : context.isActive = false := Context.isActive_eq_false_of_not_setsOff on
    have nothing : dims = [] := if_neg (ne_true_of_eq_false inactive)
    refine ⟨iff_of_false (ne_true_of_eq_false inactive) on, fun active => ?_, fun _ => nothing⟩
    exact absurd (active.symm.trans inactive) Bool.noConfusion

/-- Around two tags, of which the cursor touches the script, three stretches are dimmed; with the
cursor in the comment nothing is. -/
theorem dims_around_two_tags :
    let spans := Span.scan "a<%b%>c<%#d%>e" [.script, .comment]
    let dims (cursor : Nat) :=
      let context := Context.atCursor spans cursor (.script .whenInside)
      dimOthers.plan "a<%b%>c<%#d%>e" context (context.links spans)
    TextRange.Partition 14 ((dims 3).map (·.range) ++ spans.map (·.range)) ∧ dims 9 = [] := by
  have inside := dims_partition "a<%b%>c<%#d%>e" 3 .whenInside
  have outside := dims_partition "a<%b%>c<%#d%>e" 9 .whenInside
  have active : (Context.atCursor (Span.scan "a<%b%>c<%#d%>e" [.script, .comment]) 3
      (.script .whenInside)).isActive = true := by decide +kernel
  have inactive : (Context.atCursor (Span.scan "a<%b%>c<%#d%>e" [.script, .comment]) 9
      (.script .whenInside)).isActive = false := by decide +kernel
  obtain ⟨linked, -, parts⟩ := inside.2.1 active
  rw [linked] at parts
  refine ⟨parts, outside.2.2 fun on => ?_⟩
  exact absurd ((outside.1.2 on).symm.trans inactive) Bool.noConfusion

end Style

end TemplatePaint
