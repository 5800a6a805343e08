import TemplatePaint.Proofs.Pattern.Language
import TemplatePaint.Proofs.Span.Located
import TemplatePaint.Span.Identifier

/-!
# The spans of controllers

A declaration carries the words of its value, an action list the controllers
before its number signs, a reference the one identifier in it. Wherever
controllers are named, their names are without spaces
(`Span.space_not_mem_names`).
-/

namespace TemplatePaint

/-! ## Names in values -/

/-- No word has a blank in it. -/
theorem Name.not_blank_of_mem_words {v n : Name} (h : n ∈ v.words) :
    ∀ c ∈ n.text.toList, ¬ isBlank c = true := by
  obtain ⟨r, hr, rfl⟩ := List.mem_map.1 h
  rw [Run.toName, String.toList_ofList]
  exact not_separator_of_mem_runs hr

namespace Rule

/-- The controller of an action is an identifier. -/
theorem isIdentifierChar_of_mem_actionTargets {v n : Name} (h : n ∈ actionTargets v) :
    ∀ c ∈ n.text.toList, isIdentifierChar c = true := by
  obtain ⟨m, hm, hn⟩ := List.mem_filterMap.1 h
  obtain ⟨s, captured, rfl⟩ := Option.map_eq_some_iff.1 hn
  obtain ⟨q, hq, reads⟩ :=
    Pattern.reads_captured_of_matchAt (Pattern.matchAt_of_mem_allFrom hm).2 captured
  obtain rfl : q = Pattern.oneOrMore isIdentifierChar := List.mem_singleton.1 (show q ∈ [_] from hq)
  rw [String.toList_ofList]
  exact (Pattern.reads_oneOrMore_iff.1 reads).2

/-- The identifier of a reference has no blank in it. -/
theorem not_blank_of_reference {rule : Rule} (mem : rule ∈ table)
    (kind : rule.kind = .controllerReference) {q : Pattern} (hq : q ∈ rule.pattern.captures)
    {cs : List Char} (reads : q.Reads cs) : ∀ c ∈ cs, ¬ isBlank c = true := by
  have only : rule ∈ ofKind .controllerReference := List.mem_filter.2 ⟨mem, by simp [kind]⟩
  have all (cls : Char → Bool) (reads : (Pattern.oneOrMore cls).Reads cs)
      (out : ∀ c, isBlank c = true → cls c = false) : ∀ c ∈ cs, ¬ isBlank c = true :=
    fun c hc blank => Bool.false_ne_true
      ((out c blank).symm.trans ((Pattern.reads_oneOrMore_iff.1 reads).2 c hc))
  rcases List.mem_pair.1 (show rule ∈ [_, _] from only) with rfl | rfl
  · obtain rfl := List.mem_singleton.1 (show q ∈ [_] from hq)
    exact all _ reads fun c blank => by simp [blank]
  · obtain rfl := List.mem_singleton.1 (show q ∈ [_] from hq)
    exact all _ reads fun c blank => by simp [blank]

/-- What the rules for controllers read their values as. -/
theorem shape_of_controllers {rule : Rule} (mem : rule ∈ table)
    (kind : rule.kind ∈ [.controllerDeclaration, .controllerReference, .action]) :
    (rule.kind, rule.shape) ∈ [(.controllerDeclaration, .words), (.controllerReference, .ident),
      (.action, .actionTargets)] := by
  have all : ∀ e ∈ table.map fun rule => (rule.kind, rule.shape),
      e.1 ∈ [.controllerDeclaration, .controllerReference, .action] →
        e ∈ [(.controllerDeclaration, .words), (.controllerReference, .ident),
          (.action, .actionTargets)] := by decide
  exact all _ (List.mem_map_of_mem mem) kind

end Rule

namespace Span

variable {text : String} {kinds : List SpanKind} {s : Span}

/-- The names of controllers are without spaces. -/
theorem space_not_mem_names (h : s ∈ scan text kinds)
    (kind : s.kind ∈ [.controllerDeclaration, .controllerReference, .action]) {n : Name}
    (hn : n ∈ s.names) : ' ' ∉ n.text.toList := by
  have whole : s.kind ≠ .classToken := by
    intro token
    rw [token] at kind
    exact absurd kind (by decide)
  obtain ⟨g, ⟨mem, place, found⟩, same, rfl⟩ := exists_head_of_mem_scan h whole
  rw [← same] at kind
  have shape := Rule.shape_of_controllers mem kind
  cases captured : g.found.captured with
  | none => simp [Head.span, captured, Rule.span, names] at hn
  | some c =>
    rw [Head.span, captured, Rule.span, names, Option.map_some, Option.map_some,
      Option.getD_some] at hn
    simp only [List.mem_cons, List.not_mem_nil, or_false, Prod.mk.injEq] at shape
    intro space
    rcases shape with ⟨-, words⟩ | ⟨reference, ident⟩ | ⟨-, targets⟩
    · rw [words] at hn
      exact Name.not_blank_of_mem_words hn _ space (by decide)
    · rw [ident] at hn
      obtain rfl := List.mem_singleton.1 hn
      obtain ⟨q, hq, reads⟩ :=
        Pattern.reads_captured_of_matchAt (Rule.matchAt_of_seek found) captured
      rw [String.toList_ofList] at space
      exact Rule.not_blank_of_reference mem reference hq reads _ space (by decide)
    · rw [targets] at hn
      exact absurd (Rule.isIdentifierChar_of_mem_actionTargets hn _ space) (by decide)

end Span

end TemplatePaint
