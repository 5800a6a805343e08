import TemplatePaint.Proofs.Context.Innermost
import TemplatePaint.Proofs.Paint.Modifiers
import TemplatePaint.Proofs.Text.NormalForms

/-!
# What a context comes from

A context that no comment suppresses comes about in one of a few ways
(`Context.Resolved`, `Context.resolved_atCursor`). In each, the span that it
comes from touches the cursor, and is one of those that belong to it
(`Context.primary_atCursor`): a class carries the modifiers that it asks for,
and a span with controllers or a frame names the ones that were read off it.
-/

namespace TemplatePaint

/-- The kinds of spans that a target is looked for among. -/
def Target.kinds : Target → List SpanKind
  | .script _ => [.script]
  | .modifiers => [.classAttribute]
  | .controllers => [.controllerDeclaration, .controllerReference, .action]
  | .frame => [.frameDeclaration, .frameReference]

namespace Context

variable {spans : List Span} {cursor : Nat} {target : Target} {context : Context} {p : Span}

/-! ## The names that are meant -/

theorem declared_subset (declaration : Span) (cursor : Nat) :
    declared declaration cursor ⊆ declaration.names := by
  rw [declared]
  split
  · exact List.Subset.refl _
  · exact fun n hn => List.mem_of_find?_eq_some (Option.mem_toList.1 hn)

theorem mem_of_addressed {start : Nat} {names : List Name} {n : Name}
    (h : addressed cursor start names = some n) : n ∈ names := by
  induction names generalizing start with
  | nil => simp [addressed] at h
  | cons m later ih =>
    rw [addressed] at h
    split at h
    · exact Option.some.inj h ▸ List.mem_cons_self
    · exact List.mem_cons_of_mem m (ih h)

theorem invoked_subset (actions : Span) (cursor : Nat) :
    invoked actions cursor ⊆ actions.names := by
  rw [invoked]
  split
  · exact List.Subset.refl _
  · exact fun n hn => mem_of_addressed (Option.mem_toList.1 hn)

theorem referred_subset (reference : Span) : referred reference ⊆ reference.names :=
  fun _ hn => List.mem_of_mem_head? (Option.mem_toList.1 hn)

/-! ## Contexts that are not suppressed -/

/-- How a context comes about: what was found at the cursor, and what was read off it. -/
inductive Resolved (spans : List Span) (cursor : Nat) : Context → Prop
  | none : Resolved spans cursor .none
  | outside : Resolved spans cursor (.script Option.none)
  | script {tag : Span} (on : Span.innermost spans cursor .script = some tag) :
    Resolved spans cursor (.script tag)
  | modifiers {token : Span} {exactKey : List String} (on : touchedClass spans cursor = some token)
    (some : token.names ≠ []) :
    Resolved spans cursor (.modifiers token (distinct (token.names.map (·.text))) exactKey)
  | controllers {kind : SpanKind} {primary : Span} {meant : List Name}
    (asked : kind ∈ [.controllerDeclaration, .action, .controllerReference])
    (on : Span.innermost spans cursor kind = some primary) (read : meant ⊆ primary.names)
    (some : meant ≠ []) :
    Resolved spans cursor (.controllers primary (distinctIdentifiers meant))
  | frame {kind : SpanKind} {primary : Span} {name : Name} {more : List Name}
    (asked : kind ∈ [.frameDeclaration, .frameReference])
    (on : Span.innermost spans cursor kind = some primary) (read : primary.names = name :: more) :
    Resolved spans cursor (.frame primary (normalize name.text))

theorem resolved_ofModifiers : Resolved spans cursor (ofModifiers spans cursor) := by
  rw [ofModifiers]
  cases on : touchedClass spans cursor with
  | none => exact .none
  | some token =>
    dsimp only
    split
    · exact .none
    · rename_i some
      exact .modifiers on fun none => some (by rw [none]; rfl)

theorem resolved_ofControllers : Resolved spans cursor (ofControllers spans cursor) := by
  -- whichever kind of span decides, its names are looked through
  have on {kind : SpanKind} {meant : Span → List Name} {found : Context}
      (asked : kind ∈ [.controllerDeclaration, .action, .controllerReference])
      (read : ∀ s, meant s ⊆ s.names)
      (h : (do let primary ← Span.innermost spans cursor kind
               controllersOn primary (meant primary)) = some found) :
      Resolved spans cursor found := by
    obtain ⟨primary, on, h⟩ := Option.bind_eq_some_iff.1 h
    rw [controllersOn] at h
    split at h
    · cases h
    · rename_i some
      obtain rfl := Option.some.inj h
      exact .controllers asked on (read primary) fun none => some (by rw [none]; rfl)
  rw [ofControllers]
  dsimp only
  cases found : Option.or _ _ with
  | none => exact .none
  | some context =>
    rcases Option.or_eq_some_iff.1 found with declared | ⟨-, found⟩
    · exact on (by simp) (declared_subset · cursor) declared
    · rcases Option.or_eq_some_iff.1 found with invoked | ⟨-, referred⟩
      · exact on (by simp) (invoked_subset · cursor) invoked
      · exact on (by simp) referred_subset referred

theorem resolved_ofFrame : Resolved spans cursor (ofFrame spans cursor) := by
  rw [ofFrame]
  split
  · rename_i primary found
    rw [ofFrameSpan]
    split
    · rename_i read
      rcases Option.or_eq_some_iff.1 found with declared | ⟨-, referred⟩
      · exact .frame (by simp) declared read
      · exact .frame (by simp) referred read
    · exact .none
  · exact .none

/-- Where no comment is touched, the context comes about in one of these ways. -/
theorem resolved_atCursor (out : Span.innermost spans cursor .comment = Option.none) :
    Resolved spans cursor (atCursor spans cursor target) := by
  unfold atCursor
  rw [out, if_neg (by simp)]
  match target with
  | .script .always =>
    cases on : Span.innermost spans cursor .script with
    | none => exact .outside
    | some tag => exact .script on
  | .script .whenInside =>
    dsimp only
    cases on : Span.innermost spans cursor .script with
    | none => exact .none
    | some tag => exact .script on
  | .modifiers => exact resolved_ofModifiers
  | .controllers => exact resolved_ofControllers
  | .frame => exact resolved_ofFrame

/-- A context is suppressed just if there is a comment at the cursor. -/
theorem atCursor_eq_suppressed_iff : atCursor spans cursor target = .suppressed ↔
    (Span.innermost spans cursor .comment).isSome = true := by
  constructor
  · intro suppressed
    cases out : Span.innermost spans cursor .comment with
    | some s => rfl
    | none =>
      have resolved : Resolved spans cursor (atCursor spans cursor target) := resolved_atCursor out
      rw [suppressed] at resolved
      nomatch resolved
  · intro comment
    unfold atCursor
    rw [if_pos comment]

end Context

/-! ## What belongs to a context -/

namespace Links

variable {text : String} {kinds asked : List SpanKind} {s : Span}

/-- Embedded tags belong to every context of tags. -/
theorem mem_ofScript (h : s ∈ Span.scan text kinds) (kind : s.kind = .script) :
    s ∈ (ofScript (Span.scan text kinds)).spans :=
  Span.mem_gather_filter_scan.2 ⟨h, by simp [kind]⟩

/-- What names some identifiers are the spans of the kinds in question that carry a name with one of
them as its normal form. -/
theorem mem_ofNames_iff {identifiers : List String} :
    s ∈ (ofNames (Span.scan text kinds) asked identifiers).spans ↔
      s ∈ Span.scan text kinds ∧ s.kind ∈ asked ∧
        ∃ n ∈ s.names, normalize n.text ∈ identifiers := by
  rw [ofNames]
  dsimp only
  rw [Span.mem_gather_filter_scan, Bool.and_eq_true_iff, List.contains_iff_mem, Span.namesAny,
    List.any_eq_true]
  simp only [List.contains_iff_mem]

/-- A class belongs to what carries one of its modifiers. -/
theorem mem_ofModifiers (attributes : .classAttribute ∈ kinds) (h : s ∈ Span.allClasses text)
    {n : Name} (hn : n ∈ s.names) {active : List String} (carried : n.text ∈ active)
    (exactKey : List String) :
    s ∈ (ofModifiers (Span.scan text kinds) active exactKey).spans := by
  have carries : (s.names.any fun name => active.contains name.text) = true :=
    List.any_eq_true.2 ⟨n, hn, List.contains_iff_mem.2 carried⟩
  rw [ofModifiers, classesOf_scan attributes]
  dsimp only
  rw [Span.gather_of_pairwise]
  · exact List.mem_filter.2 ⟨h, carries⟩
  · exact fun t ht => (Span.located_of_mem_allClasses (List.mem_filter.1 ht).1).start_lt_stop
  · exact ((Span.pairwise_allClasses text).filter _).imp Nat.le_of_lt

end Links

namespace Context

variable {text : String} {cursor : Nat} {target : Target} {context : Context} {p : Span}

/-- A cursor is on a class only among class attributes. -/
theorem asked_of_touchedClass {kinds : List SpanKind}
    (on : touchedClass (Span.scan text kinds) cursor = some p) : .classAttribute ∈ kinds := by
  obtain ⟨v, first, -⟩ := Option.bind_eq_some_iff.1 on
  obtain ⟨a, ha, -⟩ := List.mem_filterMap.1 (List.mem_of_find?_eq_some first)
  obtain ⟨mem, kind⟩ := List.mem_filter.1 ha
  exact eq_of_beq kind ▸ Span.kind_of_mem_scan mem

/-- What decides on a context touches the cursor and belongs to the context. -/
theorem Resolved.primary {kinds : List SpanKind} (h : Resolved (Span.scan text kinds) cursor context)
    (decides : context.primary? = some p) :
    p.range.touches cursor = true ∧ p ∈ (context.links (Span.scan text kinds)).spans := by
  cases h with
  | none | outside => nomatch decides
  | script on =>
    obtain rfl := Option.some.inj decides
    obtain ⟨mem, kind, touched⟩ := Span.mem_of_innermost on
    exact ⟨touched, Links.mem_ofScript mem kind⟩
  | modifiers on some =>
    obtain rfl := Option.some.inj decides
    have attributes := asked_of_touchedClass on
    obtain ⟨mem, touched⟩ := (touchedClass_eq_some_iff (Span.filter_scan_eq_scan attributes)).1 on
    obtain ⟨n, hn⟩ := List.exists_mem_of_ne_nil _ some
    exact ⟨touched, Links.mem_ofModifiers attributes mem hn
      (mem_distinct.2 (List.mem_map_of_mem hn)) _⟩
  | controllers asked on read some =>
    obtain rfl := Option.some.inj decides
    obtain ⟨mem, rfl, touched⟩ := Span.mem_of_innermost on
    obtain ⟨n, hn⟩ := List.exists_mem_of_ne_nil _ some
    exact ⟨touched, Links.mem_ofNames_iff.2
      ⟨mem, asked, n, read hn, mem_distinct.2 (List.mem_map.2 ⟨n, hn, rfl⟩)⟩⟩
  | frame asked on read =>
    obtain rfl := Option.some.inj decides
    obtain ⟨mem, rfl, touched⟩ := Span.mem_of_innermost on
    exact ⟨touched, Links.mem_ofNames_iff.2
      ⟨mem, asked, _, read ▸ List.mem_cons_self, List.mem_singleton.2 rfl⟩⟩

/-- The controllers of a context are distinct normal forms of names that the span they come from
carries, none of them empty, and there is at least one. -/
theorem Resolved.names {kinds : List SpanKind} {names : List String}
    (h : Resolved (Span.scan text kinds) cursor (.controllers p names)) :
    names ≠ [] ∧ names.Nodup ∧
      ∀ name ∈ names, name ≠ "" ∧ ∃ n ∈ p.names, name = normalize n.text := by
  cases h with
  | controllers asked on read some =>
    rename_i kind meant
    obtain ⟨mem, rfl, -⟩ := Span.mem_of_innermost on
    refine ⟨?_, nodup_distinct _, fun name hname => ?_⟩
    · obtain ⟨n, hn⟩ := List.exists_mem_of_ne_nil _ some
      exact List.ne_nil_of_mem (mem_distinct.2 (List.mem_map_of_mem hn))
    · obtain ⟨n, hn, rfl⟩ := List.mem_map.1 (mem_distinct.1 hname)
      have kind : p.kind ≠ .classToken := by
        intro token
        rw [token] at asked
        exact absurd asked (by decide)
      exact ⟨fun empty => Span.text_ne_empty_of_mem_names mem kind (read hn)
        (normalize_eq_empty_iff.1 empty), n, read hn, rfl⟩

/-- Among the spans that are scanned for a target, the context of a cursor is suppressed just if the
cursor touches a comment. The span that a context comes from touches the cursor and belongs to the
context, and the controllers of a context are distinct, at least one, and each the normal form,
which is not empty, of a name that the span carries. -/
theorem primary_atCursor (text : String) (cursor : Nat) (target : Target) :
    let spans := Span.scan text (target.kinds ++ [.comment])
    let context := atCursor spans cursor target
    (context = .suppressed ↔
        ∃ s ∈ Span.scan text [.comment], s.range.touches cursor = true) ∧
      (∀ p, context.primary? = some p →
        p.range.touches cursor = true ∧ p ∈ (context.links spans).spans) ∧
      ∀ p names, context = .controllers p names → names ≠ [] ∧ names.Nodup ∧
        ∀ name ∈ names, name ≠ "" ∧ ∃ n ∈ p.names, name = normalize n.text := by
  intro spans context
  have suppressed : context = .suppressed ↔
      ∃ s ∈ Span.scan text [.comment], s.range.touches cursor = true :=
    atCursor_eq_suppressed_iff.trans (Span.isSome_innermost_scan (by simp))
  refine ⟨suppressed, ?_⟩
  cases out : Span.innermost spans cursor .comment with
  | some s =>
    have quiet : context = .suppressed := atCursor_eq_suppressed_iff.2 (by rw [out]; rfl)
    rw [quiet]
    exact ⟨nofun, nofun⟩
  | none =>
    have resolved : Resolved spans cursor context := resolved_atCursor out
    exact ⟨fun p decides => resolved.primary decides,
      fun p names same => (same ▸ resolved).names⟩

/-- On the controller of an action, written with capitals and an underscore, the action is what the
context comes from. -/
theorem primary_atCursor_on_action :
    let spans := Span.scan "data-action=\"x->Date_Picker#go\"" (Target.controllers.kinds ++ [.comment])
    let action : Span := ⟨.action, ⟨0, 31⟩,
      .names ⟨"x->Date_Picker#go", ⟨13, 30⟩⟩ [⟨"Date_Picker", ⟨16, 27⟩⟩]⟩
    let context : Context := .controllers action ["date-picker"]
    atCursor spans 20 .controllers = context ∧ action.range.touches 20 = true ∧
      action ∈ (context.links spans).spans ∧ ∃ n ∈ action.names, "date-picker" = normalize n.text := by
  intro spans action context
  have found : atCursor spans 20 .controllers = context := by decide +kernel
  obtain ⟨-, decides, named⟩ :=
    primary_atCursor "data-action=\"x->Date_Picker#go\"" 20 .controllers
  obtain ⟨touched, linked⟩ := decides action (by rw [found]; rfl)
  obtain ⟨-, -, carried⟩ := named action ["date-picker"] found
  exact ⟨found, touched, found ▸ linked, (carried _ List.mem_cons_self).2⟩

end Context

end TemplatePaint
