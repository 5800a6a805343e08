import TemplatePaint.Context

/-!
# Linked spans

The spans of a text that belong to a context: all embedded tags, every class
that carries one of the active modifiers, or every span that names one of the
context's controllers or its frame. Linked spans come in the order of their
ranges, and no kind links one range twice; spans that come one after the other
stay as they are (`Span.gather_of_pairwise`).
-/

namespace TemplatePaint

/-- What belongs to a context. -/
structure Links where
  spans : List Span
  /-- The ranges of each modifier, by first appearance. -/
  byModifier : List (String × List TextRange)
  /-- The ranges with exactly the modifiers of the context's class. -/
  exact : List TextRange
deriving DecidableEq

namespace Links

/-- Nothing is linked. -/
def empty : Links := ⟨[], [], []⟩

/-- Nothing is linked. -/
def isEmpty (links : Links) : Bool :=
  links.spans.isEmpty && links.byModifier.isEmpty && links.exact.isEmpty

end Links

namespace Span

/-- The order by range. -/
def le (s t : Span) : Bool := s.range.le t.range

/-- The spans in the order of their ranges, and of each kind and range the first. -/
def gather (spans : List Span) : List Span :=
  sortBy le (distinctBy (fun s => (s.range, s.kind)) spans)

/-- Spans that are not empty and come one after the other are gathered as they are. -/
theorem gather_of_pairwise {spans : List Span} (nonempty : ∀ s ∈ spans, s.range.start < s.range.stop)
    (apart : spans.Pairwise fun s t => s.range.stop ≤ t.range.start) : gather spans = spans := by
  have starts : spans.Pairwise fun s t => s.range.start < t.range.start :=
    apart.imp_of_mem fun hs _ before => Nat.lt_of_lt_of_le (nonempty _ hs) before
  rw [gather, distinctBy_of_nodup, sortBy_of_pairwise]
  · exact starts.imp fun before => TextRange.le_iff.2 (.inl before)
  · refine List.pairwise_map.2 (starts.imp fun before same => ?_)
    rw [(Prod.mk.inj same).1] at before
    exact Nat.lt_irrefl _ before

/-- The span names one of the identifiers. -/
def namesAny (s : Span) (identifiers : List String) : Bool :=
  s.names.any fun name => identifiers.contains (normalize name.text)

/-- The classes that a span stands for: itself, or the classes of its value. -/
def classes (s : Span) : List Span :=
  match s.kind with
  | .classToken => [s]
  | .classAttribute => (s.value?.map Name.classTokens).getD []
  | _ => []

/-- The texts of the span's names, sorted. -/
def sortedNames (s : Span) : List String :=
  sortBy (fun a b => decide (a ≤ b)) (s.names.map (·.text))

/-- From the start of the span's first name to the end of its last. -/
def namesRange? (s : Span) : Option TextRange :=
  match s.names.head?, s.names.getLast? with
  | some first, some last => some ⟨first.range.start, last.range.stop⟩
  | _, _ => none

end Span

namespace Links

/-- All embedded tags. -/
def ofScript (spans : List Span) : Links :=
  { empty with
    spans := Span.gather (spans.filter fun s => s.kind == .script || s.kind == .comment) }

/-- The spans of some kinds that name one of the identifiers. -/
def ofNames (spans : List Span) (kinds : List SpanKind) (identifiers : List String) : Links :=
  { empty with
    spans := Span.gather (spans.filter fun s => kinds.contains s.kind && s.namesAny identifiers) }

/-- The classes of a text in the order of their starts, each range once. -/
def classesOf (spans : List Span) : List Span :=
  sortBy (fun s t => s.range.start ≤ t.range.start)
    (distinctBy (·.range) (spans.flatMap Span.classes))

/-- The occurrences of the active modifiers, grouped by modifier. -/
def occurrences (classes : List Span) (active : List String) : List (String × List TextRange) :=
  let found := (classes.flatMap (·.names)).filter fun name => active.contains name.text
  (distinct (found.map (·.text))).map fun modifier =>
    (modifier, (found.filter (·.text == modifier)).map (·.range))

/-- The classes with exactly the modifiers of the key, if the context and the class have at least
two. -/
def exactMatches (classes : List Span) (active exactKey : List String) : List TextRange :=
  if active.length > 1 then
    (classes.filter fun c => c.names.length > 1 && c.sortedNames == exactKey).filterMap
      Span.namesRange?
  else []

/-- The classes that carry an active modifier. -/
def ofModifiers (spans : List Span) (active exactKey : List String) : Links :=
  let classes := classesOf spans
  { spans := Span.gather (classes.filter fun c => c.names.any fun name => active.contains name.text)
    byModifier := occurrences classes active
    exact := exactMatches classes active exactKey }

end Links

/-- The spans that belong to the context. -/
def Context.links (spans : List Span) : Context → Links
  | .none | .suppressed => .empty
  | .script _ => .ofScript spans
  | .modifiers _ active exactKey => .ofModifiers spans active exactKey
  | .controllers _ names =>
    .ofNames spans [.controllerDeclaration, .action, .controllerReference] names
  | .frame _ id => .ofNames spans [.frameDeclaration, .frameReference] [id]

end TemplatePaint
