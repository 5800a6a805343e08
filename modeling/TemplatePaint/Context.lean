import TemplatePaint.Sorted
import TemplatePaint.Span.ClassToken
import TemplatePaint.Span.Identifier

/-!
# The context of a cursor

What a cursor stands on, given the spans of the text. A comment that the
cursor touches suppresses everything; otherwise the innermost span of the
kinds asked for decides. Of spans that touch the cursor and do not enclose
one another, the one that starts first counts.

* `Span.innermost_isSome_iff`: there is an innermost span of a kind just if a
  span of this kind touches the cursor;
* `Span.mem_of_innermost`: it is one of them.
-/

namespace TemplatePaint

/-- When script tags are set off from the markup around them. -/
inductive Emphasis where
  | always
  | whenInside
deriving DecidableEq

/-- What is looked for at the cursor. -/
inductive Target where
  | script (emphasis : Emphasis)
  | modifiers
  | controllers
  | frame
deriving DecidableEq

/-- What the cursor stands on. -/
inductive Context where
  | none
  /-- The cursor touches a comment. -/
  | suppressed
  /-- Script tags are set off; the cursor may touch one. -/
  | script (primary : Option Span)
  /-- A class, its distinct modifiers in written order, and all of them sorted. -/
  | modifiers (token : Span) (active exactKey : List String)
  /-- A span with controllers, and the normal forms of those meant. -/
  | controllers (primary : Span) (names : List String)
  /-- A span with a frame, and the frame's normal form. -/
  | frame (primary : Span) (id : String)
deriving DecidableEq

namespace Context

/-- The context lets something be painted. -/
def isActive : Context → Bool
  | .none | .suppressed => false
  | _ => true

/-- The span that the context comes from. -/
def primary? : Context → Option Span
  | .script primary => primary
  | .modifiers token _ _ => token
  | .controllers primary _ | .frame primary _ => primary
  | .none | .suppressed => Option.none

end Context

namespace Span

/-- Of two spans that touch the cursor, the later listed `t` is further in than `s`. -/
def yieldsTo (s t : Span) : Bool :=
  if s.range.encloses t.range then s.range != t.range
  else if t.range.encloses s.range then false
  else t.range.start < s.range.start

/-- The better of the best span so far and the next one. -/
def inner : Option Span → Span → Option Span
  | none, t => some t
  | some s, t => if s.yieldsTo t then some t else some s

/-- The innermost of the spans of a kind that touch the cursor. -/
def innermost (spans : List Span) (cursor : Nat) (kind : SpanKind) : Option Span :=
  (spans.filter fun s => s.kind == kind && s.range.touches cursor).foldl inner none

theorem isSome_foldl_inner (best : Option Span) (spans : List Span) :
    (spans.foldl inner best).isSome = true ↔ best.isSome = true ∨ spans ≠ [] := by
  induction spans generalizing best with
  | nil => simp
  | cons s spans ih =>
    have better : (inner best s).isSome = true := by
      cases best with
      | none => rfl
      | some b =>
        rw [inner]
        split <;> rfl
    rw [List.foldl_cons, ih]
    simp [better]

/-- There is an innermost span of a kind just if a span of this kind touches the cursor. -/
theorem innermost_isSome_iff {spans : List Span} {cursor : Nat} {kind : SpanKind} :
    (innermost spans cursor kind).isSome = true ↔
      ∃ s ∈ spans, s.kind = kind ∧ s.range.touches cursor = true := by
  rw [innermost, isSome_foldl_inner]
  simp [List.filter_eq_nil_iff]

theorem mem_of_foldl_inner {best : Option Span} {spans : List Span} {s : Span}
    (h : spans.foldl inner best = some s) : best = some s ∨ s ∈ spans := by
  induction spans generalizing best with
  | nil => exact .inl h
  | cons t spans ih =>
    have better : inner best t = some t ∨ inner best t = best := by
      cases best with
      | none => exact .inl rfl
      | some b =>
        rw [inner]
        split
        · exact .inl rfl
        · exact .inr rfl
    rcases ih h with kept | later
    · rcases better with next | same
      · obtain rfl := Option.some.inj (next.symm.trans kept)
        exact .inr List.mem_cons_self
      · exact .inl (same.symm.trans kept)
    · exact .inr (List.mem_cons_of_mem t later)

/-- The innermost span of a kind is one of those that touch the cursor. -/
theorem mem_of_innermost {spans : List Span} {cursor : Nat} {kind : SpanKind} {s : Span}
    (h : innermost spans cursor kind = some s) :
    s ∈ spans ∧ s.kind = kind ∧ s.range.touches cursor = true := by
  simpa using (mem_of_foldl_inner h).resolve_left nofun

end Span

namespace Context

/-- The class that the cursor touches, in the value of the first class attribute whose value it
touches. -/
def touchedClass (spans : List Span) (cursor : Nat) : Option Span :=
  let values := (spans.filter (·.kind == .classAttribute)).filterMap (·.value?)
  (values.find? (·.range.touches cursor)).bind fun value =>
    value.classTokens.find? (·.range.touches cursor)

/-- The modifiers of the class that the cursor touches. -/
def ofModifiers (spans : List Span) (cursor : Nat) : Context :=
  match touchedClass spans cursor with
  | Option.none => .none
  | some token =>
    let texts := token.names.map (·.text)
    if texts.isEmpty then .none
    else .modifiers token (distinct texts) (sortBy (fun a b => decide (a ≤ b)) texts)

/-- The controllers that a cursor on a declaration means: all of them before the value, or else
the one that it touches. -/
def declared (declaration : Span) (cursor : Nat) : List Name :=
  if declaration.value?.any (cursor < ·.range.start) then declaration.names
  else (declaration.names.find? (·.range.touches cursor)).toList

/-- The first of the names whose action the cursor touches. An action ends behind the number
sign after its name, and the next one starts there. -/
def addressed (cursor : Nat) : (start : Nat) → List Name → Option Name
  | _, [] => Option.none
  | start, name :: later =>
    let stop := name.range.stop + 1
    if start ≤ cursor ∧ cursor ≤ stop then some name else addressed cursor stop later

/-- The controllers that a cursor on an action list means: all of them before the value, or else
the one of the action that it touches. -/
def invoked (actions : Span) (cursor : Nat) : List Name :=
  let start := (actions.value?.map (·.range.start)).getD actions.range.start
  if cursor < start then actions.names else (addressed cursor start actions.names).toList

/-- The controller of a reference. -/
def referred (reference : Span) : List Name := reference.names.head?.toList

/-- The controllers meant by `names` on the span, if there are any. -/
def controllersOn (primary : Span) (names : List Name) : Option Context :=
  if names.isEmpty then Option.none else some (.controllers primary (distinctIdentifiers names))

/-- The controllers meant at the cursor: by a declaration, or else by an action list, or else by
a reference. -/
def ofControllers (spans : List Span) (cursor : Nat) : Context :=
  let on (kind : SpanKind) (meant : Span → List Name) : Option Context := do
    let primary ← Span.innermost spans cursor kind
    controllersOn primary (meant primary)
  ((on .controllerDeclaration (declared · cursor)).or
    ((on .action (invoked · cursor)).or (on .controllerReference referred))).getD .none

/-- The frame of a span, if it names one. -/
def ofFrameSpan (primary : Span) : Context :=
  match primary.names with
  | name :: _ => .frame primary (normalize name.text)
  | [] => .none

/-- The frame meant at the cursor, by a declaration or else by a reference. -/
def ofFrame (spans : List Span) (cursor : Nat) : Context :=
  match (Span.innermost spans cursor .frameDeclaration).or
      (Span.innermost spans cursor .frameReference) with
  | some primary => ofFrameSpan primary
  | Option.none => .none

/-- The context of a cursor among the spans of a text, for one target. -/
def atCursor (spans : List Span) (cursor : Nat) (target : Target) : Context :=
  if (Span.innermost spans cursor .comment).isSome then .suppressed
  else
    match target with
    | .script .always => .script (Span.innermost spans cursor .script)
    | .script .whenInside =>
      match Span.innermost spans cursor .script with
      | some span => .script span
      | Option.none => .none
    | .modifiers => ofModifiers spans cursor
    | .controllers => ofControllers spans cursor
    | .frame => ofFrame spans cursor

end Context

end TemplatePaint
