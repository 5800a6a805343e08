import TemplatePaint.Text.Range

/-!
# Spans

What is found in a template: stretches of text of a certain kind, with the
names they carry. A name knows where it is written.
-/

namespace TemplatePaint

/-- What a stretch of a template is. -/
inductive SpanKind where
  /-- An embedded tag that is no comment. -/
  | script
  /-- An embedded tag that is a comment. -/
  | comment
  /-- A class attribute, or a class entry of a hash. -/
  | classAttribute
  /-- The controllers declared for an element. -/
  | controllerDeclaration
  /-- An attribute that belongs to a controller. -/
  | controllerReference
  /-- The actions of an element. -/
  | action
  /-- One class of a class attribute. -/
  | classToken
  /-- The declaration of a frame. -/
  | frameDeclaration
  /-- A reference to a frame. -/
  | frameReference
  /-- An inline drawing. -/
  | svg
deriving DecidableEq

/-- A text and where it is written. -/
structure Name where
  text : String
  range : TextRange
deriving DecidableEq

/-- What was read inside a span. -/
inductive Payload where
  | none
  /-- A value as a whole. -/
  | value (value : Name)
  /-- A value and the names in it, in written order. -/
  | names (value : Name) (names : List Name)
  /-- One identifier. -/
  | ident (name : Name)
  /-- A class and its modifiers in written order; a modifier's range includes its colon. -/
  | modifiers (token : Name) (modifiers : List Name)
deriving DecidableEq

/-- A stretch of a template, its kind, and what was read inside it. -/
structure Span where
  kind : SpanKind
  range : TextRange
  payload : Payload
deriving DecidableEq

namespace Span

/-- The value of the span, if it has one. -/
def value? (s : Span) : Option Name :=
  match s.payload with
  | .value value | .names value _ | .modifiers value _ => some value
  | .ident _ | .none => none

/-- The names that the span carries. -/
def names (s : Span) : List Name :=
  match s.payload with
  | .names _ names | .modifiers _ names => names
  | .ident name => [name]
  | .value _ | .none => []

end Span

end TemplatePaint
