import TemplatePaint.Pattern.Class
import TemplatePaint.Pattern.Search
import TemplatePaint.Span.ClassToken

/-!
# Scanning rules

A rule finds the spans of one kind: a pattern, what its capture is read as,
and which of the matches count. A match that does not count is passed over as
a whole. `Rule.table` lists the rules; where two rules of one kind match at
the same place, the earlier one wins.

* `Rule.le_start_of_seek`: a rule finds nothing before the place where it is
  told to look.
-/

namespace TemplatePaint

/-- What the captured stretch of a rule is read as. -/
inductive Shape where
  | value
  | words
  | actionTargets
  | ident
deriving DecidableEq

/-- The spans of one kind in one way of writing them. -/
structure Rule where
  kind : SpanKind
  pattern : Pattern
  shape : Shape
  counts : List Char → Bool

namespace Rule

/-! ## The patterns -/

section Patterns
open Pattern

/-- An embedded tag; its value leaves out one leading equals sign or hyphen. -/
def embeddedTag : Pattern :=
  all [word "<%", optional (one fun c => c == '=' || c == '-'), capture (few anyChar), word "%>"]

/-- An embedded tag is a comment if a number sign follows its opening. -/
def isCommentTag (tag : List Char) : Bool := "<%#".toList.isPrefixOf tag

/-- A quoted class list after `class`, with an equals sign or a colon. -/
def classList : Pattern :=
  all [word "class", optional (char ' '), one (fun c => c == '=' || c == ':'), optional (char ' '),
    quoted (oneOrMore (!isQuote ·))]

/-- A quoted attribute value that is not empty. -/
def namedAttribute (name : String) : Pattern := seq (word name) (quoted (oneOrMore (!isQuote ·)))

/-- Anything up to the end of a hash, as much as possible. -/
def hashLead : Pattern := many (· != '}')

/-- A quoted entry of a data hash that is not empty. -/
def hashEntry (key : String) : Pattern :=
  inDataHash hashLead (all [word key, blanks, quoted (oneOrMore (!isQuote ·))])

/-- What a controller offers its elements by name. -/
def memberKind : Pattern := anyOf [word "target", word "outlet", word "value"]

/-- A controller in the name of an attribute. -/
def referenceAttribute : Pattern :=
  all [word "data-", capture (oneOrMore fun c => !(c == '=' || isBlank c || isQuote c)), word "-",
    memberKind, word "=", quote, many (!isQuote ·), quote]

/-- A controller in the key of a data hash. -/
def referenceEntry : Pattern :=
  inDataHash (few (· != '}')) (all
    [capture (oneOrMoreFew fun c => !(c == ':' || isBlank c || isQuote c || c == '{' || c == ',')),
      word "_", memberKind, word ":", blanks, quote, many (!isQuote ·), quote])

/-- The actions of an attribute, of which there may be none. -/
def actionAttribute : Pattern := seq (word "data-action=") (quoted (many (!isQuote ·)))

/-- The actions of a data hash, of which there may be none. -/
def actionEntry : Pattern :=
  inDataHash hashLead (all [word "action:", blanks, quoted (many (!isQuote ·))])

/-- The first argument of the frame helper: a quoted name, a symbol, or an expression. -/
def frameHelper : Pattern :=
  all [word "turbo_frame_tag", blanks, optional (char '('), blanks,
    anyOf
      [quoted (oneOrMore (!isQuote ·)),
        seq (char ':') (capture (oneOrMore isIdentifierChar)),
        capture (seq (oneOrMore fun c => isWordChar c || c == '.' || c == '@')
          (optional (all [char '(', many (· != ')'), char ')'])))]]

/-- The opening tag of a frame element, up to the first of its identifiers. -/
def frameElement : Pattern :=
  all [word "<turbo-frame", wordEdge, few (· != '>'), wordEdge, word "id=",
    quoted (oneOrMore (!isQuote ·)), many (· != '>'), char '>']

/-- An inline drawing up to the first closing tag. -/
def svgElement : Pattern := all [word "<svg", wordEdge, few anyChar, word "</svg>"]

/-- The controller of an action: an identifier before a number sign, at the start of the value,
after a blank, or after an arrow. -/
def actionTarget : Pattern :=
  all [anyOf [textStart, one isBlank, word "->"], capture (oneOrMore isIdentifierChar), char '#']

/-- A tag that opens a block: the word `do`, perhaps block arguments, and the end of the tag. -/
def blockOpener : Pattern :=
  all [wordEdge, word "do", blanks,
    optional (all [char '|', many (· != '|'), char '|']), blanks, optional (char '-'), word "%>"]

end Patterns

/-! ## The table -/

/-- All matches of a rule count. -/
def always (_ : List Char) : Bool := true

/-- The rules, earlier ones first. -/
def table : List Rule :=
  [⟨.script, embeddedTag, .value, (!isCommentTag ·)⟩,
   ⟨.comment, embeddedTag, .value, isCommentTag⟩,
   ⟨.classAttribute, classList, .value, always⟩,
   ⟨.controllerDeclaration, namedAttribute "data-controller=", .words, always⟩,
   ⟨.controllerDeclaration, hashEntry "controller:", .words, always⟩,
   ⟨.controllerReference, referenceAttribute, .ident, always⟩,
   ⟨.controllerReference, referenceEntry, .ident, always⟩,
   ⟨.action, actionAttribute, .actionTargets, always⟩,
   ⟨.action, actionEntry, .actionTargets, always⟩,
   ⟨.frameDeclaration, frameHelper, .ident, always⟩,
   ⟨.frameDeclaration, frameElement, .ident, always⟩,
   ⟨.frameReference, namedAttribute "data-turbo-frame=", .ident, always⟩,
   ⟨.frameReference, hashEntry "turbo_frame:", .ident, always⟩,
   ⟨.svg, svgElement, .value, always⟩]

/-! ## Applying a rule -/

variable {text : List Char}

/-- The first match that counts, at `place` or later. -/
def seek (rule : Rule) (place : Place text) : Option (Match text) :=
  match rule.pattern.search place with
  | none => none
  | some m =>
    if rule.counts m.stretch.chars then some m
    else if _h : place.offset < m.stop.offset then rule.seek m.stop
    else none
termination_by place.after.length
decreasing_by exact Pattern.length_after_lt ‹_›

/-- A rule finds nothing before the place where it is told to look. -/
theorem le_start_of_seek {rule : Rule} {place : Place text} {m : Match text}
    (h : rule.seek place = some m) : place.offset ≤ m.start.offset := by
  fun_induction rule.seek place with
  | case1 => simp at h
  | case2 _ m' hm => exact Option.some.inj h ▸ Pattern.le_start_of_search hm
  | case3 _ m' hm _ hlt ih => exact Nat.le_trans (Nat.le_of_lt hlt) (ih h)
  | case4 => simp at h

/-- The identifiers before the number signs of an action list. -/
def actionTargets (value : Name) : List Name :=
  let chars := value.text.toList
  (actionTarget.allFrom (Place.first chars)).filterMap fun m => m.captured.map fun s =>
    ⟨String.ofList s.chars, s.range.shift value.range.start⟩

/-- What a captured value is read as. -/
def payload : Shape → Name → Payload
  | .value, value => .value value
  | .words, value => .names value value.words
  | .actionTargets, value => .names value (actionTargets value)
  | .ident, value => .ident value

/-- The span of a match that covers `range`; without a captured value it carries nothing. -/
def span (rule : Rule) (range : TextRange) (captured : Option Name) : Span :=
  ⟨rule.kind, range, (captured.map (payload rule.shape)).getD .none⟩

end Rule

/-- The line has a tag that opens a block. -/
def opensBlock (line : String) : Bool := Rule.blockOpener.occursIn line.toList

end TemplatePaint
