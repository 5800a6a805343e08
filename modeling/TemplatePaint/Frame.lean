import TemplatePaint.Context
import TemplatePaint.Span.Rule
import TemplatePaint.Text.Lines
import TemplatePaint.Text.Numeric

/-!
# Frames around a line

A frame covers the lines from its declaration to the end of its block. The
host may know the blocks of a text as folds, which are line ranges; without
one, blocks are told by indentation. `Outline.enclosing` finds the frame
around a line: the one declared on it, or else the innermost fold around it
that starts with a declaration, or else the nearest declaration above that is
indented less and whose block is still open.
-/

namespace TemplatePaint

/-- A frame: the span that declares it, and the lines of its block. -/
structure FrameScope where
  declaration : Span
  lines : LineRange
deriving DecidableEq

/-- The lines of a text, the line and the span of each frame declaration, and the folds. -/
structure Outline where
  index : LineIndex
  declarations : List (Nat × Span)
  folds : List LineRange

/-- The text occurs in the line. -/
def mentions (line : List Char) (text : String) : Bool := (Pattern.word text).occursIn line

/-- The line opens a block, by a tag or by a frame element that it does not close. -/
def opensFrame (line : List Char) : Bool :=
  opensBlock (String.ofList line) ||
    (mentions line "<turbo-frame" && !mentions line "</turbo-frame>")

/-- The line starts with the closing tag of a frame element, or with an embedded tag that starts
with the word `end`. -/
def closesBlock (line : List Char) : Bool :=
  let line := trim line
  "</turbo-frame".toList.isPrefixOf line ||
    ("<%".toList.isPrefixOf? line).any fun body =>
      ("end".toList.isPrefixOf? (trimStart (body.dropWhile fun c => c == '-' || c == '='))).any
        fun rest => !rest.head?.any fun c => isAlphanumeric c || c == '_'

namespace Outline

/-- The outline of a text with these spans and folds. -/
def ofSpans (index : LineIndex) (spans : List Span) (folds : List LineRange) : Outline :=
  { index, folds
    declarations := (spans.filter (·.kind == .frameDeclaration)).map fun s =>
      (index.lineAt s.range.start, s) }

/-- The first declaration on a line. -/
def declarationOn (o : Outline) (line : Nat) : Option Span :=
  (o.declarations.find? (·.1 == line)).map (·.2)

/-- The last line of the block that a line with indentation `base` opened: the closing line of
that indentation, or else the last line that is indented deeper. `last` is the last line of the
block so far, and `left` lines from `next` on are left. -/
def blockEndFrom (o : Outline) (base : Nat) : (left next last : Nat) → Nat
  | 0, _, last => last
  | left + 1, next, last =>
    match o.index.indent? next with
    | none => o.blockEndFrom base left (next + 1) last
    | some indent =>
      if indent ≤ base then if closesBlock (o.index.shown next) then next else last
      else o.blockEndFrom base left (next + 1) next

/-- The last of the folds that start on a line, by where they end. -/
def foldEnd? (o : Outline) (line : Nat) : Option Nat :=
  ((o.folds.filter (·.first == line)).map (·.last)).max?

/-- The last line of the block opened on a line: as a fold says, or else by indentation; a line
that opens no block is one by itself. -/
def blockEnd (o : Outline) (line : Nat) : Nat :=
  match o.foldEnd? line with
  | some last => last
  | none =>
    if opensFrame (o.index.shown line) then
      o.blockEndFrom ((o.index.indent? line).getD 0) (o.index.count - (line + 1)) (line + 1) line
    else line

/-- The frame declared by a span on a line. -/
def scope (o : Outline) (declaration : Span) (line : Nat) : FrameScope :=
  ⟨declaration, ⟨line, o.blockEnd line⟩⟩

/-- Of two folds, the one that starts later, or else the one that ends earlier, or else the
second. -/
def innerFold (a b : LineRange × Span) : LineRange × Span :=
  if a.1.first < b.1.first ∨ a.1.first = b.1.first ∧ b.1.last ≤ a.1.last then b else a

/-- The innermost fold around a line that starts with a declaration. -/
def enclosingFold (o : Outline) (line : Nat) : Option FrameScope :=
  let around := (o.folds.filter (·.contains line)).filterMap fun fold =>
    (o.declarationOn fold.first).map (fold, ·)
  match around with
  | [] => none
  | fold :: folds =>
    let (lines, declaration) := folds.foldl innerFold fold
    some ⟨declaration, lines⟩

/-- The nearest frame opened on one of the first `line` lines. `limit` is the deepest indentation
that may still be around, and `closed` that of a closing line whose opening line is not yet
found. -/
def openAbove (o : Outline) : (line : Nat) → (limit closed : Option Nat) → Option FrameScope
  | 0, _, _ => none
  | line + 1, limit, closed =>
    match o.index.indent? line with
    | none => o.openAbove line limit closed
    | some indent =>
      if limit.any (· < indent) then o.openAbove line limit closed
      else if closed = some indent then o.openAbove line indent none
      else if closesBlock (o.index.shown line) then o.openAbove line indent indent
      else
        match o.declarationOn line with
        | some declaration =>
          if opensFrame (o.index.shown line) then some (o.scope declaration line)
          else o.openAbove line indent none
        | none => o.openAbove line indent none

/-- The frame around a line. -/
def enclosing (o : Outline) (line : Nat) : Option FrameScope :=
  match o.declarationOn line with
  | some declaration => some (o.scope declaration line)
  | none => (o.enclosingFold line).or (o.openAbove line (o.index.indent? line) none)

end Outline

/-- The context of a cursor in a frame that stands on no declaration or reference. -/
def FrameScope.context (scope : FrameScope) : Context := Context.ofFrameSpan scope.declaration

end TemplatePaint
