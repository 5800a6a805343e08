import TemplatePaint.Document.Snapshot
import TemplatePaint.Document.Toggles
import TemplatePaint.Frame
import TemplatePaint.Paint.Edit
import TemplatePaint.Settings
import TemplatePaint.Span.Stream

/-!
# Features

Each feature owns some groups. For a snapshot of a document it scans the spans
that it needs, finds the context of the cursor and what belongs to it, and
gives one edit for each of its groups, `map_group_edits`, so that a pass leaves
nothing of the one before.
-/

namespace TemplatePaint

/-- What a feature reads in one pass. -/
structure Pass where
  snapshot : Snapshot
  emphasis : Emphasis
  /-- The class attribute that is expanded under the cursor. -/
  expanded : Option TextRange
  /-- The blocks of the text as the host tells them. -/
  folds : List LineRange

namespace Pass

/-- The text of the snapshot. -/
def text (pass : Pass) : String := pass.snapshot.text

/-- The spans of some kinds, and the comments. -/
def spans (pass : Pass) (kinds : List SpanKind) : List Span :=
  Span.scan pass.text (kinds ++ [.comment])

/-- The plan for what the cursor stands on among some spans. -/
def plan (pass : Pass) (spans : List Span) (target : Target) (style : Style) : List Region :=
  let context := Context.atCursor spans pass.snapshot.cursor target
  style.plan pass.text context (context.links spans)

end Pass

/-- What can be painted. -/
inductive Feature where
  /-- Text outside the embedded tags is dimmed. -/
  | scriptEmphasis
  /-- Class attributes are folded. -/
  | classFolding
  /-- The modifiers of the class at the cursor are highlighted in all classes. -/
  | modifierHighlight
  /-- What names the controller at the cursor is highlighted. -/
  | controllerLinks
  /-- What names the frame at the cursor is highlighted, and the lines of the frame around it. -/
  | frameLinks
deriving DecidableEq

namespace Feature

/-- All features, in the order in which they paint. -/
def all : List Feature :=
  [scriptEmphasis, classFolding, modifierHighlight, controllerLinks, frameLinks]

/-- The name of the feature. -/
def name : Feature → String
  | scriptEmphasis => "script-emphasis"
  | classFolding => "class-folding"
  | modifierHighlight => "modifier-highlight"
  | controllerLinks => "controller-links"
  | frameLinks => "turbo-frames"

/-- The groups that the feature owns. -/
def groups : Feature → List Group
  | scriptEmphasis => [.dim]
  | classFolding => [.folded]
  | modifierHighlight => Group.modifierGroups
  | controllerLinks => [.controller]
  | frameLinks => [.frame, .frameScope]

/-- The switch of the feature; a feature without one is always on. -/
def switch? : Feature → Option Switch
  | scriptEmphasis => some .dimming
  | classFolding => some .folding
  | frameLinks => some .frames
  | modifierHighlight | controllerLinks => none

/-- The feature is on. -/
def isEnabled (f : Feature) (toggles : Toggles) : Bool := f.switch?.all toggles.get

/-- The feature reads the folds of the text. -/
def needsFolds (f : Feature) : Bool := f == frameLinks

/-- The plan of the frames: the spans of the frame at the cursor, or else of the frame around it,
and the lines of the frame around it. -/
def framePlan (pass : Pass) (spans : List Span) (context : Context) : List Region :=
  let index := LineIndex.ofText pass.text
  let scope := (Outline.ofSpans index spans pass.folds).enclosing
    (index.lineAt pass.snapshot.cursor)
  let context :=
    if context = .none then (scope.map FrameScope.context).getD .none else context
  let plan := (Style.highlight .frame).plan pass.text context (context.links spans)
  match scope with
  | some scope => Region.finish (plan ++ [.scope (index.linesRange scope.lines)])
  | none => plan

/-- The edits for the frames; in a comment, none are painted. -/
def frameEdits (pass : Pass) : List Edit :=
  let spans := pass.spans [.frameDeclaration, .frameReference]
  match Context.atCursor spans pass.snapshot.cursor .frame with
  | .suppressed => Edit.clearAll frameLinks.groups
  | context => Edit.ofPlan (framePlan pass spans context) frameLinks.groups

/-- The edits of the feature for one pass, one for each of its groups. -/
def edits (pass : Pass) : Feature → List Edit
  | scriptEmphasis =>
    Edit.ofPlan (pass.plan (pass.spans [.script]) (.script pass.emphasis) .dimOthers)
      scriptEmphasis.groups
  | classFolding =>
    let links := { Links.empty with spans := Span.scan pass.text [.classAttribute] }
    Edit.ofPlan ((Style.fold pass.expanded.toList).plan pass.text .none links) classFolding.groups
  | modifierHighlight =>
    Edit.ofPlan (pass.plan (pass.spans [.classAttribute]) .modifiers .buckets)
      modifierHighlight.groups
  | controllerLinks =>
    let spans := pass.spans [.controllerDeclaration, .controllerReference, .action]
    Edit.ofPlan (pass.plan spans .controllers (.highlight .controller)) controllerLinks.groups
  | frameLinks => frameEdits pass

/-- A feature gives one edit for each of its groups, whatever it finds. -/
theorem map_group_edits (pass : Pass) (f : Feature) : (f.edits pass).map Edit.group = f.groups := by
  cases f with
  | scriptEmphasis => exact Edit.map_group_ofPlan _ _
  | classFolding => exact Edit.map_group_ofPlan _ _
  | modifierHighlight => exact Edit.map_group_ofPlan _ _
  | controllerLinks => exact Edit.map_group_ofPlan _ _
  | frameLinks =>
    show (frameEdits pass).map Edit.group = frameLinks.groups
    rw [frameEdits]
    split
    · exact Edit.map_group_clearAll _
    · exact Edit.map_group_ofPlan _ _

end Feature

end TemplatePaint
