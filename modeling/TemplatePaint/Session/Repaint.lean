import TemplatePaint.Session.Basic

/-!
# Repainting a document

A pass over a document takes a snapshot, expands the class attribute under the
cursor, asks for the folds if a feature needs them, and runs every feature.
While the folds are awaited, the features that need them leave their groups as
they are, and paint when the folds are delivered.
-/

namespace TemplatePaint

namespace Session

variable {σ : Type} [Host σ]

/-- The class attribute that is expanded in a document: with folding on and nothing selected, the
first one that the cursor touches. -/
def expansion (s : Session σ) (doc : String) (snapshot : Snapshot) : Option TextRange :=
  if (s.store.togglesOf doc).folding && !snapshot.hasSelection then
    ((Span.scan snapshot.text [.classAttribute]).find? (·.range.touches snapshot.cursor)).map
      (·.range)
  else none

/-- The pass over a document with these folds. -/
def passOver (s : Session σ) (doc : String) (snapshot : Snapshot) (folds : List LineRange) : Pass :=
  { snapshot, folds
    emphasis := s.settings.emphasis
    expanded := (s.store.stateOf doc).expanded }

/-- Asks for the folds of a document if an enabled feature needs them. There are none yet if the
host will deliver them later; a host that fails to know them has none. -/
def askFolds (s : Session σ) (doc : String) : Option (List LineRange) × Session σ :=
  if Feature.all.any fun f => f.needsFolds && f.isEnabled (s.store.togglesOf doc) then
    let request := s.store.requestFor doc
    let s := s.onStore (·.await doc)
    let answer := Host.answer s.host request
    let s := s.tell (.requestFolds request)
    match answer with
    | .ready folds => (some folds, s.onStore (·.settle request))
    | .failed _ => (some [], s.onStore (·.settle request))
    | .pending => (none, s)
  else (some [], s.onStore (·.dropRequest doc))

/-- Runs a feature: a disabled one clears its groups, and one whose folds are awaited does
nothing. -/
def runFeature (doc : String) (snapshot : Snapshot) (folds : Option (List LineRange))
    (s : Session σ) (f : Feature) : Session σ :=
  if !f.isEnabled (s.store.togglesOf doc) then s.paint doc (Edit.clearAll f.groups)
  else if f.needsFolds && folds.isNone then s
  else s.paint doc (f.edits (s.passOver doc snapshot (folds.getD [])))

/-- Runs every feature for a document and paints it anew. -/
def repaint (s : Session σ) (doc : String) : Session σ :=
  match Host.snapshot? s.host doc with
  | none => s
  | some snapshot =>
    let s := s.onStore (·.expand doc (s.expansion doc snapshot))
    let (folds, s) := s.askFolds doc
    Feature.all.foldl (runFeature doc snapshot folds) s

/-- Advances the generation of a document, so that no answer awaited before counts any more. -/
def advance (s : Session σ) (doc : String) : Session σ := s.onStore (·.advance doc)

/-- Tracks a document and advances its generation. -/
def touch (s : Session σ) (doc : String) : Session σ := (s.track doc).advance doc

/-- Where a click in a folded class attribute puts the cursor: at the start of the value of the
first class attribute that it touches and that is not expanded. -/
def clickTarget? (s : Session σ) (doc : String) : Option Nat :=
  if (s.store.togglesOf doc).folding && !Host.hasSelection s.host doc then do
    let text ← Host.text? s.host doc
    let cursor ← Host.cursor? s.host doc
    let expanded := (s.store.stateOf doc).expanded
    let touched ← (Span.scan text [.classAttribute]).find? fun span =>
      span.range.touches cursor && expanded != some span.range
    let value ← touched.value?
    if value.range.start = cursor then none else some value.range.start
  else none

/-- Moves the cursor of a document out of a folded class attribute. -/
def settleClick (s : Session σ) (doc : String) : Session σ :=
  match s.clickTarget? doc with
  | some offset => s.tell (.setCursor doc offset)
  | none => s

end Session

end TemplatePaint
