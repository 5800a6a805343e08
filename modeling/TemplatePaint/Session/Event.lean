import TemplatePaint.Session.Repaint

/-!
# Events of a session

What the host reports and the user asks for; `Session.handle` takes one event.
Every event that may change what a document shows advances its generation.
Edits wait until the document has gone quiet; all other events paint at once.
-/

namespace TemplatePaint

/-- How a cursor came where it is. -/
inductive Motion where
  | keyboard
  | mouse
  | command
deriving DecidableEq

/-- What a session is told of or asked for. -/
inductive Event where
  | cursorMoved (doc : String) (motion : Motion)
  /-- Another document became active, or none. -/
  | activated (doc : Option String)
  | edited (doc : String) (now : Nat)
  /-- The time is `now`. -/
  | polled (now : Nat)
  /-- The settings under a key changed. -/
  | configured (key : String)
  | closed (doc : String)
  /-- The answer to an earlier request for folds, or why there is none. -/
  | delivered (request : FoldRequest) (folds : Except String (List LineRange))
  | toggle (doc : String) (switch : Switch)
  | foldDrawings (doc : String)
  | unfoldDrawings (doc : String)

/-- Why a session refuses what it is asked for. -/
inductive SessionError where
  /-- The document is closed, or no template. -/
  | notLive (doc : String)
deriving DecidableEq

/-- The message for the host. -/
def SessionError.message : SessionError → String
  | notLive doc => "document '" ++ doc ++ "' is closed or not a template"

namespace Session

variable {σ : Type} [Host σ]

/-! ## Reports of the host -/

/-- The cursor of a document moved. -/
def cursorMoved (s : Session σ) (doc : String) (motion : Motion) : Session σ :=
  if s.isLive doc then
    let s := (s.touch doc).onDebouncer (·.cancel doc)
    let s := if motion = .mouse then s.settleClick doc else s
    s.repaint doc
  else s

/-- The active document is left for another: what was awaited or scheduled for it is dropped. -/
def leave (s : Session σ) (next : Option String) : Session σ :=
  match s.active with
  | some previous =>
    if some previous ≠ next ∧ s.store.contains previous then
      ((s.advance previous).onStore (·.dropRequest previous)).onDebouncer (·.cancel previous)
    else s
  | none => s

/-- A document that is no template becomes active: nothing is painted in it, and all flags are
off. -/
def enterOther (s : Session σ) (doc : String) : Session σ :=
  let s := s.paint doc (Edit.clearAll (Feature.all.flatMap Feature.groups))
  Switch.all.foldl (fun s switch => s.tell (.setFlag switch.flag false)) s

/-- A template becomes active: its flags are published, and it is painted. -/
def enterTemplate (s : Session σ) (doc : String) : Session σ :=
  (Switch.all.foldl (fun s switch => s.publish doc switch) (s.touch doc)).repaint doc

/-- Another document became active, or none. -/
def activated (s : Session σ) (doc : Option String) : Session σ :=
  let s := { s.leave doc with active := doc }
  match doc with
  | none => s
  | some doc =>
    if !s.isTemplate doc then s.enterOther doc
    else if Host.isOpen s.host doc then s.enterTemplate doc
    else s

/-- The text of a document changed at time `now`. -/
def edited (s : Session σ) (doc : String) (now : Nat) : Session σ :=
  if s.isLive doc then (s.touch doc).onDebouncer (·.schedule doc now) else s

/-- A document has gone quiet after its edits. -/
def quieted (s : Session σ) (doc : String) : Session σ :=
  if Host.isOpen s.host doc then (s.advance doc).repaint doc else s

/-- The time is `now`: every document that has gone quiet is painted. -/
def polled (s : Session σ) (now : Nat) : Session σ :=
  (s.debouncer.due now).foldl quieted (s.onDebouncer (·.release now))

/-- Paints a document anew if it is live. -/
def refresh (s : Session σ) (doc : String) : Session σ :=
  if s.isLive doc then (s.touch doc).repaint doc else s

/-- The visible documents, and the active one if it is not among them. -/
def shown (s : Session σ) : List String :=
  let visible := Host.visible s.host
  visible ++ s.active.toList.filter (!visible.contains ·)

/-- The settings under a key changed. -/
def configured (s : Session σ) (key : String) : Session σ :=
  if Settings.affectedBy key then
    let settings := Settings.load (Host.settings s.host)
    let s := { s with settings, debouncer := s.debouncer.setQuiet settings.editQuiet }
    s.shown.foldl refresh s
  else s

/-- A document was closed. -/
def closed (s : Session σ) (doc : String) : Session σ :=
  { s with
    store := s.store.erase doc
    debouncer := s.debouncer.cancel doc
    active := if s.active = some doc then none else s.active }

/-- The folds of an earlier request are delivered, or are not to be had. Only the awaited answer
of the current generation counts. -/
def delivered (s : Session σ) (request : FoldRequest) (folds : Except String (List LineRange)) :
    Session σ :=
  if s.store.awaits request then
    let s := s.onStore (·.settle request)
    let doc := request.document
    if Host.isOpen s.host doc then
      match Host.snapshot? s.host doc with
      | some snapshot =>
        (Feature.all.filter fun f => f.needsFolds && f.isEnabled (s.store.togglesOf doc)).foldl
          (runFeature doc snapshot (some (folds.toOption.getD []))) s
      | none => s
    else s
  else s

/-! ## Requests of the user -/

/-- Stores the toggles of a document if they outlive sessions. -/
def storeToggles (s : Session σ) (doc : String) : Session σ :=
  if s.settings.persistence = .always then
    s.tell (.storeToggles doc (s.store.togglesOf doc).stored)
  else s

/-- Flips a switch of a live document and paints it. -/
def flip (s : Session σ) (doc : String) (switch : Switch) : Session σ :=
  let s := ((s.track doc).onStore (·.flip doc switch)).advance doc
  let s := ((s.publish doc switch).storeToggles doc).repaint doc
  if switch = .folding ∧ s.settings.wrapsWithFolding then s.tell (.switchWrap doc) else s

/-- Flips a switch of a document, and gives how it stands now. -/
def toggle (s : Session σ) (doc : String) (switch : Switch) :
    Except SessionError Bool × Session σ :=
  if s.isLive doc then
    let s := s.flip doc switch
    (.ok ((s.store.togglesOf doc).get switch), s)
  else (.error (.notLive doc), s)

/-- The lines that drawings of more than one line start on. -/
def drawingLines (text : String) : List Nat :=
  let index := LineIndex.ofText text
  let lines := (Span.scan text [.svg]).filterMap fun span =>
    let first := index.lineAt span.range.start
    if first < index.lineAt (span.range.stop - 1) then some first else none
  withoutRepeats lines
where
  /-- The list with one of each number that stands several times in a row. -/
  withoutRepeats : List Nat → List Nat
    | [] => []
    | line :: lines =>
      match withoutRepeats lines with
      | [] => [line]
      | l :: ls => if line = l then l :: ls else line :: l :: ls

/-- Folds the drawings of a document, and gives the lines that they start on. -/
def foldDrawings (s : Session σ) (doc : String) : List Nat × Session σ :=
  if s.isLive doc then
    match Host.text? s.host doc with
    | some text =>
      let lines := drawingLines text
      (lines, if lines.isEmpty then s else s.tell (.foldLines doc lines))
    | none => ([], s)
  else ([], s)

/-- Unfolds everything in a document. -/
def unfoldDrawings (s : Session σ) (doc : String) : Session σ :=
  if s.isLive doc then s.tell (.unfoldAll doc) else s

/-! ## Events as values -/

/-- The session after an event. -/
def handle (s : Session σ) : Event → Session σ
  | .cursorMoved doc motion => s.cursorMoved doc motion
  | .activated doc => s.activated doc
  | .edited doc now => s.edited doc now
  | .polled now => s.polled now
  | .configured key => s.configured key
  | .closed doc => s.closed doc
  | .delivered request folds => s.delivered request folds
  | .toggle doc switch => (s.toggle doc switch).2
  | .foldDrawings doc => (s.foldDrawings doc).2
  | .unfoldDrawings doc => s.unfoldDrawings doc

end Session

end TemplatePaint
