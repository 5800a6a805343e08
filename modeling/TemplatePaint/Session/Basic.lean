import TemplatePaint.Debouncer
import TemplatePaint.Feature
import TemplatePaint.Host.Basic
import TemplatePaint.Language

/-!
# Sessions

The engine beside its host. A session knows the language whose templates it
paints, the settings, the state of its documents, the edits that wait to go
quiet, and the active document. It acts on documents that are live: open in
the host, and templates of the language.
-/

namespace TemplatePaint

/-- An engine and its host. -/
structure Session (σ : Type) where
  host : σ
  language : Language
  settings : Settings
  store : Store
  debouncer : Debouncer
  active : Option String

namespace Session

variable {σ : Type} [Host σ]

/-- A session with a host before its first event. -/
def start (host : σ) (language : Language) : Session σ :=
  let settings := Settings.load (Host.settings host)
  { host, language, settings
    store := .empty
    debouncer := .ofQuiet settings.editQuiet
    active := none }

/-- Tells the host to do something. -/
def tell (s : Session σ) (call : HostCall) : Session σ :=
  { s with host := Host.perform s.host call }

/-- Changes the state of the documents. -/
def onStore (s : Session σ) (f : Store → Store) : Session σ := { s with store := f s.store }

/-- Changes what waits to go quiet. -/
def onDebouncer (s : Session σ) (f : Debouncer → Debouncer) : Session σ :=
  { s with debouncer := f s.debouncer }

/-- The document is a template. -/
def isTemplate (s : Session σ) (doc : String) : Bool := s.language.claims doc

/-- The document is a template and open. -/
def isLive (s : Session σ) (doc : String) : Bool := s.isTemplate doc && Host.isOpen s.host doc

/-- Restores the toggles of a document from the host, if they outlive sessions; a faulty stored
form is left alone. -/
def restoreToggles (s : Session σ) (doc : String) : Session σ :=
  if s.settings.persistence = .always then
    match Host.stored? s.host doc with
    | some raw =>
      match s.store.restore doc raw with
      | .ok store => { s with store }
      | .error _ => s
    | none => s
  else s

/-- Tracks a document; at first sight its toggles are restored. -/
def track (s : Session σ) (doc : String) : Session σ :=
  if s.store.contains doc then s else (s.onStore (·.track doc)).restoreToggles doc

/-- Tells the host how a switch of a document stands. -/
def publish (s : Session σ) (doc : String) (switch : Switch) : Session σ :=
  s.tell (.setFlag switch.flag ((s.store.togglesOf doc).get switch))

/-- Hands edits to the host, one after the other. -/
def paint (s : Session σ) (doc : String) (edits : List Edit) : Session σ :=
  edits.foldl (fun s e => s.tell (.paint doc e.group e.regions)) s

end Session

end TemplatePaint
