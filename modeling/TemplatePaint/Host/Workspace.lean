import TemplatePaint.Host.Basic

/-!
# A workspace in memory

A host whose documents are values. It moves its cursors and stores toggles as
it is told, and answers every request for folds alike. A bare workspace shows
texts and cursors and takes paint, and leaves all else undone.
-/

namespace TemplatePaint

/-- An open document, which need not show a text or a cursor. -/
structure OpenDocument where
  text : Option String
  cursor : Option Nat
  hasSelection : Bool
deriving DecidableEq

/-- The state of a workspace. -/
structure Workspace where
  documents : KeyMap OpenDocument
  settings : Json
  answer : FoldAnswer
  stored : KeyMap String
  visible : List String
  isBare : Bool

namespace Workspace

/-- A workspace with some documents that shows nothing else. -/
def ofDocuments (documents : KeyMap OpenDocument) (isBare : Bool) : Workspace :=
  ⟨documents, .null, .ready [], .empty, [], isBare⟩

/-- Opens a document, or shows it anew. -/
def openDocument (w : Workspace) (doc : String) (d : OpenDocument) : Workspace :=
  { w with documents := w.documents.insert doc d }

/-- Closes a document. -/
def close (w : Workspace) (doc : String) : Workspace :=
  { w with documents := w.documents.erase doc }

/-- Changes a document if it is open. -/
def edit (w : Workspace) (doc : String) (f : OpenDocument → OpenDocument) : Workspace :=
  match w.documents.get? doc with
  | some d => w.openDocument doc (f d)
  | none => w

/-- What a call does to what the workspace shows. -/
def obey (w : Workspace) : HostCall → Workspace
  | .setCursor doc offset => w.edit doc fun d => { d with cursor := offset }
  | .storeToggles doc stored => { w with stored := w.stored.insert doc stored }
  | _ => w

/-- The workspace takes this call. -/
def takes (w : Workspace) : HostCall → Bool
  | .paint _ _ _ => true
  | _ => !w.isBare

instance : Host Workspace where
  isOpen w doc := w.documents.contains doc
  text? w doc := (w.documents.get? doc).bind (·.text)
  cursor? w doc := (w.documents.get? doc).bind (·.cursor)
  hasSelection w doc := !w.isBare && (w.documents.get? doc).any (·.hasSelection)
  settings w := if w.isBare then .null else w.settings
  visible w := if w.isBare then [] else w.visible
  stored? w doc := if w.isBare then none else w.stored.get? doc
  answer w _ := if w.isBare then .ready [] else w.answer
  perform w call := if w.takes call then w.obey call else w

end Workspace

end TemplatePaint
