import TemplatePaint.Document.Snapshot
import TemplatePaint.Document.Store
import TemplatePaint.Json.Value
import TemplatePaint.Paint.Plan
import TemplatePaint.Text.Lines

/-!
# Hosts

The editor around the engine. A host shows its documents, tells how it answers
a request for the folds of a document, and takes calls; a call may change what
it shows from then on.
-/

namespace TemplatePaint

/-- The answer of a host to a request for folds. -/
inductive FoldAnswer where
  /-- The folds are known. -/
  | ready (folds : List LineRange)
  /-- The folds will be delivered later. -/
  | pending
  /-- The folds are not to be had. -/
  | failed (reason : String)
deriving DecidableEq

/-- What a host is told to do. -/
inductive HostCall where
  /-- Replace the regions of a group in a document. -/
  | paint (doc : String) (group : Group) (regions : List Region)
  /-- Publish a flag. -/
  | setFlag (flag : String) (value : Bool)
  /-- Switch the soft wrap of a document. -/
  | switchWrap (doc : String)
  /-- Move the cursor of a document. -/
  | setCursor (doc : String) (offset : Nat)
  /-- Fold what starts on these lines of a document. -/
  | foldLines (doc : String) (lines : List Nat)
  /-- Unfold everything in a document. -/
  | unfoldAll (doc : String)
  /-- Look for the folds of a document. -/
  | requestFolds (request : FoldRequest)
  /-- Store the toggles of a document. -/
  | storeToggles (doc : String) (stored : String)
deriving DecidableEq

/-- A host with states of type `σ`. -/
class Host (σ : Type) where
  /-- The document is open. -/
  isOpen : σ → String → Bool
  /-- The text of a document, if the host has one to show. -/
  text? : σ → String → Option String
  /-- The cursor of a document, if it has one. -/
  cursor? : σ → String → Option Nat
  /-- Something is selected in a document. -/
  hasSelection : σ → String → Bool
  /-- The user's settings. -/
  settings : σ → Json
  /-- The documents that are visible. -/
  visible : σ → List String
  /-- The stored toggles of a document. -/
  stored? : σ → String → Option String
  /-- The answer that the host gives to a request at once. -/
  answer : σ → FoldRequest → FoldAnswer
  /-- The host after a call. -/
  perform : σ → HostCall → σ

namespace Host

variable {σ : Type} [Host σ]

/-- The text and the cursor of a document as the host shows them now. -/
def snapshot? (host : σ) (doc : String) : Option Snapshot := do
  let text ← text? host doc
  let cursor ← cursor? host doc
  return .ofCursor text cursor (hasSelection host doc)

end Host

end TemplatePaint
