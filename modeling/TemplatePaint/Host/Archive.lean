import TemplatePaint.Host.Basic

/-!
# Archives

A host beside the toggles that are stored for its documents. An archive stores
what it is told to store, and no other call changes what is stored; it shows
and answers what the host does.
-/

namespace TemplatePaint

/-- A host, and what is stored for each document. -/
structure Archive (σ : Type) where
  host : σ
  stored : String → Option String

namespace Archive

variable {σ : Type}

/-- What is stored for a document after a call. -/
def storedAfter (a : Archive σ) (call : HostCall) (doc : String) : Option String :=
  match call with
  | .storeToggles d stored => if doc = d then some stored else a.stored doc
  | _ => a.stored doc

instance [Host σ] : Host (Archive σ) where
  isOpen a doc := Host.isOpen a.host doc
  text? a doc := Host.text? a.host doc
  cursor? a doc := Host.cursor? a.host doc
  hasSelection a doc := Host.hasSelection a.host doc
  settings a := Host.settings a.host
  visible a := Host.visible a.host
  stored? a doc := a.stored doc
  answer a request := Host.answer a.host request
  perform a call := ⟨Host.perform a.host call, a.storedAfter call⟩

end Archive

end TemplatePaint
