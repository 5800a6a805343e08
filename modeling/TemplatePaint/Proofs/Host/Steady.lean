import TemplatePaint.Host.Recorded
import TemplatePaint.Host.Workspace

/-!
# Steady hosts

A host is steady if a call changes nothing of what it shows but what the call
is for: it shows the same documents with the same texts whatever it is told,
their cursors and selections are the same until it is told to move one, and so
are the stored toggles until it is told to store some. A recorded host is
steady if the host is, and a workspace is steady. Where it is enough that no
call opens or closes a document, a host need only keep them open
(`Host.KeepsOpen`).
-/

namespace TemplatePaint

namespace HostCall

/-- The call moves a cursor. -/
def movesCursor : HostCall → Bool
  | .setCursor _ _ => true
  | _ => false

/-- The call stores toggles. -/
def storesToggles : HostCall → Bool
  | .storeToggles _ _ => true
  | _ => false

end HostCall

/-- No call opens or closes a document. -/
def Host.KeepsOpen (σ : Type) [Host σ] : Prop :=
  ∀ (host : σ) (call : HostCall) (doc : String),
    Host.isOpen (Host.perform host call) doc = Host.isOpen host doc

/-- A call changes nothing of what the host shows but what it is for. -/
structure Host.Steady (σ : Type) [Host σ] : Prop where
  keepsOpen : Host.KeepsOpen σ
  snapshot? : ∀ (host : σ) {call : HostCall}, call.movesCursor = false → ∀ doc,
    Host.snapshot? (Host.perform host call) doc = Host.snapshot? host doc
  stored? : ∀ (host : σ) {call : HostCall}, call.storesToggles = false → ∀ doc,
    Host.stored? (Host.perform host call) doc = Host.stored? host doc

namespace Host.Steady

variable {σ : Type} [Host σ]

/-- What none of the calls changes is the same after all of them. -/
theorem foldl_perform {α : Type} {f : σ → α} {calls : List HostCall}
    (h : ∀ c ∈ calls, ∀ host, f (Host.perform host c) = f host) (host : σ) :
    f (calls.foldl Host.perform host) = f host := by
  induction calls generalizing host with
  | nil => rfl
  | cons c cs ih =>
    exact (ih (fun c' hc => h c' (List.mem_cons_of_mem _ hc)) _).trans
      (h c List.mem_cons_self host)

end Host.Steady

namespace Host.KeepsOpen

variable {σ : Type} [Host σ]

theorem recorded (keeps : Host.KeepsOpen σ) : Host.KeepsOpen (Recorded σ) :=
  fun r call doc => keeps r.host call doc

theorem foldl (keeps : Host.KeepsOpen σ) (host : σ) (calls : List HostCall) (doc : String) :
    Host.isOpen (calls.foldl Host.perform host) doc = Host.isOpen host doc :=
  Host.Steady.foldl_perform (f := (Host.isOpen · doc)) (fun c _ host => keeps host c doc) host

end Host.KeepsOpen

namespace Host.Steady

variable {σ : Type} [Host σ]

theorem recorded (steady : Host.Steady σ) : Host.Steady (Recorded σ) where
  keepsOpen := steady.keepsOpen.recorded
  snapshot? r _ h doc := steady.snapshot? r.host h doc
  stored? r _ h doc := steady.stored? r.host h doc

theorem isOpen_foldl (steady : Host.Steady σ) (host : σ) (calls : List HostCall) (doc : String) :
    Host.isOpen (calls.foldl Host.perform host) doc = Host.isOpen host doc :=
  steady.keepsOpen.foldl host calls doc

theorem snapshot?_foldl (steady : Host.Steady σ) (host : σ) {calls : List HostCall}
    (h : ∀ c ∈ calls, c.movesCursor = false) (doc : String) :
    Host.snapshot? (calls.foldl Host.perform host) doc = Host.snapshot? host doc :=
  foldl_perform (f := (Host.snapshot? · doc)) (fun c hc host => steady.snapshot? host (h c hc) doc)
    host

theorem stored?_foldl (steady : Host.Steady σ) (host : σ) {calls : List HostCall}
    (h : ∀ c ∈ calls, c.storesToggles = false) (doc : String) :
    Host.stored? (calls.foldl Host.perform host) doc = Host.stored? host doc :=
  foldl_perform (f := (Host.stored? · doc)) (fun c hc host => steady.stored? host (h c hc) doc)
    host

end Host.Steady

namespace Workspace

theorem contains_edit (w : Workspace) (doc : String) (f : OpenDocument → OpenDocument)
    (doc' : String) :
    (w.edit doc f).documents.contains doc' = w.documents.contains doc' := by
  rw [edit]
  split
  · rename_i d h
    rw [openDocument, KeyMap.contains, KeyMap.get?_insert]
    split
    · rename_i e
      rw [e, KeyMap.contains, h]
      rfl
    · rfl
  · rfl

theorem steady : Host.Steady Workspace where
  keepsOpen w call doc := by
    show (if w.takes call then w.obey call else w).documents.contains doc = _
    split
    · cases call with
      | setCursor d o => exact w.contains_edit d _ doc
      | _ => rfl
    · rfl
  snapshot? w call h doc := by
    show Host.snapshot? (if w.takes call then w.obey call else w) doc = _
    split
    · cases call with
      | setCursor d o => cases h
      | _ => rfl
    · rfl
  stored? w call h doc := by
    show Host.stored? (if w.takes call then w.obey call else w) doc = _
    split
    · cases call with
      | storeToggles d t => cases h
      | setCursor d o =>
        show (if (w.edit d _).isBare then none else (w.edit d _).stored.get? doc) = _
        rw [edit]
        split <;> rfl
      | _ => rfl
    · rfl

end Workspace

end TemplatePaint
