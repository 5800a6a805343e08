import TemplatePaint.Proofs.Session.Visits

/-!
# Hosts that keep documents apart

A host keeps its documents apart if what it shows of a document, and how it
answers requests for the folds of it, hangs on the calls that name this
document alone (`Host.Apart`). A recorded host keeps documents apart if the
host does. To show it of a host, name the part of its state that a document
hangs on (`Host.Apart.of_part`); a workspace keeps its documents apart.
-/

namespace TemplatePaint

/-- What a host shows of a document, and how it answers the requests for its folds. -/
structure Host.View where
  isOpen : Bool
  text? : Option String
  cursor? : Option Nat
  hasSelection : Bool
  stored? : Option String
  /-- The answer to the request of a generation. -/
  answer : Nat → FoldAnswer

/-- What the host shows of a document now. -/
def Host.view {σ : Type} [Host σ] (host : σ) (doc : String) : Host.View where
  isOpen := Host.isOpen host doc
  text? := Host.text? host doc
  cursor? := Host.cursor? host doc
  hasSelection := Host.hasSelection host doc
  stored? := Host.stored? host doc
  answer generation := Host.answer host ⟨doc, generation⟩

/-- The calls that name a document. -/
def callsNaming (doc : String) (calls : List HostCall) : List HostCall :=
  calls.filter (·.document? = some doc)

theorem callsNaming_append (doc : String) (calls calls' : List HostCall) :
    callsNaming doc (calls ++ calls') = callsNaming doc calls ++ callsNaming doc calls' :=
  List.filter_append ..

theorem callsNaming_reverse (doc : String) (calls : List HostCall) :
    callsNaming doc calls.reverse = (callsNaming doc calls).reverse :=
  List.filter_reverse ..

/-- The calls name no document but this one. -/
def NameOnly (doc : String) (calls : List HostCall) : Prop :=
  ∀ c ∈ calls, ∀ d, c.document? = some d → d = doc

theorem nameOnly_nil (doc : String) : NameOnly doc [] := List.forall_mem_nil _

theorem nameOnly_of_document? {doc : String} {calls : List HostCall}
    (h : ∀ c ∈ calls, c.document? = some doc) : NameOnly doc calls :=
  fun c hc _ named => Option.some.inj (named.symm.trans (h c hc))

theorem callsNaming_of_ne {calls : List HostCall} {doc doc' : String} (h : NameOnly doc calls)
    (ne : doc' ≠ doc) : callsNaming doc' calls = [] :=
  List.filter_eq_nil_iff.2 fun c hc named => ne (h c hc doc' (of_decide_eq_true named))

/-- Of calls that name one document and calls that name another, each document is named by the
same, whichever come first. -/
theorem callsNaming_append_comm {calls calls' : List HostCall} {a b : String} (ne : a ≠ b)
    (h : NameOnly a calls) (h' : NameOnly b calls') (doc : String) :
    callsNaming doc (calls ++ calls') = callsNaming doc (calls' ++ calls) := by
  rw [callsNaming_append, callsNaming_append]
  by_cases first : doc = a
  · have none : callsNaming doc calls' = [] := callsNaming_of_ne h' (first ▸ ne)
    rw [none, List.append_nil, List.nil_append]
  · have none : callsNaming doc calls = [] := callsNaming_of_ne h first
    rw [none, List.append_nil, List.nil_append]

/-- What was painted in a document was painted by calls that name it. -/
theorem lastPainted?_callsNaming (doc : String) (calls : List HostCall) (g : Group) :
    lastPainted? (callsNaming doc calls) doc g = lastPainted? calls doc g := by
  induction calls with
  | nil => rfl
  | cons c cs ih =>
    rw [callsNaming, lastPainted?] at ih
    by_cases named : c.document? = some doc
    · rw [callsNaming, List.filter_cons_of_pos (by simpa using named), lastPainted?,
        List.findSome?_cons, ih]
      rfl
    · have unpainted : c.painting? doc g = none := by
        cases c with
        | paint d g' regions =>
          have ne : d ≠ doc := fun same => named (congrArg some same)
          simp [HostCall.painting?, ne]
        | _ => rfl
      rw [callsNaming, List.filter_cons_of_neg (by simpa using named)]
      exact ih.trans (by simp [lastPainted?, unpainted])

/-- What the host shows of a document hangs on the calls that name it alone. -/
def Host.Apart (σ : Type) [Host σ] : Prop :=
  ∀ (host : σ) (calls : List HostCall) (doc : String),
    Host.view (calls.foldl Host.perform host) doc =
      Host.view ((callsNaming doc calls).foldl Host.perform host) doc

namespace Host.Apart

variable {σ : Type} [Host σ]

theorem recorded (apart : Host.Apart σ) : Host.Apart (Recorded σ) := by
  have host (r : Recorded σ) (calls : List HostCall) :
      (calls.foldl Host.perform r).host = calls.foldl Host.perform r.host := by
    induction calls generalizing r with
    | nil => rfl
    | cons c cs ih => exact ih (Host.perform r c)
  intro r calls doc
  show Host.view (calls.foldl Host.perform r).host doc = Host.view (List.foldl _ r _).host doc
  rw [host, host]
  exact apart r.host calls doc

/-- A host keeps documents apart if each hangs on a part of the state, and a call that does not name
the document leaves this part. -/
theorem of_part {α : Type} (part : σ → String → α) (shown : α → Host.View)
    (after : HostCall → String → α → α)
    (view : ∀ host doc, Host.view host doc = shown (part host doc))
    (perform : ∀ host c doc, part (Host.perform host c) doc = after c doc (part host doc))
    (others : ∀ (c : HostCall) doc p, c.document? ≠ some doc → after c doc p = p) :
    Host.Apart σ := by
  have alike (calls : List HostCall) (doc : String) : ∀ host host', part host doc = part host' doc →
      part (calls.foldl Host.perform host) doc =
        part ((callsNaming doc calls).foldl Host.perform host') doc := by
    induction calls with
    | nil => exact fun _ _ same => same
    | cons c cs ih =>
      intro host host' same
      by_cases named : c.document? = some doc
      · rw [callsNaming, List.filter_cons_of_pos (by simpa using named)]
        exact ih _ _ (by rw [perform, perform, same])
      · rw [callsNaming, List.filter_cons_of_neg (by simpa using named)]
        exact ih _ _ (by rw [perform, others c doc _ named, same])
  intro host calls doc
  rw [view, view, alike calls doc host host rfl]

end Host.Apart

/-! ## Workspaces -/

namespace Workspace

/-- The part of a workspace that a document hangs on. -/
structure Part where
  isBare : Bool
  answer : FoldAnswer
  document : Option OpenDocument
  stored : Option String

/-- The part that this document hangs on. -/
def part (w : Workspace) (doc : String) : Part :=
  ⟨w.isBare, w.answer, w.documents.get? doc, w.stored.get? doc⟩

/-- The view of a document that hangs on this part. -/
def Part.view (p : Part) : Host.View where
  isOpen := p.document.isSome
  text? := p.document.bind (·.text)
  cursor? := p.document.bind (·.cursor)
  hasSelection := !p.isBare && p.document.any (·.hasSelection)
  stored? := if p.isBare then none else p.stored
  answer _ := if p.isBare then .ready [] else p.answer

/-- The part of a document after a call. -/
def Part.after (c : HostCall) (doc : String) (p : Part) : Part :=
  match c with
  | .setCursor d offset =>
    if doc = d ∧ p.isBare = false then
      { p with document := p.document.map fun document => { document with cursor := offset } }
    else p
  | .storeToggles d stored =>
    if doc = d ∧ p.isBare = false then { p with stored := some stored } else p
  | _ => p

theorem part_edit (w : Workspace) (d doc : String) (f : OpenDocument → OpenDocument) :
    (w.edit d f).part doc =
      if doc = d then { w.part doc with document := (w.part doc).document.map f }
      else w.part doc := by
  rw [edit]
  cases h : w.documents.get? d with
  | none => by_cases same : doc = d <;> simp [part, same, h]
  | some document => by_cases same : doc = d <;> simp [part, openDocument, same, h]

theorem part_perform (w : Workspace) (c : HostCall) (doc : String) :
    (Host.perform w c).part doc = (w.part doc).after c doc := by
  show (if w.takes c then w.obey c else w).part doc = _
  cases bare : w.isBare with
  | true =>
    have inert : (w.part doc).isBare = true := bare
    cases c <;> simp [takes, bare, obey, Part.after, inert]
  | false =>
    have takes : w.takes c = true := by cases c <;> simp [takes, bare]
    have busy : (w.part doc).isBare = false := bare
    rw [takes, if_pos rfl]
    cases c with
    | setCursor d offset =>
      rw [obey, part_edit, Part.after]
      simp [busy]
    | storeToggles d stored =>
      by_cases same : doc = d <;> simp [obey, Part.after, part, bare, same]
    | _ => rfl

/-- A workspace that is not bare just moves the cursor of an open document when it is told to. -/
theorem view_setCursor {w : Workspace} {doc : String} (busy : w.isBare = false)
    (isOpen : Host.isOpen w doc = true) (offset : Nat) :
    Host.view (Host.perform w (.setCursor doc offset)) doc =
      { Host.view w doc with cursor? := some offset } := by
  have view (w : Workspace) : Host.view w doc = (w.part doc).view := rfl
  obtain ⟨d, hd⟩ : ∃ d, (w.part doc).document = some d := Option.isSome_iff_exists.1 isOpen
  rw [view, view, part_perform, Part.after, if_pos ⟨rfl, busy⟩, hd]
  simp [Part.view, hd]

theorem apart : Host.Apart Workspace := by
  refine .of_part part Part.view Part.after (fun _ _ => rfl) part_perform fun c doc p other => ?_
  have ne (d : String) (named : c.document? = some d) : doc ≠ d :=
    fun same => other (same ▸ named)
  cases c with
  | setCursor d offset => exact if_neg fun h => ne d rfl h.1
  | storeToggles d stored => exact if_neg fun h => ne d rfl h.1
  | _ => rfl

end Workspace

end TemplatePaint
