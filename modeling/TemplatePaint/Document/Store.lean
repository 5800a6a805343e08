import TemplatePaint.Document.StoredToggles
import TemplatePaint.KeyMap
import TemplatePaint.Text.Range

/-!
# The state of documents

For each document that is tracked: its toggles, a generation that every event
advances, the generation of the request for folds that is still unanswered,
and the class attribute that is expanded under the cursor. An answer to a
request counts only while its generation is the current one and it is the one
awaited.

A store is seen through `KeyMap.get?`; `get?_change`, `get?_dropRequest` and
`get?_settle` say what its operations do to that view, and `awaits_iff` what it
is to await an answer.
-/

namespace TemplatePaint

/-- The state of a document. -/
structure DocumentState where
  toggles : Toggles
  generation : Nat
  /-- The generation of the unanswered request for folds. -/
  pending : Option Nat
  /-- The class attribute that is expanded under the cursor. -/
  expanded : Option TextRange
deriving DecidableEq

namespace DocumentState

/-- The state of a document that is seen for the first time. -/
def fresh : DocumentState := ⟨.default, 0, none, none⟩

end DocumentState

/-- A request for the folds of a document, made in one of its generations. -/
structure FoldRequest where
  document : String
  generation : Nat
deriving DecidableEq

/-- The state of every tracked document. -/
abbrev Store := KeyMap DocumentState

namespace Store

/-- No document is tracked. -/
def empty : Store := KeyMap.empty

/-- The state of a document; that of a fresh one if it is not tracked. -/
def stateOf (s : Store) (doc : String) : DocumentState := (s.get? doc).getD .fresh

/-- The toggles of a document. -/
def togglesOf (s : Store) (doc : String) : Toggles := (s.stateOf doc).toggles

/-- Changes the state of a document, which is tracked from now on. -/
def change (s : Store) (doc : String) (f : DocumentState → DocumentState) : Store :=
  s.insert doc (f (s.stateOf doc))

/-- Tracks a document. -/
def track (s : Store) (doc : String) : Store := s.change doc id

/-- Flips a switch of a document. -/
def flip (s : Store) (doc : String) (switch : Switch) : Store :=
  s.change doc fun d => { d with toggles := d.toggles.flip switch }

/-- Advances the generation of a document. -/
def advance (s : Store) (doc : String) : Store :=
  s.change doc fun d => { d with generation := d.generation + 1 }

/-- Sets which class attribute of a document is expanded. -/
def expand (s : Store) (doc : String) (range : Option TextRange) : Store :=
  s.change doc fun d => { d with expanded := range }

/-- The request for the folds of a document in its current generation. -/
def requestFor (s : Store) (doc : String) : FoldRequest := ⟨doc, (s.stateOf doc).generation⟩

/-- Awaits the answer to the current request of a document. -/
def await (s : Store) (doc : String) : Store :=
  s.change doc fun d => { d with pending := d.generation }

/-- Awaits no answer for a document any more, if it is tracked. -/
def dropRequest (s : Store) (doc : String) : Store :=
  match s.get? doc with
  | some d => s.insert doc { d with pending := none }
  | none => s

/-- The answer to the request is awaited and still current. -/
def awaits (s : Store) (request : FoldRequest) : Bool :=
  (s.get? request.document).any fun d =>
    d.generation == request.generation && d.pending == some request.generation

/-- Takes the answer to a request, if it is awaited and still current. -/
def settle (s : Store) (request : FoldRequest) : Store :=
  if s.awaits request then s.dropRequest request.document else s

/-- Sets the toggles of a document from their stored form; nothing changes if that is faulty. -/
def restore (s : Store) (doc : String) (raw : String) : Except Fault Store :=
  (Toggles.ofStored raw).map fun toggles => s.change doc fun d => { d with toggles }

/-! ## What the operations do -/

@[simp] theorem get?_change (s : Store) (doc doc' : String) (f : DocumentState → DocumentState) :
    (s.change doc f).get? doc' = if doc' = doc then some (f (s.stateOf doc)) else s.get? doc' :=
  s.get?_insert doc doc' _

@[simp] theorem stateOf_change (s : Store) (doc doc' : String)
    (f : DocumentState → DocumentState) :
    (s.change doc f).stateOf doc' = if doc' = doc then f (s.stateOf doc) else s.stateOf doc' := by
  rw [stateOf, get?_change]
  split <;> rfl

theorem stateOf_of_get? {s : Store} {doc : String} {d : DocumentState} (h : s.get? doc = some d) :
    s.stateOf doc = d := by
  rw [stateOf, h]
  rfl

/-- A change hangs on the state of the document alone. -/
theorem change_congr {s : Store} {doc : String} {f g : DocumentState → DocumentState}
    (h : f (s.stateOf doc) = g (s.stateOf doc)) : s.change doc f = s.change doc g := by
  rw [change, change, h]

/-- Of two changes of one document, the first counts only for what the second reads. -/
@[simp] theorem change_change (s : Store) (doc : String) (f g : DocumentState → DocumentState) :
    (s.change doc f).change doc g = s.change doc (g ∘ f) := by
  refine KeyMap.ext fun doc' => ?_
  rw [get?_change, get?_change, get?_change, stateOf_change, if_pos rfl]
  split <;> rfl

@[simp] theorem get?_dropRequest (s : Store) (doc doc' : String) :
    (s.dropRequest doc).get? doc' =
      if doc' = doc then (s.get? doc).map fun d => { d with pending := none }
      else s.get? doc' := by
  rw [dropRequest]
  split
  · rename_i d h
    rw [KeyMap.get?_insert, h]
    rfl
  · rename_i h
    split
    · rename_i e
      rw [e, h]
      rfl
    · rfl

/-- No answer is awaited any more for a document that is tracked. -/
theorem dropRequest_eq_change {s : Store} {doc : String} (h : s.contains doc = true) :
    s.dropRequest doc = s.change doc fun d => { d with pending := none } := by
  obtain ⟨d, hd⟩ := Option.isSome_iff_exists.1 h
  refine KeyMap.ext fun doc' => ?_
  rw [get?_dropRequest, get?_change, hd, stateOf_of_get? hd]
  rfl

theorem awaits_iff (s : Store) (request : FoldRequest) :
    s.awaits request = true ↔ ∃ d, s.get? request.document = some d ∧
      d.generation = request.generation ∧ d.pending = some request.generation := by
  simp [awaits, Option.any_eq_true]

/-- Taking an answer that is awaited changes nothing but that it is awaited. -/
theorem settle_eq_change {s : Store} {request : FoldRequest} (h : s.awaits request = true) :
    s.settle request = s.change request.document fun d => { d with pending := none } := by
  obtain ⟨d, hd, -⟩ := (awaits_iff _ _).1 h
  have hc : s.contains request.document = true := by rw [KeyMap.contains, hd]; rfl
  rw [settle, if_pos h, dropRequest_eq_change hc]

theorem get?_settle (s : Store) (request : FoldRequest) (doc : String) :
    (s.settle request).get? doc =
      if doc = request.document ∧ s.awaits request = true then
        (s.get? doc).map fun d => { d with pending := none }
      else s.get? doc := by
  rw [settle]
  by_cases h : s.awaits request = true
  · rw [if_pos h, get?_dropRequest]
    by_cases e : doc = request.document
    · rw [if_pos e, if_pos ⟨e, h⟩, e]
    · rw [if_neg e, if_neg fun he => e he.1]
  · rw [if_neg h, if_neg fun he => h he.2]

/-- An answer that was taken is not awaited any more. -/
theorem awaits_settle (s : Store) (request : FoldRequest) :
    (s.settle request).awaits request = false := by
  rw [settle]
  split
  · refine Bool.eq_false_iff.2 fun h => ?_
    obtain ⟨d, hd, -, hp⟩ := (awaits_iff _ _).1 h
    rw [get?_dropRequest, if_pos rfl] at hd
    obtain ⟨d', -, rfl⟩ := Option.map_eq_some_iff.1 hd
    cases hp
  · rename_i h
    exact Bool.eq_false_iff.2 h

end Store

end TemplatePaint
