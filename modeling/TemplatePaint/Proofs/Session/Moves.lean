import Mathlib.Logic.Relation
import TemplatePaint.Proofs.Session.Visits
import TemplatePaint.Session.Run

/-!
# What a session can do

Whatever happens to a session, it makes few kinds of moves (`Move`), and an
event is some of them in a row: `handle_moves`. The one exception is that a
document is closed, which forgets its state. So a property holds after every
run if it is kept by each kind of move, by closing a document, and by what the
host does by itself: `run_keeps_of_moves`.
-/

namespace TemplatePaint

namespace Session

variable {σ : Type} [Host σ]

/-- One move of a session. -/
inductive Move : Session σ → Session σ → Prop
  /-- The host is told something. -/
  | remark (s : Session σ) (calls : List HostCall) (h : ∀ c ∈ calls, c.isRemark = true) :
    Move s (s.tellAll calls)
  /-- The settings, what waits to go quiet, or the active document change. -/
  | adjust (s : Session σ) (settings : Settings) (debouncer : Debouncer)
    (active : Option String) : Move s { s with settings, debouncer, active }
  /-- A document that is open starts a new generation, to be painted later. -/
  | touch (s : Session σ) {doc : String} (h : Host.isOpen s.host doc = true) :
    Move s (s.renew doc (s.togglesOnTrack doc))
  /-- A document is left: nothing is awaited for it any more. -/
  | leave (s : Session σ) (doc : String) : Move s ((s.advance doc).onStore (·.dropRequest doc))
  /-- The host is told something, and a document that was open is visited. -/
  | visit (s : Session σ) {doc : String} (toggles : Toggles) (calls : List HostCall)
    (ho : Host.isOpen s.host doc = true) (h : ∀ c ∈ calls, c.isRemark = true) :
    Move s ((s.tellAll calls).visit doc toggles)
  /-- A document that is no template is cleared. -/
  | clear (s : Session σ) {doc : String} (h : s.isTemplate doc = false) :
    Move s (s.paint doc (Edit.clearAll (Feature.all.flatMap Feature.groups)))
  /-- An answer is delivered. -/
  | deliver (s : Session σ) (request : FoldRequest) (folds : Except String (List LineRange)) :
    Move s (s.delivered request folds)

/-- Some moves in a row. -/
abbrev Moves : Session σ → Session σ → Prop := Relation.ReflTransGen Move

/-! ## Events as moves -/

theorem isOpen_of_isLive {s : Session σ} {doc : String} (h : s.isLive doc = true) :
    Host.isOpen s.host doc = true :=
  (Bool.and_eq_true _ _ ▸ h : _ ∧ _).2

theorem cursorMoved_moves (s : Session σ) (doc : String) (motion : Motion) :
    Moves s (s.cursorMoved doc motion) := by
  cases h : s.isLive doc with
  | false =>
    rw [cursorMoved, h]
    exact .refl
  | true =>
    rw [cursorMoved_eq h]
    exact .head (.adjust s s.settings (s.debouncer.cancel doc) s.active)
      (.single (.visit _ _ _ (isOpen_of_isLive h) (s.clicks_remarks doc motion)))

theorem leave_moves (s : Session σ) (next : Option String) : Moves s (s.leave next) := by
  rw [leave]
  split
  · rename_i previous _
    split
    · exact .head (.leave s previous) (.single (.adjust _ s.settings _ s.active))
    · exact .refl
  · exact .refl

theorem enterOther_moves {s : Session σ} {doc : String} (h : s.isTemplate doc = false) :
    Moves s (s.enterOther doc) :=
  .head (.clear s h) (.single (.remark _ (Switch.all.map fun switch => .setFlag switch.flag false)
    (by simp [HostCall.isRemark])))

theorem enterTemplate_moves {s : Session σ} {doc : String} (h : Host.isOpen s.host doc = true) :
    Moves s (s.enterTemplate doc) := by
  rw [enterTemplate_eq]
  exact .single (.visit s _ _ h fun c hc => (flags_remarks _ c hc).1)

theorem activated_moves (s : Session σ) (doc : Option String) : Moves s (s.activated doc) := by
  have left : Moves s { s.leave doc with active := doc } :=
    (s.leave_moves doc).tail (.adjust _ (s.leave doc).settings (s.leave doc).debouncer doc)
  refine left.trans ?_
  unfold activated
  generalize { s.leave doc with active := doc } = s'
  cases doc with
  | none => exact .refl
  | some doc =>
    dsimp only
    split
    · rename_i h
      exact enterOther_moves (by simpa using h)
    · split
      · rename_i ho
        exact enterTemplate_moves ho
      · exact .refl

theorem edited_moves (s : Session σ) (doc : String) (now : Nat) : Moves s (s.edited doc now) := by
  rw [edited]
  split
  · rename_i h
    rw [touch_eq]
    exact .head (.touch s (isOpen_of_isLive h)) (.single (.adjust _ s.settings _ s.active))
  · exact .refl

/-- What is done to one document after the other is done in moves. -/
theorem foldl_moves {f : Session σ → String → Session σ} (h : ∀ s doc, Moves s (f s doc))
    (docs : List String) (s : Session σ) : Moves s (docs.foldl f s) := by
  induction docs generalizing s with
  | nil => exact .refl
  | cons doc docs ih => exact (h s doc).trans (ih _)

theorem quieted_moves (s : Session σ) (doc : String) : Moves s (s.quieted doc) := by
  rw [quieted]
  split
  · rename_i ho
    exact .single (.visit s (s.store.togglesOf doc) [] ho (by simp))
  · exact .refl

theorem polled_moves (s : Session σ) (now : Nat) : Moves s (s.polled now) :=
  .head (.adjust s s.settings (s.debouncer.release now) s.active) (foldl_moves quieted_moves _ _)

theorem refresh_moves (s : Session σ) (doc : String) : Moves s (s.refresh doc) := by
  rw [refresh_eq]
  split
  · rename_i h
    exact .single (.visit s (s.togglesOnTrack doc) [] (isOpen_of_isLive h) (by simp))
  · exact .refl

theorem configured_moves (s : Session σ) (key : String) : Moves s (s.configured key) := by
  rw [configured]
  split
  · exact .head (.adjust s _ _ s.active) (foldl_moves refresh_moves _ _)
  · exact .refl

theorem toggle_moves (s : Session σ) (doc : String) (switch : Switch) :
    Moves s (s.toggle doc switch).2 := by
  cases h : s.isLive doc with
  | false =>
    rw [toggle, h]
    exact .refl
  | true =>
    rw [toggle_eq h]
    exact .head
      (.visit s _ _ (isOpen_of_isLive h) fun c hc => (s.flipped_remarks doc switch c hc).1)
      (.single (.remark _ _ fun c hc => (s.wraps_remarks doc switch c hc).1))

theorem foldDrawings_moves (s : Session σ) (doc : String) : Moves s (s.foldDrawings doc).2 := by
  rw [foldDrawings_eq]
  exact .single (.remark s _ (s.foldsDrawings_remarks doc))

theorem unfoldDrawings_moves (s : Session σ) (doc : String) : Moves s (s.unfoldDrawings doc) := by
  rw [unfoldDrawings_eq]
  exact .single (.remark s _ (s.unfoldsDrawings_remarks doc))

/-- Every event but the closing of a document is some moves in a row. -/
theorem handle_moves (s : Session σ) (e : Event) (h : ∀ doc, e ≠ .closed doc) :
    Moves s (s.handle e) := by
  cases e with
  | cursorMoved doc motion => exact s.cursorMoved_moves doc motion
  | activated doc => exact s.activated_moves doc
  | edited doc now => exact s.edited_moves doc now
  | polled now => exact s.polled_moves now
  | configured key => exact s.configured_moves key
  | closed doc => exact absurd rfl (h doc)
  | delivered request folds => exact .single (.deliver s request folds)
  | toggle doc switch => exact s.toggle_moves doc switch
  | foldDrawings doc => exact s.foldDrawings_moves doc
  | unfoldDrawings doc => exact s.unfoldDrawings_moves doc

/-! ## Runs -/

/-- What every move keeps holds after some moves. -/
theorem Moves.keeps {P : Session σ → Prop} (move : ∀ {s s'}, Move s s' → P s → P s')
    {s s' : Session σ} (h : Moves s s') (hs : P s) : P s' := by
  induction h with
  | refl => exact hs
  | tail _ m ih => exact move m ih

/-- What every move keeps, what the closings of a run keep, and what the host keeps by itself,
holds after the run. -/
theorem run_keeps_of_moves {P : Session (Recorded σ) → Prop} {steps : List (Step σ)}
    (move : ∀ {s s'}, Move s s' → P s → P s')
    (close : ∀ s doc, .event (.closed doc) ∈ steps → P s → P (s.closed doc))
    (change : ∀ s f, P s → P (step s (.change f)))
    {s : Session (Recorded σ)} (h : P s) : P (s.run steps) := by
  induction steps generalizing s with
  | nil => exact h
  | cons a steps ih =>
    refine ih (fun s doc hc => close s doc (List.mem_cons_of_mem _ hc)) ?_
    cases a with
    | change f => exact change s f h
    | event e =>
      by_cases he : ∃ doc, e = .closed doc
      · obtain ⟨doc, rfl⟩ := he
        exact close s doc List.mem_cons_self h
      · exact (s.handle_moves e fun doc e => he ⟨doc, e⟩).keeps move h

end Session

end TemplatePaint
