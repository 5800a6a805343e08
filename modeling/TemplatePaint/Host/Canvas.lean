import TemplatePaint.Host.Recorded

/-!
# Canvases

A host beside what is painted in its documents. A canvas holds, in each group
of a document, the regions that were painted there last; it shows and answers
what the host does. When a document is closed, its paint is dropped.

* `Canvas.held_foldl`: what a canvas holds after some calls.
-/

namespace TemplatePaint

/-- A host, and the regions that it holds in the groups of its documents. -/
structure Canvas (σ : Type) where
  host : σ
  held : String → Group → List Region

namespace Canvas

variable {σ : Type}

/-- A host that holds nothing yet. -/
def blank (host : σ) : Canvas σ := ⟨host, fun _ _ => []⟩

/-- The paint of a document is dropped. -/
def drop (c : Canvas σ) (doc : String) : Canvas σ :=
  { c with held := fun d g => if d = doc then [] else c.held d g }

/-- What is held after a call: what it paints, or else what was held before. -/
def heldAfter (c : Canvas σ) (call : HostCall) (doc : String) (g : Group) : List Region :=
  (call.painting? doc g).getD (c.held doc g)

instance [Host σ] : Host (Canvas σ) where
  isOpen c doc := Host.isOpen c.host doc
  text? c doc := Host.text? c.host doc
  cursor? c doc := Host.cursor? c.host doc
  hasSelection c doc := Host.hasSelection c.host doc
  settings c := Host.settings c.host
  visible c := Host.visible c.host
  stored? c doc := Host.stored? c.host doc
  answer c request := Host.answer c.host request
  perform c call := ⟨Host.perform c.host call, c.heldAfter call⟩

/-- After some calls, a canvas holds what they painted last, or else what it held before. -/
theorem held_foldl [Host σ] (c : Canvas σ) (calls : List HostCall) (doc : String) (g : Group) :
    (calls.foldl Host.perform c).held doc g =
      (lastPainted? calls.reverse doc g).getD (c.held doc g) := by
  induction calls generalizing c with
  | nil => rfl
  | cons call calls ih =>
    have after : (Host.perform c call).held doc g = (call.painting? doc g).getD (c.held doc g) := rfl
    have last : lastPainted? (call :: calls).reverse doc g =
        (lastPainted? calls.reverse doc g).or (call.painting? doc g) := by
      simp [lastPainted?, List.findSome?_append]
    rw [List.foldl_cons, ih, after, last]
    cases lastPainted? calls.reverse doc g with
    | some regions => rfl
    | none => rfl

end Canvas

end TemplatePaint
