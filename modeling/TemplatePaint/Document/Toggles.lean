/-!
# Feature toggles

The features that are switched on and off for each document.
-/

namespace TemplatePaint

/-- A feature that can be switched. -/
inductive Switch where
  | dimming
  | folding
  | frames
deriving DecidableEq

namespace Switch

/-- All switches, in the order in which they are published. -/
def all : List Switch := [dimming, folding, frames]

/-- The flag under which the host is told how the switch stands. -/
def flag : Switch → String
  | dimming => "erbalist.emphasizedRubyEnabled"
  | folding => "erbalist.classAttributesFolded"
  | frames => "erbalist.turboFramesEnabled"

end Switch

/-- How the switches of a document stand. -/
structure Toggles where
  dimming : Bool
  folding : Bool
  frames : Bool
deriving DecidableEq

namespace Toggles

/-- How the switches of a new document stand. -/
def default : Toggles := ⟨false, false, true⟩

/-- How a switch stands. -/
def get (t : Toggles) : Switch → Bool
  | .dimming => t.dimming
  | .folding => t.folding
  | .frames => t.frames

/-- The toggles with one switch flipped. -/
def flip (t : Toggles) : Switch → Toggles
  | .dimming => { t with dimming := !t.dimming }
  | .folding => { t with folding := !t.folding }
  | .frames => { t with frames := !t.frames }

/-- Flipping a switch changes this one and no other. -/
theorem get_flip (t : Toggles) (s s' : Switch) :
    (t.flip s).get s' = if s' = s then !t.get s' else t.get s' := by
  cases s <;> cases s' <;> rfl

end Toggles

end TemplatePaint
