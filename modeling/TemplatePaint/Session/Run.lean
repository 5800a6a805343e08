import TemplatePaint.Host.Recorded
import TemplatePaint.Session.Event

/-!
# Runs of a session

A run starts with a fresh session and takes events one after the other.
Between two events the host may change in any way, for the user goes on
working in it. What holds after every run holds whatever the host and the
user do, and the record of the host tells what the session did about it.

* `Session.run_keeps`: what every step keeps holds after every run.
-/

namespace TemplatePaint

/-- A step of a run: an event, or a change of the host by itself. -/
inductive Step (σ : Type) where
  | event (e : Event)
  | change (f : σ → σ)

namespace Session

variable {σ : Type} [Host σ]

/-- The session after a step. -/
def step (s : Session (Recorded σ)) : Step σ → Session (Recorded σ)
  | .event e => s.handle e
  | .change f => { s with host := s.host.change f }

/-- The session after some steps. -/
def run (s : Session (Recorded σ)) (steps : List (Step σ)) : Session (Recorded σ) :=
  steps.foldl step s

theorem run_append (s : Session (Recorded σ)) (xs ys : List (Step σ)) :
    s.run (xs ++ ys) = (s.run xs).run ys :=
  List.foldl_append

/-- What every step keeps holds after every run. -/
theorem run_keeps {P : Session (Recorded σ) → Prop} (keeps : ∀ s a, P s → P (step s a))
    {s : Session (Recorded σ)} (h : P s) (steps : List (Step σ)) : P (s.run steps) := by
  induction steps generalizing s with
  | nil => exact h
  | cons a steps ih => exact ih (keeps s a h)

/-- A session before its first event, to whose host no call has been made. -/
def fresh (host : σ) (language : Language) : Session (Recorded σ) := start (.ofHost host) language

end Session

end TemplatePaint
