import Mathlib.Data.List.Induction
import TemplatePaint.Debouncer

/-!
# Debouncing read off the calls

What waits is read off the calls and what they returned (`Outstanding`): of the
times at which a key was scheduled the last counts, with the interval that was
in force then, unless a call since has settled it. The debouncer keeps just
that: `deadline?_run`. A call sets a deadline, or keeps it unless it settles
the key: `deadline?_obey`.

* `Debouncer.refines_trace`: what a debouncer answers after any calls.
-/

namespace TemplatePaint

/-- An entry of a list with one more entry at its end is that one, or an entry of the list. -/
theorem append_cons_eq_append_singleton {α : Type} {before after xs : List α} {a x : α} :
    before ++ a :: after = xs ++ [x] ↔
      before = xs ∧ a = x ∧ after = [] ∨
        ∃ rest, after = rest ++ [x] ∧ xs = before ++ a :: rest := by
  rcases List.eq_nil_or_concat after with rfl | ⟨rest, y, rfl⟩
  · rw [List.append_singleton_inj]
    simp
  · have split : before ++ a :: (rest ++ [y]) = before ++ a :: rest ++ [y] := by simp
    rw [List.concat_eq_append, split, List.append_singleton_inj]
    constructor
    · rintro ⟨rfl, rfl⟩
      exact .inr ⟨rest, rfl, rfl⟩
    · rintro (⟨-, -, none⟩ | ⟨rest', same, rfl⟩)
      · simp at none
      · obtain ⟨rfl, rfl⟩ := List.append_singleton_inj.1 same
        exact ⟨rfl, rfl⟩

namespace Debouncer

/-! ## Calls -/

/-- A call on a debouncer. -/
inductive Call where
  | schedule (key : String) (now : Nat)
  | cancel (key : String)
  | setQuiet (quiet : Nat)
  | poll (now : Nat)

/-- The keys that a call returns: a poll those that are due. -/
def answer (d : Debouncer) : Call → List String
  | .poll now => d.due now
  | _ => []

/-- The debouncer after a call: a poll releases what it returned. -/
def obey (d : Debouncer) : Call → Debouncer
  | .schedule key now => d.schedule key now
  | .cancel key => d.cancel key
  | .setQuiet quiet => d.setQuiet quiet
  | .poll now => d.release now

/-- The debouncer after some calls. -/
def run (d : Debouncer) (calls : List Call) : Debouncer := calls.foldl obey d

/-- The calls, each with the keys that it returned. -/
def trace (d : Debouncer) : List Call → List (Call × List String)
  | [] => []
  | c :: cs => (c, d.answer c) :: (d.obey c).trace cs

theorem run_append_singleton (d : Debouncer) (calls : List Call) (c : Call) :
    d.run (calls ++ [c]) = (d.run calls).obey c := by
  rw [run, List.foldl_append]
  rfl

theorem trace_append_singleton (d : Debouncer) (calls : List Call) (c : Call) :
    d.trace (calls ++ [c]) = d.trace calls ++ [(c, (d.run calls).answer c)] := by
  induction calls generalizing d with
  | nil => rfl
  | cons first calls ih => exact congrArg ((first, d.answer first) :: ·) (ih (d.obey first))

/-! ## What is outstanding -/

/-- The interval in force after some calls: the last that was set. -/
def intervalAfter (quiet : Nat) (trace : List (Call × List String)) : Nat :=
  trace.foldl (fun quiet (c, _) => if let .setQuiet next := c then next else quiet) quiet

theorem intervalAfter_append_singleton (quiet : Nat) (trace : List (Call × List String))
    (c : Call) (returned : List String) :
    intervalAfter quiet (trace ++ [(c, returned)]) =
      if let .setQuiet next := c then next else intervalAfter quiet trace := by
  rw [intervalAfter, List.foldl_append]
  rfl

/-- The call settles what was scheduled for a key: it schedules the key anew, cancels it, or is a
poll that returned it. -/
def settles (key : String) : Call × List String → Prop
  | (.schedule k _, _) | (.cancel k, _) => k = key
  | (.poll _, returned) => key ∈ returned
  | (.setQuiet _, _) => False

/-- The key was scheduled for this deadline, and no call since has settled it. -/
def Outstanding (quiet : Nat) (trace : List (Call × List String)) (key : String) (deadline : Nat) :
    Prop :=
  ∃ before now after, trace = before ++ (.schedule key now, []) :: after ∧
    deadline = now + intervalAfter quiet before ∧ ∀ c ∈ after, ¬ settles key c

/-- One more call schedules the key, or leaves what is outstanding unless it settles it. -/
theorem outstanding_append_singleton {quiet : Nat} {trace : List (Call × List String)}
    {c : Call × List String} {key : String} {deadline : Nat} :
    Outstanding quiet (trace ++ [c]) key deadline ↔
      (∃ now, c = (.schedule key now, []) ∧ deadline = now + intervalAfter quiet trace) ∨
        Outstanding quiet trace key deadline ∧ ¬ settles key c := by
  constructor
  · rintro ⟨before, now, after, split, set, stands⟩
    rcases append_cons_eq_append_singleton.1 split.symm with ⟨rfl, rfl, rfl⟩ | ⟨rest, rfl, rfl⟩
    · exact .inl ⟨now, rfl, set⟩
    · obtain ⟨stands, last⟩ := List.forall_mem_append.1 stands
      exact .inr ⟨⟨before, now, rest, rfl, set, stands⟩, last c (List.mem_singleton.2 rfl)⟩
  · rintro (⟨now, rfl, set⟩ | ⟨⟨before, now, after, rfl, set, stands⟩, last⟩)
    · exact ⟨trace, now, [], rfl, set, by simp⟩
    · refine ⟨before, now, after ++ [c], by simp, set, List.forall_mem_append.2 ⟨stands, ?_⟩⟩
      simpa using last

/-! ## Steps and runs -/

/-- After a call, a key has the deadline that the call sets, or the one that it had, if the call
does not settle it. -/
theorem deadline?_obey {d : Debouncer} {c : Call} {key : String} {deadline : Nat} :
    (d.obey c).deadline? key = some deadline ↔
      (∃ now, c = .schedule key now ∧ deadline = now + d.quiet) ∨
        d.deadline? key = some deadline ∧ ¬ settles key (c, d.answer c) := by
  cases c with
  | schedule k now =>
    rw [obey, deadline?_schedule]
    by_cases same : key = k
    · simp [settles, same, eq_comm]
    · simp [settles, same, Ne.symm same]
  | cancel k =>
    rw [obey, deadline?_cancel]
    by_cases same : key = k
    · simp [settles, same]
    · simp [settles, same, Ne.symm same]
  | setQuiet quiet => simp [obey, setQuiet, deadline?, settles]
  | poll now =>
    -- of the keys with a deadline, the poll returns those whose deadline has come
    rw [obey, deadline?_release, Option.filter_eq_some_iff]
    have returned (h : d.deadline? key = some deadline) :
        settles key (.poll now, d.answer (.poll now)) ↔ deadline ≤ now := by
      simp [settles, answer, mem_due, h]
    simp +contextual [returned]

theorem quiet_run (d : Debouncer) (calls : List Call) :
    (d.run calls).quiet = intervalAfter d.quiet (d.trace calls) := by
  induction calls using List.reverseRecOn with
  | nil => rfl
  | append_singleton calls c ih =>
    rw [run_append_singleton, trace_append_singleton, intervalAfter_append_singleton, ← ih]
    cases c with
    | poll now => exact quiet_release _ now
    | _ => rfl

/-- After some calls, a key has a deadline just if it is outstanding for it. -/
theorem deadline?_run (quiet : Nat) (calls : List Call) (key : String) (deadline : Nat) :
    ((ofQuiet quiet).run calls).deadline? key = some deadline ↔
      Outstanding quiet ((ofQuiet quiet).trace calls) key deadline := by
  induction calls using List.reverseRecOn with
  | nil =>
    refine ⟨fun h => (nomatch (h : none = some deadline)), ?_⟩
    rintro ⟨before, now, after, split, -⟩
    simp [trace] at split
  | append_singleton calls c ih =>
    rw [run_append_singleton, trace_append_singleton, outstanding_append_singleton, deadline?_obey,
      ih, quiet_run]
    refine or_congr (exists_congr fun now => and_congr_left fun _ => ?_) Iff.rfl
    constructor
    · rintro rfl
      rfl
    · exact fun same => (Prod.mk.inj same).1

/-- A debouncer keeps of its calls what they leave outstanding, at whatever times they are made. A
poll returns, in order, the keys that are outstanding for a deadline that has come, and leaves no
such deadline; a key is pending just if it is outstanding, and the next deadline is the least of
those that are. -/
theorem refines_trace (quiet : Nat) (calls : List Call) :
    let d := (ofQuiet quiet).run calls
    let outstanding := Outstanding quiet ((ofQuiet quiet).trace calls)
    (∀ now, (d.answer (.poll now)).Pairwise (· < ·) ∧
      (∀ key, key ∈ d.answer (.poll now) ↔ ∃ deadline ≤ now, outstanding key deadline) ∧
      ∀ next, (d.obey (.poll now)).nextDeadline? = some next → now < next) ∧
    (∀ key, d.isPending key = true ↔ ∃ deadline, outstanding key deadline) ∧
    (d.nextDeadline? = none ↔ ∀ key deadline, ¬ outstanding key deadline) ∧
    ∀ next, d.nextDeadline? = some next ↔
      (∃ key, outstanding key next) ∧ ∀ key deadline, outstanding key deadline → next ≤ deadline := by
  intro d outstanding
  have keeps (key : String) (deadline : Nat) :
      d.deadline? key = some deadline ↔ outstanding key deadline :=
    deadline?_run quiet calls key deadline
  refine ⟨fun now => ⟨d.pairwise_due now, fun key => ?_, fun next h => ?_⟩, fun key => ?_, ?_,
    fun next => ?_⟩
  · simp only [answer, mem_due, keeps, and_comm]
  · obtain ⟨key, ht⟩ := exists_of_nextDeadline? h
    rw [obey, deadline?_release, Option.filter_eq_some_iff] at ht
    exact of_decide_eq_true ht.2
  · simp only [isPending_eq_isSome, Option.isSome_iff_exists, keeps]
  · rw [nextDeadline?_eq_none_iff]
    simp only [Option.eq_none_iff_forall_ne_some, ne_eq, keeps]
  · simp only [nextDeadline?_eq_some_iff, keeps]

-- a burst is returned once, and another interval holds for what is scheduled later
example : ((ofQuiet 150).trace [.schedule "a" 0, .schedule "a" 100, .setQuiet 10, .schedule "b" 120,
    .poll 200, .poll 250, .poll 400]).map (·.2) = [[], [], [], [], ["b"], ["a"], []] := by
  decide +kernel

end Debouncer

end TemplatePaint
