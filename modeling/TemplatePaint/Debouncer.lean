import TemplatePaint.KeyMap

/-!
# Debouncing edits

A burst of edits counts as one change, once the document has been quiet for
an interval. The debouncer keeps a deadline for each document and has no clock
of its own; times are milliseconds from a common start.

A debouncer is seen through `deadline?`; `deadline?_schedule`,
`deadline?_cancel` and `deadline?_release` say what its operations do to that
view, `mem_due` which keys are due, and `nextDeadline?_eq_some_iff` which
deadline comes first. `isPending_schedule`, `isPending_cancel` and
`isPending_release` say which keys its operations let wait.
-/

namespace TemplatePaint

/-- The quiet interval, and the deadlines of the keys that wait for it. -/
structure Debouncer where
  quiet : Nat
  deadlines : KeyMap Nat

namespace Debouncer

/-- A debouncer for which nothing waits. -/
def ofQuiet (quiet : Nat) : Debouncer := ⟨quiet, .empty⟩

/-- Another interval for what is scheduled from now on. -/
def setQuiet (d : Debouncer) (quiet : Nat) : Debouncer := { d with quiet }

/-- Something happened to the key at time `now`. -/
def schedule (d : Debouncer) (key : String) (now : Nat) : Debouncer :=
  { d with deadlines := d.deadlines.insert key (now + d.quiet) }

/-- The key waits no longer. -/
def cancel (d : Debouncer) (key : String) : Debouncer :=
  { d with deadlines := d.deadlines.erase key }

/-- The deadline of a key that waits. -/
def deadline? (d : Debouncer) (key : String) : Option Nat := d.deadlines.get? key

/-- The key waits for its quiet interval. -/
def isPending (d : Debouncer) (key : String) : Bool := d.deadlines.contains key

/-- The earliest deadline. -/
def nextDeadline? (d : Debouncer) : Option Nat := (d.deadlines.entries.map (·.2)).min?

/-- The keys whose deadline has come at time `now`, in order. -/
def due (d : Debouncer) (now : Nat) : List String :=
  (d.deadlines.entries.filter (·.2 ≤ now)).map (·.1)

/-- The debouncer when the keys that are due at time `now` wait no longer. -/
def release (d : Debouncer) (now : Nat) : Debouncer := (d.due now).foldl cancel d

/-! ## Deadlines -/

/-- A debouncer is its interval and its deadlines. -/
theorem eq_of_deadline? {d d' : Debouncer} (quiet : d.quiet = d'.quiet)
    (deadlines : ∀ key, d.deadline? key = d'.deadline? key) : d = d' := by
  have same : d.deadlines = d'.deadlines := KeyMap.ext deadlines
  obtain ⟨q, entries⟩ := d
  obtain rfl : q = d'.quiet := quiet
  obtain rfl : entries = d'.deadlines := same
  rfl

theorem isPending_eq_isSome (d : Debouncer) (key : String) :
    d.isPending key = (d.deadline? key).isSome := rfl

@[simp] theorem deadline?_schedule (d : Debouncer) (key key' : String) (now : Nat) :
    (d.schedule key now).deadline? key' =
      if key' = key then some (now + d.quiet) else d.deadline? key' :=
  d.deadlines.get?_insert key key' _

@[simp] theorem deadline?_cancel (d : Debouncer) (key key' : String) :
    (d.cancel key).deadline? key' = if key' = key then none else d.deadline? key' :=
  d.deadlines.get?_erase key key'

/-- A key is due just if its deadline has come. -/
theorem mem_due {d : Debouncer} {key : String} {now : Nat} :
    key ∈ d.due now ↔ ∃ t, d.deadline? key = some t ∧ t ≤ now := by
  rw [due, List.mem_map]
  constructor
  · rintro ⟨⟨k, t⟩, he, rfl⟩
    obtain ⟨mem, le⟩ := List.mem_filter.1 he
    exact ⟨t, (d.deadlines.mem_entries_iff k t).1 mem, by simpa using le⟩
  · rintro ⟨t, ht, le⟩
    have mem : (key, t) ∈ d.deadlines.entries := (d.deadlines.mem_entries_iff key t).2 ht
    exact ⟨(key, t), List.mem_filter.2 ⟨mem, by simpa using le⟩, rfl⟩

/-- The keys that are due come in order. -/
theorem pairwise_due (d : Debouncer) (now : Nat) : (d.due now).Pairwise (· < ·) :=
  List.pairwise_map.2 (d.deadlines.increasing.filter _)

theorem deadline?_foldl_cancel (d : Debouncer) (keys : List String) (key : String) :
    (keys.foldl cancel d).deadline? key = if key ∈ keys then none else d.deadline? key := by
  induction keys generalizing d with
  | nil => simp
  | cons k ks ih =>
    rw [List.foldl_cons, ih, deadline?_cancel]
    by_cases h : key ∈ ks <;> by_cases e : key = k <;> simp [h, e]

/-- A release takes the keys that are due, and leaves the others. -/
theorem deadline?_release (d : Debouncer) (now : Nat) (key : String) :
    (d.release now).deadline? key = (d.deadline? key).filter (now < ·) := by
  rw [release, deadline?_foldl_cancel]
  cases h : d.deadline? key with
  | none => simp
  | some t =>
    have due : key ∈ d.due now ↔ t ≤ now := by simp [mem_due, h]
    by_cases le : t ≤ now <;> simp [due, le, Option.filter]

@[simp] theorem quiet_release (d : Debouncer) (now : Nat) : (d.release now).quiet = d.quiet := by
  have kept (keys : List String) (d : Debouncer) : (keys.foldl cancel d).quiet = d.quiet := by
    induction keys generalizing d with
    | nil => rfl
    | cons k ks ih => exact ih (d.cancel k)
  exact kept _ d

theorem mem_map_entries_iff {d : Debouncer} {t : Nat} :
    t ∈ d.deadlines.entries.map (·.2) ↔ ∃ key, d.deadline? key = some t := by
  rw [List.mem_map]
  constructor
  · rintro ⟨⟨key, t⟩, mem, rfl⟩
    exact ⟨key, (d.deadlines.mem_entries_iff key t).1 mem⟩
  · rintro ⟨key, ht⟩
    exact ⟨(key, t), (d.deadlines.mem_entries_iff key t).2 ht, rfl⟩

/-- The earliest deadline is the least that a key has. -/
theorem nextDeadline?_eq_some_iff {d : Debouncer} {t : Nat} : d.nextDeadline? = some t ↔
    (∃ key, d.deadline? key = some t) ∧ ∀ key t', d.deadline? key = some t' → t ≤ t' := by
  rw [nextDeadline?, List.min?_eq_some_iff, mem_map_entries_iff]
  refine and_congr_right fun _ => ⟨fun least key t' ht' => ?_, fun least t' mem => ?_⟩
  · exact least t' (mem_map_entries_iff.2 ⟨key, ht'⟩)
  · obtain ⟨key, ht'⟩ := mem_map_entries_iff.1 mem
    exact least key t' ht'

theorem nextDeadline?_eq_none_iff {d : Debouncer} :
    d.nextDeadline? = none ↔ ∀ key, d.deadline? key = none := by
  rw [nextDeadline?, List.min?_eq_none_iff, List.eq_nil_iff_forall_not_mem]
  simp only [mem_map_entries_iff, Option.eq_none_iff_forall_ne_some, not_exists]
  exact forall_comm

/-- The earliest deadline is that of some key. -/
theorem exists_of_nextDeadline? {d : Debouncer} {t : Nat} (h : d.nextDeadline? = some t) :
    ∃ key, d.deadline? key = some t := (nextDeadline?_eq_some_iff.1 h).1

/-! ## What waits -/

theorem isPending_schedule {d : Debouncer} {key key' : String} {now : Nat}
    (h : (d.schedule key now).isPending key' = true) : key' = key ∨ d.isPending key' = true := by
  rw [isPending_eq_isSome, deadline?_schedule] at h
  split at h
  · exact .inl ‹_›
  · exact .inr h

theorem isPending_cancel {d : Debouncer} {key key' : String}
    (h : (d.cancel key).isPending key' = true) : key' ≠ key ∧ d.isPending key' = true := by
  rw [isPending_eq_isSome, deadline?_cancel] at h
  split at h
  · cases h
  · exact ⟨‹_›, h⟩

/-- Nothing waits after a release that did not wait before. -/
theorem isPending_release {d : Debouncer} {key : String} {now : Nat}
    (h : (d.release now).isPending key = true) : d.isPending key = true := by
  rw [isPending_eq_isSome, deadline?_release] at h
  exact Option.isSome_of_isSome_filter _ _ h

/-- What is due waits. -/
theorem isPending_of_mem_due {d : Debouncer} {key : String} {now : Nat} (h : key ∈ d.due now) :
    d.isPending key = true := by
  obtain ⟨t, ht, -⟩ := mem_due.1 h
  rw [isPending_eq_isSome, ht]
  rfl

end Debouncer

end TemplatePaint
