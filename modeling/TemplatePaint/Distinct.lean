/-!
# Lists without repetition

`distinctBy` keeps the first entry of each key, in order.

* `mem_distinctBy`: an entry is kept exactly if it is the first of its key;
* `nodup_map_distinctBy`: no key is kept twice;
* `mem_distinct`, `nodup_distinct`: what a list without repetition holds;
* `distinctBy_of_nodup`: of a list without repeated keys all entries are kept;
* `filter_distinctBy`: of the entries of one key, the first is kept;
* `find?_eq_some_of_unique`: the only entry with a property is found by it.
-/

namespace TemplatePaint

variable {α β : Type} [DecidableEq β]

/-- The only entry with a property is found by it. -/
theorem find?_eq_some_of_unique {p : α → Bool} {as : List α} {a : α} (mem : a ∈ as)
    (holds : p a = true) (one : ∀ b ∈ as, p b = true → b = a) : as.find? p = some a := by
  obtain ⟨b, found⟩ := Option.isSome_iff_exists.1 (List.find?_isSome.2 ⟨a, mem, holds⟩)
  rw [found, one b (List.mem_of_find?_eq_some found) (List.find?_some found)]

/-- The first entry of each key. -/
def distinctBy (key : α → β) : List α → List α
  | [] => []
  | a :: as => a :: (distinctBy key as).filter (key · ≠ key a)

/-- The entries of a list without repetition, each where it first stands. -/
def distinct (bs : List β) : List β := distinctBy id bs

theorem sublist_distinctBy (key : α → β) (as : List α) : (distinctBy key as).Sublist as := by
  induction as with
  | nil => exact .slnil
  | cons a as ih => exact ((List.filter_sublist).trans ih).cons_cons a

/-- An entry is kept exactly if it is the first of its key. -/
theorem mem_distinctBy {key : α → β} {as : List α} {a : α} :
    a ∈ distinctBy key as ↔ as.find? (key · = key a) = some a := by
  induction as with
  | nil => simp [distinctBy]
  | cons b bs ih =>
    by_cases h : key b = key a
    · simp only [distinctBy, List.mem_cons, List.mem_filter, List.find?_cons, h, decide_true,
        Option.some.injEq]
      constructor
      · rintro (rfl | ⟨-, hn⟩)
        · rfl
        · simp at hn
      · exact fun h => .inl h.symm
    · have hne : a ≠ b := fun e => h (e ▸ rfl)
      simp [distinctBy, h, hne, ih, Ne.symm h]

/-- Of the entries of one key, the first is kept. -/
theorem filter_distinctBy (key : α → β) (as : List α) (k : β) :
    (distinctBy key as).filter (key · = k) = (as.find? (key · = k)).toList := by
  induction as with
  | nil => rfl
  | cons a as ih =>
    rw [distinctBy, List.filter_cons, List.filter_filter, List.find?_cons]
    by_cases h : key a = k
    · -- all others of its key are dropped behind it
      simp [h]
    · have same : (fun b => decide (key b = k) && decide (key b ≠ key a)) =
          fun b => decide (key b = k) := by
        funext b
        by_cases hb : key b = k
        · simp [hb, Ne.symm h]
        · simp [hb]
      simp only [h, decide_false, Bool.false_eq_true, if_false]
      rw [same, ih]

/-- No key is kept twice. -/
theorem nodup_map_distinctBy (key : α → β) (as : List α) : ((distinctBy key as).map key).Nodup := by
  induction as with
  | nil => exact .nil
  | cons a as ih =>
    refine List.nodup_cons.2 ⟨fun h => ?_, ?_⟩
    · obtain ⟨b, hb, he⟩ := List.mem_map.1 h
      simp [he] at hb
    · exact ih.sublist ((List.filter_sublist).map key)

/-- An entry of a list is an entry of it without repetition. -/
theorem mem_distinct {bs : List β} {b : β} : b ∈ distinct bs ↔ b ∈ bs := by
  refine ⟨fun h => (sublist_distinctBy id bs).subset h, fun h => mem_distinctBy.2 ?_⟩
  exact find?_eq_some_of_unique h (decide_eq_true rfl) fun _ _ => of_decide_eq_true

theorem nodup_distinct (bs : List β) : (distinct bs).Nodup := by
  have nodup := nodup_map_distinctBy id bs
  rwa [List.map_id] at nodup

/-- Of a list without repeated keys all entries are kept. -/
theorem distinctBy_of_nodup {key : α → β} {as : List α} (h : (as.map key).Nodup) :
    distinctBy key as = as := by
  induction as with
  | nil => rfl
  | cons a as ih =>
    obtain ⟨first, rest⟩ := List.nodup_cons.1 h
    rw [distinctBy, ih rest, List.filter_eq_self.2]
    intro b hb
    exact decide_eq_true fun same => first (List.mem_map.2 ⟨b, hb, same⟩)

end TemplatePaint
