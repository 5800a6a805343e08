import TemplatePaint.Sorted

/-!
# Maps from texts

A map keeps its entries in the order of their keys, so it is determined by
what it gives for each key: `KeyMap.ext`. `get?_insert` and `get?_erase` say
what the operations do to that view. The list of keys is strictly increasing
by `keys_increasing`.
-/

namespace TemplatePaint

/-- Entries with strictly increasing keys. -/
structure KeyMap (α : Type) where
  entries : List (String × α)
  increasing : entries.Pairwise (·.1 < ·.1)

namespace KeyMap

variable {α : Type}

/-- Sets the entry of a key in a list with increasing keys. -/
def insertIn (key : String) (value : α) : List (String × α) → List (String × α)
  | [] => [(key, value)]
  | e :: es =>
    if key < e.1 then (key, value) :: e :: es
    else if key = e.1 then (key, value) :: es
    else e :: insertIn key value es

theorem lt_of_not_lt_of_ne {a b : String} (h : ¬ a < b) (hne : a ≠ b) : b < a := by
  rcases String.le_total a b with hab | hba
  · exact Classical.byContradiction fun hn => hne (String.le_antisymm hab (String.not_lt.1 h))
  · exact Classical.byContradiction fun hn =>
      hne (String.le_antisymm (String.not_lt.1 hn) hba)

theorem mem_insertIn {key : String} {value : α} {es : List (String × α)} {e : String × α}
    (h : e ∈ insertIn key value es) : e = (key, value) ∨ e ∈ es := by
  induction es with
  | nil => simpa [insertIn] using h
  | cons f fs ih =>
    rw [insertIn] at h
    split at h
    · simpa using h
    · split at h
      · rcases List.mem_cons.1 h with h | h
        · exact .inl h
        · exact .inr (List.mem_cons_of_mem _ h)
      · rcases List.mem_cons.1 h with rfl | h
        · exact .inr (List.mem_cons_self ..)
        · exact (ih h).imp_right (List.mem_cons_of_mem _)

theorem increasing_insertIn (key : String) (value : α) {es : List (String × α)}
    (h : es.Pairwise (·.1 < ·.1)) : (insertIn key value es).Pairwise (·.1 < ·.1) := by
  induction es with
  | nil => simp [insertIn]
  | cons f fs ih =>
    obtain ⟨hf, hfs⟩ := List.pairwise_cons.1 h
    rw [insertIn]
    split
    · rename_i hlt
      refine List.pairwise_cons.2 ⟨fun e he => ?_, h⟩
      rcases List.mem_cons.1 he with rfl | he
      · exact hlt
      · exact String.lt_trans hlt (hf e he)
    · rename_i hlt
      split
      · rename_i heq
        exact List.pairwise_cons.2 ⟨fun e he => heq ▸ hf e he, hfs⟩
      · rename_i hne
        refine List.pairwise_cons.2 ⟨fun e he => ?_, ih hfs⟩
        rcases mem_insertIn he with rfl | he
        · exact lt_of_not_lt_of_ne hlt hne
        · exact hf e he

/-- The map without entries. -/
def empty : KeyMap α := ⟨[], .nil⟩

/-- The value of a key. -/
def get? (m : KeyMap α) (key : String) : Option α := (m.entries.find? (·.1 == key)).map (·.2)

/-- The key has a value. -/
def contains (m : KeyMap α) (key : String) : Bool := (m.get? key).isSome

/-- The map with a new value for a key. -/
def insert (m : KeyMap α) (key : String) (value : α) : KeyMap α :=
  ⟨insertIn key value m.entries, increasing_insertIn key value m.increasing⟩

/-- The map without a key. -/
def erase (m : KeyMap α) (key : String) : KeyMap α :=
  ⟨m.entries.filter (·.1 != key), m.increasing.filter _⟩

/-- The number of keys. -/
def size (m : KeyMap α) : Nat := m.entries.length

/-- The keys, in order. -/
def keys (m : KeyMap α) : List String := m.entries.map (·.1)

@[simp] theorem get?_empty (key : String) : (empty : KeyMap α).get? key = none := rfl

theorem find?_insertIn (key k : String) (value : α) (es : List (String × α)) :
    (insertIn key value es).find? (·.1 == k) =
      if k = key then some (key, value) else es.find? (·.1 == k) := by
  induction es with
  | nil => by_cases h : k = key <;> simp [insertIn, h, Ne.symm]
  | cons f fs ih =>
    rw [insertIn]
    by_cases h : k = key
    · subst h
      simp only [if_true] at ih ⊢
      split
      · simp
      · split
        · simp
        · rename_i hne
          rw [List.find?_cons_of_neg (by simpa using Ne.symm hne), ih]
    · simp only [if_neg h] at ih ⊢
      split
      · rw [List.find?_cons_of_neg (by simpa using Ne.symm h)]
      · split
        · rename_i heq
          rw [List.find?_cons_of_neg (by simpa using Ne.symm h),
            List.find?_cons_of_neg (by simpa using heq ▸ Ne.symm h)]
        · rw [List.find?_cons, List.find?_cons, ih]

/-- The new value is found at its key, and every other key keeps its value. -/
@[simp] theorem get?_insert (m : KeyMap α) (key k : String) (value : α) :
    (m.insert key value).get? k = if k = key then some value else m.get? k := by
  rw [get?, insert, find?_insertIn]
  split <;> rfl

/-- Nothing is found at an erased key, and every other key keeps its value. -/
@[simp] theorem get?_erase (m : KeyMap α) (key k : String) :
    (m.erase key).get? k = if k = key then none else m.get? k := by
  simp only [get?, erase, List.find?_filter]
  by_cases h : k = key
  · simp [h]
  · simp only [if_neg h]
    congr 2
    funext e
    by_cases he : e.1 = k
    · simp [he, h]
    · simp [he]

theorem mem_entries_iff (m : KeyMap α) (key : String) (value : α) :
    (key, value) ∈ m.entries ↔ m.get? key = some value := by
  obtain ⟨es, hes⟩ := m
  simp only [get?]
  induction es with
  | nil => simp
  | cons f fs ih =>
    obtain ⟨hf, hfs⟩ := List.pairwise_cons.1 hes
    by_cases h : f.1 = key
    · rw [List.find?_cons_of_pos (by simpa using h)]
      simp only [List.mem_cons, Option.map_some, Option.some.injEq]
      refine ⟨fun hm => ?_, fun e => .inl (by rw [← h, ← e])⟩
      rcases hm with e | hm
      · exact (congrArg Prod.snd e).symm
      · exact absurd (h ▸ hf _ hm) (String.lt_irrefl _)
    · rw [List.find?_cons_of_neg (by simpa using h), ← ih hfs]
      simp only [List.mem_cons]
      refine ⟨fun hm => hm.resolve_left fun e => h (congrArg Prod.fst e).symm, .inr⟩

theorem keys_increasing (m : KeyMap α) : m.keys.Pairwise (· < ·) := by
  rw [keys, List.pairwise_map]
  exact m.increasing

/-- A map is determined by what it gives for each key. -/
@[ext] theorem ext {m n : KeyMap α} (h : ∀ key, m.get? key = n.get? key) : m = n := by
  have he : m.entries = n.entries :=
    eq_of_pairwise_of_mem_iff
      (fun _ _ before behind => String.lt_irrefl _ (String.lt_trans before behind))
      m.increasing n.increasing fun e => by rw [mem_entries_iff, mem_entries_iff, h]
  cases m; cases n; cases he; rfl

end KeyMap

end TemplatePaint
