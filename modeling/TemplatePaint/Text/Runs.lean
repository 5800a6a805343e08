/-!
# Maximal runs

A text is cut at its separators into maximal runs of other characters, each
with the offset of its first character. `runs` works from the right: a
character joins the run that starts right after it, or opens one.

* `exists_split_of_mem_runs`: where a run stands, and what is behind it;
* `not_separator_of_mem_runs`: no character of a run is a separator;
* `exists_split_of_runs_eq_cons`, `separator_of_runs_eq_nil`: the text in front of the first run and
  behind it;
* `pairwise_runs`: the runs come in order, with a separator between two.
-/

namespace TemplatePaint

/-- Characters that stand together, and the offset of the first. -/
structure Run where
  start : Nat
  text : List Char
deriving DecidableEq

namespace Run

/-- The offset after the last character of the run. -/
def stop (r : Run) : Nat := r.start + r.text.length

/-- A character at `offset`, before the runs that start after it. -/
def push (offset : Nat) (c : Char) : List Run → List Run
  | [] => [⟨offset, [c]⟩]
  | r :: rs =>
    if r.start = offset + 1 then ⟨offset, c :: r.text⟩ :: rs else ⟨offset, [c]⟩ :: r :: rs

end Run

/-- The maximal runs of characters that are no separators, in order; the first character of the
text has the given offset. -/
def runs (separator : Char → Bool) : (offset : Nat) → List Char → List Run
  | _, [] => []
  | offset, c :: cs =>
    let later := runs separator (offset + 1) cs
    if separator c then later else Run.push offset c later

variable {separator : Char → Bool}

/-- If no run starts with the first character, that is a separator. -/
theorem separator_of_start_ne (offset : Nat) {cs : List Char}
    (h : ∀ r ∈ (runs separator offset cs).head?, r.start ≠ offset) :
    ∀ c ∈ cs.head?, separator c = true := by
  intro c hc
  obtain ⟨rest, rfl⟩ := List.head?_eq_some_iff.1 hc
  refine Classical.byContradiction fun other => ?_
  rw [runs, if_neg other] at h
  cases later : runs separator (offset + 1) rest with
  | nil =>
    rw [later] at h
    exact h ⟨offset, [c]⟩ rfl rfl
  | cons s ss =>
    rw [later, Run.push] at h
    split at h
    · exact h ⟨offset, c :: s.text⟩ rfl rfl
    · exact h ⟨offset, [c]⟩ rfl rfl

/-- A run is a stretch of the characters, at its offset, that is not empty; behind it is a separator
or nothing. -/
theorem exists_split_of_mem_runs {offset : Nat} {cs : List Char} {r : Run}
    (h : r ∈ runs separator offset cs) :
    ∃ before after, cs = before ++ r.text ++ after ∧ r.start = offset + before.length ∧
      r.text ≠ [] ∧ ∀ c ∈ after.head?, separator c = true := by
  induction cs generalizing offset r with
  | nil => simp [runs] at h
  | cons c cs ih =>
    have behind {s : Run} (hs : s ∈ runs separator (offset + 1) cs) :
        ∃ before after, c :: cs = before ++ s.text ++ after ∧ s.start = offset + before.length ∧
          s.text ≠ [] ∧ ∀ c ∈ after.head?, separator c = true := by
      obtain ⟨before, after, split, start, rest⟩ := ih hs
      refine ⟨c :: before, after, by rw [split]; rfl, ?_, rest⟩
      rw [start, List.length_cons]
      omega
    rw [runs] at h
    split at h
    · exact behind h
    · cases later : runs separator (offset + 1) cs with
      | nil =>
        rw [later, Run.push, List.mem_singleton] at h
        subst h
        exact ⟨[], cs, rfl, rfl, by simp, separator_of_start_ne (offset + 1) (by simp [later])⟩
      | cons s ss =>
        rw [later, Run.push] at h
        split at h
        · rcases List.mem_cons.1 h with rfl | h
          · obtain ⟨before, after, split, start, -, rest⟩ :=
              ih (later ▸ List.mem_cons_self : s ∈ runs separator (offset + 1) cs)
            obtain rfl : before = [] := List.length_eq_zero_iff.1 (by omega)
            exact ⟨[], after, by rw [split]; rfl, rfl, by simp, rest⟩
          · exact behind (later ▸ List.mem_cons_of_mem s h)
        · rename_i apart
          rcases List.mem_cons.1 h with rfl | h
          · exact ⟨[], cs, rfl, rfl, by simp, separator_of_start_ne (offset + 1) (by simp [later, apart])⟩
          · exact behind (later ▸ h)

/-- No character of a run is a separator. -/
theorem not_separator_of_mem_runs {offset : Nat} {cs : List Char} {r : Run}
    (h : r ∈ runs separator offset cs) : ∀ c ∈ r.text, ¬ separator c = true := by
  induction cs generalizing offset r with
  | nil => simp [runs] at h
  | cons c cs ih =>
    rw [runs] at h
    split at h
    · exact ih h
    · rename_i other
      have alone : ∀ d ∈ [c], ¬ separator d = true := List.forall_mem_singleton.2 other
      generalize later : runs separator (offset + 1) cs = following at h
      cases following with
      | nil =>
        rw [Run.push, List.mem_singleton] at h
        exact h ▸ alone
      | cons s ss =>
        have within : ∀ t ∈ s :: ss, ∀ d ∈ t.text, ¬ separator d = true :=
          fun t ht => ih (later ▸ ht)
        rw [Run.push] at h
        split at h
        · rcases List.mem_cons.1 h with rfl | h
          · exact List.forall_mem_cons.2 ⟨other, within s List.mem_cons_self⟩
          · exact within r (List.mem_cons_of_mem s h)
        · rcases List.mem_cons.1 h with rfl | h
          · exact alone
          · exact within r h

/-- A text without runs has only separators. -/
theorem separator_of_runs_eq_nil {offset : Nat} {cs : List Char}
    (h : runs separator offset cs = []) : ∀ c ∈ cs, separator c = true := by
  induction cs generalizing offset with
  | nil => exact List.forall_mem_nil _
  | cons c cs ih =>
    rw [runs] at h
    split at h
    · rename_i first
      exact List.forall_mem_cons.2 ⟨first, ih h⟩
    · generalize runs separator (offset + 1) cs = later at h
      cases later with
      | nil => simp [Run.push] at h
      | cons s ss =>
        rw [Run.push] at h
        split at h <;> simp at h

/-- Before the first run are only separators, and the other runs are those of the text behind it. -/
theorem exists_split_of_runs_eq_cons {offset : Nat} {cs : List Char} {r : Run} {rs : List Run}
    (h : runs separator offset cs = r :: rs) :
    ∃ gap rest, cs = gap ++ (r.text ++ rest) ∧ (∀ c ∈ gap, separator c = true) ∧
      r.start = offset + gap.length ∧ runs separator r.stop rest = rs := by
  induction cs generalizing offset r rs with
  | nil => simp [runs] at h
  | cons c cs ih =>
    rw [runs] at h
    split at h
    · rename_i first
      obtain ⟨gap, rest, split, blank, start, later⟩ := ih h
      refine ⟨c :: gap, rest, by rw [split]; rfl, List.forall_mem_cons.2 ⟨first, blank⟩, ?_, later⟩
      rw [start, List.length_cons]
      omega
    · generalize following : runs separator (offset + 1) cs = later at h
      -- the run starts with `c`, and goes on with the next run if that starts right behind
      have alone : (⟨offset, [c]⟩ : Run) :: later = r :: rs → ∃ gap rest,
          c :: cs = gap ++ (r.text ++ rest) ∧ (∀ c ∈ gap, separator c = true) ∧
            r.start = offset + gap.length ∧ runs separator r.stop rest = rs := by
        intro h
        obtain ⟨rfl, rfl⟩ := List.cons.inj h
        exact ⟨[], cs, rfl, by simp, rfl, following⟩
      cases later with
      | nil => exact alone h
      | cons s ss =>
        rw [Run.push] at h
        split at h
        · rename_i joined
          obtain ⟨rfl, rfl⟩ := List.cons.inj h
          obtain ⟨gap, rest, split, -, start, later⟩ := ih following
          obtain rfl : gap = [] := List.length_eq_zero_iff.1 (by omega)
          refine ⟨[], rest, by rw [split]; rfl, by simp, rfl, ?_⟩
          rw [← later]
          congr 1
          simp only [Run.stop, List.length_cons]
          omega
        · exact alone h

/-- The runs come in order, and between two of them is a separator. -/
theorem pairwise_runs (separator : Char → Bool) (offset : Nat) (cs : List Char) :
    (runs separator offset cs).Pairwise fun r s => r.stop < s.start := by
  induction cs generalizing offset with
  | nil => exact .nil
  | cons c cs ih =>
    rw [runs]
    split
    · exact ih _
    · have later := ih (offset + 1)
      have starts (s : Run) (hs : s ∈ runs separator (offset + 1) cs) : offset + 1 ≤ s.start := by
        obtain ⟨before, -, -, start, -⟩ := exists_split_of_mem_runs hs
        omega
      generalize runs separator (offset + 1) cs = following at later starts
      cases following with
      | nil => exact List.pairwise_singleton _ _
      | cons s ss =>
        obtain ⟨first, rest⟩ := List.pairwise_cons.1 later
        rw [Run.push]
        split
        · rename_i joined
          refine List.pairwise_cons.2 ⟨fun t ht => ?_, rest⟩
          have := first t ht
          simp only [Run.stop, List.length_cons] at this ⊢
          omega
        · rename_i apart
          refine List.pairwise_cons.2 ⟨fun t ht => ?_, later⟩
          have : s.start ≤ t.start := by
            rcases List.mem_cons.1 ht with rfl | ht
            · exact Nat.le_refl _
            · have := first t ht
              simp only [Run.stop] at this
              omega
          have := starts s List.mem_cons_self
          simp only [Run.stop, List.length_singleton]
          omega

end TemplatePaint
