import Mathlib.Data.List.DropRight
import TemplatePaint.Text.Runs

/-!
# Longest runs

A run without separators is as long as it can be if it has a separator or the
end of the text on both sides (`IsLongest`). Such runs, and no others, are what
`runs` cuts a text into: `mem_runs_iff`. Every character that is no separator
stands in one of them: `exists_isLongest`.
-/

namespace TemplatePaint

/-- A run without separators, between `before` and `after`, that cannot be made longer. -/
structure IsLongest (separator : Char → Bool) (before run after : List Char) : Prop where
  nonempty : run ≠ []
  inner : ∀ c ∈ run, separator c = false
  front : ∀ c ∈ before.getLast?, separator c = true
  behind : ∀ c ∈ after.head?, separator c = true

variable {separator : Char → Bool} {offset : Nat} {cs : List Char}

/-! ## Cutting off a run -/

theorem le_start_of_mem_runs {r : Run} (h : r ∈ runs separator offset cs) : offset ≤ r.start := by
  obtain ⟨before, -, -, start, -⟩ := exists_split_of_mem_runs h
  omega

/-- A character in front of a run that starts later stands apart from it. -/
theorem push_of_start_ne (c : Char) {rs : List Run} (apart : ∀ r ∈ rs.head?, r.start ≠ offset + 1) :
    Run.push offset c rs = ⟨offset, [c]⟩ :: rs := by
  cases rs with
  | nil => rfl
  | cons r rs => exact if_neg (apart r rfl)

/-- No run starts with the separator that the text starts with. -/
theorem start_ne_of_head?_runs (sep : ∀ c ∈ cs.head?, separator c = true) :
    ∀ r ∈ (runs separator offset cs).head?, r.start ≠ offset := by
  intro r hr
  have mem := List.mem_of_mem_head? hr
  cases cs with
  | nil => simp [runs] at mem
  | cons c cs =>
    rw [runs, if_pos (sep c rfl)] at mem
    have := le_start_of_mem_runs mem
    omega

/-- A run in front of a separator or the end is the first one. -/
theorem runs_append {run after : List Char} (nonempty : run ≠ [])
    (inner : ∀ c ∈ run, separator c = false) (behind : ∀ c ∈ after.head?, separator c = true) :
    runs separator offset (run ++ after) =
      ⟨offset, run⟩ :: runs separator (offset + run.length) after := by
  induction run generalizing offset with
  | nil => exact absurd rfl nonempty
  | cons c run ih =>
    have other : ¬ separator c = true := by simp [inner c List.mem_cons_self]
    rw [List.cons_append, runs, if_neg other]
    cases run with
    | nil => exact push_of_start_ne c (start_ne_of_head?_runs behind)
    | cons d run =>
      rw [ih (List.cons_ne_nil d run) fun e he => inner e (List.mem_cons_of_mem c he)]
      simp only [Run.push, if_true, List.length_cons]
      congr 2
      omega

/-! ## The runs of a text -/

theorem mem_runs_of_isLongest {before run after : List Char}
    (h : IsLongest separator before run after) :
    ⟨offset + before.length, run⟩ ∈ runs separator offset (before ++ (run ++ after)) := by
  induction before generalizing offset with
  | nil =>
    rw [List.nil_append, runs_append h.nonempty h.inner h.behind]
    exact List.mem_cons_self
  | cons c before ih =>
    have front : ∀ d ∈ before.getLast?, separator d = true := fun d hd => h.front d <| by
      rw [List.getLast?_cons, Option.mem_def.1 hd]
      rfl
    have later : ⟨offset + 1 + before.length, run⟩ ∈
        runs separator (offset + 1) (before ++ (run ++ after)) :=
      ih ⟨h.nonempty, h.inner, front, h.behind⟩
    have start : offset + 1 + before.length = offset + (c :: before).length := by
      rw [List.length_cons]
      omega
    rw [start] at later
    rw [List.cons_append, runs]
    split
    · exact later
    · rename_i other
      generalize runs separator (offset + 1) (before ++ (run ++ after)) = following at later
      cases following with
      | nil => exact absurd later List.not_mem_nil
      | cons r rs =>
        rw [Run.push]
        split
        · rename_i joined
          rcases List.mem_cons.1 later with rfl | later
          · -- the character in front would be the last one before the run, so a separator
            obtain rfl : before = [] := List.length_eq_zero_iff.1 <| by
              simp only [List.length_cons] at joined
              omega
            exact absurd (h.front c rfl) other
          · exact List.mem_cons_of_mem _ later
        · exact List.mem_cons_of_mem _ later

theorem exists_isLongest_of_mem_runs {r : Run} (h : r ∈ runs separator offset cs) :
    ∃ before after, cs = before ++ (r.text ++ after) ∧ r.start = offset + before.length ∧
      IsLongest separator before r.text after := by
  have inner : ∀ c ∈ r.text, separator c = false := fun c hc =>
    Bool.eq_false_iff.2 (not_separator_of_mem_runs h c hc)
  obtain ⟨-, -, -, -, nonempty, -⟩ := exists_split_of_mem_runs h
  have apart := pairwise_runs separator offset cs
  generalize cut : runs separator offset cs = rs at h apart
  induction rs generalizing offset cs with
  | nil => exact absurd h List.not_mem_nil
  | cons s rs ih =>
    obtain ⟨first, apart⟩ := List.pairwise_cons.1 apart
    obtain ⟨gap, rest, rfl, blank, start, later⟩ := exists_split_of_runs_eq_cons cut
    rcases List.mem_cons.1 h with rfl | h
    · refine ⟨gap, rest, rfl, start, nonempty, inner, ?_, ?_⟩
      · exact fun c hc => blank c (List.mem_of_getLast? hc)
      · -- otherwise the next run would start right behind this one
        refine separator_of_start_ne r.stop fun t ht => ?_
        have := first t (later ▸ List.mem_of_mem_head? ht)
        omega
    · obtain ⟨before, after, rfl, place, longest⟩ := ih later h apart
      have := first r h
      have nonempty : before ≠ [] := by
        rintro rfl
        simp only [List.length_nil] at place
        omega
      refine ⟨gap ++ (s.text ++ before), after, by simp, ?_, longest.nonempty, inner, ?_,
        longest.behind⟩
      · simp only [place, Run.stop, start, List.length_append]
        omega
      · rw [List.getLast?_append_of_ne_nil _ (by simp [nonempty]),
          List.getLast?_append_of_ne_nil _ nonempty]
        exact longest.front

/-- The runs of a text are its longest ones, each where it stands. -/
theorem mem_runs_iff {r : Run} : r ∈ runs separator offset cs ↔
    ∃ before after, cs = before ++ (r.text ++ after) ∧ r.start = offset + before.length ∧
      IsLongest separator before r.text after := by
  refine ⟨exists_isLongest_of_mem_runs, ?_⟩
  rintro ⟨before, after, rfl, start, longest⟩
  have mem : ⟨offset + before.length, r.text⟩ ∈
      runs separator offset (before ++ (r.text ++ after)) :=
    mem_runs_of_isLongest longest
  rwa [← start] at mem

/-- A character that is no separator stands in a longest run. -/
theorem exists_isLongest (separator : Char → Bool) (left right : List Char) {c : Char}
    (other : separator c = false) :
    ∃ before front back after, left = before ++ front ∧ right = back ++ after ∧
      IsLongest separator before (front ++ c :: back) after := by
  refine ⟨left.rdropWhile (!separator ·), left.rtakeWhile (!separator ·),
    right.takeWhile (!separator ·), right.dropWhile (!separator ·),
    List.rdropWhile_append_rtakeWhile.symm, List.takeWhile_append_dropWhile.symm, by simp,
    fun d hd => ?_, fun d hd => ?_, fun d hd => ?_⟩
  · rcases List.mem_append.1 hd with hd | hd
    · simpa using List.mem_rtakeWhile_imp hd
    · rcases List.mem_cons.1 hd with rfl | hd
      · exact other
      · simpa using List.mem_takeWhile_imp hd
  · obtain ⟨some, rfl⟩ := List.mem_getLast?_eq_getLast hd
    simpa using List.rdropWhile_last_not (!separator ·) left some
  · have last := List.head?_dropWhile_not (!separator ·) right
    rw [Option.mem_def.1 hd] at last
    simpa using last

end TemplatePaint
