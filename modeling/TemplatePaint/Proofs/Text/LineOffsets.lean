import TemplatePaint.Text.Lines

/-!
# Where lines start and end

The lines of a text stand one behind the other, each with its break, and the
last one ends where the text does (`bounds_of_mem_placeLines`,
`pairwise_placeLines`). A line number past the last line stands for the start
of the last line. So the offsets of lines in order are in order, and lie in the
text:

* `LineIndex.lineStart_mono`, `LineIndex.lineEnd_le`;
* `LineIndex.lineEnd_le_lineEnd_iff`: the ends of lines are in order too, but
  not past a last line that shows something;
* `LineIndex.bounds_linesRange`: the range of some lines lies in the text, also
  where the last of them lies past the end.
-/

namespace TemplatePaint

namespace Line

/-- The offset behind the line and its break. -/
def behind (line : Line) : Nat := line.start + line.chars.length + line.ending.length

/-- What a line shows ends no later than its break. -/
theorem start_add_length_shown_le (line : Line) :
    line.start + line.shown.length ≤ line.behind := by
  rw [shown, behind]
  split
  · omega
  · rw [List.length_append]
    omega

end Line

/-- A line starts no earlier than the first one, and ends with its break before the end of the
text. -/
theorem bounds_of_mem_placeLines {start : Nat} {ls : List (List Char × List Char)} {line : Line}
    (h : line ∈ placeLines start ls) :
    start ≤ line.start ∧
      line.behind ≤ start + (ls.map fun l => l.1 ++ l.2).flatten.length := by
  induction ls generalizing start with
  | nil => simp [placeLines] at h
  | cons l ls ih =>
    obtain ⟨chars, ending⟩ := l
    have length : (((chars, ending) :: ls).map fun l => l.1 ++ l.2).flatten.length =
        chars.length + ending.length + (ls.map fun l => l.1 ++ l.2).flatten.length := by
      rw [List.map_cons, List.flatten_cons, List.length_append, List.length_append]
    rw [length]
    rcases List.mem_cons.1 h with rfl | later
    · exact ⟨Nat.le_refl _, by simp only [Line.behind]; omega⟩
    · have := ih later
      omega

/-- Each line starts behind the ones before. -/
theorem pairwise_placeLines (start : Nat) (ls : List (List Char × List Char)) :
    (placeLines start ls).Pairwise fun a b => a.behind ≤ b.start := by
  induction ls generalizing start with
  | nil => exact .nil
  | cons l ls ih =>
    exact List.pairwise_cons.2 ⟨fun b hb => (bounds_of_mem_placeLines hb).1, ih _⟩

namespace LineIndex

variable (text : String)

/-- A text has a line. -/
theorem count_pos : 0 < (ofText text).count := by
  show 0 < (placeLines 0 (splitLines text.toList)).toArray.size
  cases h : splitLines text.toList with
  | nil => exact absurd h (splitLines_ne_nil _)
  | cons l ls => simp [placeLines]

/-- A line of a text lies in the text. -/
theorem behind_le {n : Nat} {line : Line} (h : (ofText text).lines[n]? = some line) :
    line.behind ≤ text.toList.length := by
  have mem : line ∈ placeLines 0 (splitLines text.toList) :=
    List.mem_of_getElem? (List.getElem?_toArray .. ▸ h)
  have le := (bounds_of_mem_placeLines mem).2
  rwa [flatten_splitLines, Nat.zero_add] at le

/-- A line number past the last line stands for the start of the last line. -/
theorem exists_lineStart_eq (n : Nat) :
    ∃ line, (ofText text).lines[min n ((ofText text).count - 1)]? = some line ∧
      (ofText text).lineStart n = line.start := by
  have inside : min n ((ofText text).count - 1) < (ofText text).lines.size := by
    have := count_pos text
    have size : (ofText text).count = (ofText text).lines.size := rfl
    omega
  refine ⟨_, Array.getElem?_eq_getElem inside, ?_⟩
  rw [lineStart, Array.getElem?_eq_getElem inside]
  rfl

variable {text} in
/-- What is shown of a line of the text. -/
theorem shown_of_getElem? {n : Nat} {line : Line} (h : (ofText text).lines[n]? = some line) :
    (ofText text).shown n = line.shown := by
  rw [LineIndex.shown, shown?, h]
  rfl

/-- Past the last line, nothing is shown. -/
theorem shown_of_past {n : Nat} (past : (ofText text).count ≤ n) : (ofText text).shown n = [] := by
  rw [LineIndex.shown, shown?, Array.getElem?_eq_none past]
  rfl

theorem lineStart_min (n : Nat) :
    (ofText text).lineStart (min n ((ofText text).count - 1)) = (ofText text).lineStart n := by
  rw [lineStart, lineStart, Nat.min_assoc, Nat.min_self]

/-- A line ends no earlier than it starts. -/
theorem lineStart_le_lineEnd (n : Nat) : (ofText text).lineStart n ≤ (ofText text).lineEnd n :=
  Nat.le_add_right _ _

/-- A line ends where it starts just if nothing is shown of it. -/
theorem lineStart_eq_lineEnd_iff (n : Nat) :
    (ofText text).lineStart n = (ofText text).lineEnd n ↔ (ofText text).shown n = [] := by
  rw [lineEnd, ← List.length_eq_zero_iff]
  omega

/-- A line ends before the later ones start. -/
theorem lineEnd_le_lineStart {n m : Nat} (lt : n < m) (inside : m < (ofText text).count) :
    (ofText text).lineEnd n ≤ (ofText text).lineStart m := by
  obtain ⟨a, ha, start_a⟩ := exists_lineStart_eq text n
  obtain ⟨b, hb, start_b⟩ := exists_lineStart_eq text m
  rw [Nat.min_eq_left (by omega)] at ha hb
  have apart := List.pairwise_iff_getElem.1 (pairwise_placeLines 0 (splitLines text.toList))
  obtain ⟨inside_a, ea⟩ := Array.getElem?_eq_some_iff.1 ha
  obtain ⟨inside_b, eb⟩ := Array.getElem?_eq_some_iff.1 hb
  have := apart n m inside_a inside_b lt
  have le : a.behind ≤ b.start := ea ▸ eb ▸ this
  rw [lineEnd, start_a, start_b, shown_of_getElem? ha]
  exact Nat.le_trans a.start_add_length_shown_le le

/-- Of two lines in order, the later one starts no earlier. -/
theorem lineStart_mono {n m : Nat} (h : n ≤ m) :
    (ofText text).lineStart n ≤ (ofText text).lineStart m := by
  rw [← lineStart_min text n, ← lineStart_min text m]
  have pos := count_pos text
  generalize hi : min n ((ofText text).count - 1) = i
  generalize hj : min m ((ofText text).count - 1) = j
  rcases Nat.lt_or_ge i j with before | behind
  · exact Nat.le_trans (lineStart_le_lineEnd text i) (lineEnd_le_lineStart text before (by omega))
  · obtain rfl : i = j := by omega
    exact Nat.le_refl _

/-- A line number past the last line stands for an empty line at the start of the last one. -/
theorem lineEnd_of_past {n : Nat} (past : (ofText text).count ≤ n) :
    (ofText text).lineEnd n = (ofText text).lineStart ((ofText text).count - 1) := by
  rw [lineEnd, shown_of_past text past, List.length_nil, Nat.add_zero, ← lineStart_min,
    Nat.min_eq_right (by omega)]

/-- Of two lines in order, the later one ends no earlier, unless the first is the last one of the
text, shows something, and the second is past it. -/
theorem lineEnd_le_lineEnd_iff {n m : Nat} (h : n ≤ m) :
    (ofText text).lineEnd n ≤ (ofText text).lineEnd m ↔
      m < (ofText text).count ∨ n ≠ (ofText text).count - 1 ∨
        (ofText text).shown ((ofText text).count - 1) = [] := by
  have pos := count_pos text
  rcases Nat.lt_or_ge m (ofText text).count with inside | past
  · refine iff_of_true ?_ (.inl inside)
    rcases Nat.eq_or_lt_of_le h with rfl | lt
    · exact Nat.le_refl _
    · exact Nat.le_trans (lineEnd_le_lineStart text lt inside) (lineStart_le_lineEnd text m)
  · rw [lineEnd_of_past text past]
    by_cases last : n = (ofText text).count - 1
    · have le := lineStart_le_lineEnd text ((ofText text).count - 1)
      rw [last, ← lineStart_eq_lineEnd_iff]
      omega
    · refine iff_of_true ?_ (.inr (.inl last))
      rcases Nat.lt_or_ge n (ofText text).count with inside | past'
      · exact lineEnd_le_lineStart text (by omega) (by omega)
      · exact Nat.le_of_eq (lineEnd_of_past text past')

/-- Lines up to one past the last stop where the last one starts, so what the last one shows is left
out. -/
theorem linesRange_of_past {first last : Nat} (past : (ofText text).count ≤ last) :
    (ofText text).linesRange ⟨first, last⟩ =
        ⟨(ofText text).lineStart first, (ofText text).lineStart ((ofText text).count - 1)⟩ ∧
      ((ofText text).linesRange ⟨first, last⟩ =
          (ofText text).linesRange ⟨first, (ofText text).count - 1⟩ ↔
        (ofText text).shown ((ofText text).count - 1) = []) := by
  have stop := lineEnd_of_past text past
  refine ⟨TextRange.eq_of_ends rfl stop, ?_⟩
  simp only [linesRange, stop, TextRange.mk.injEq, true_and]
  exact lineStart_eq_lineEnd_iff text _

/-- A line ends in the text. -/
theorem lineEnd_le (n : Nat) : (ofText text).lineEnd n ≤ text.toList.length := by
  obtain ⟨line, found, start⟩ := exists_lineStart_eq text n
  have le := behind_le text found
  have shown := line.start_add_length_shown_le
  rw [lineEnd, start]
  rcases Nat.lt_or_ge n (ofText text).count with inside | past
  · rw [Nat.min_eq_left (by omega)] at found
    rw [shown_of_getElem? found]
    omega
  · rw [shown_of_past text past, List.length_nil]
    omega

/-- The range of some lines in order lies in the text. -/
theorem bounds_linesRange {lines : LineRange} (h : lines.first ≤ lines.last) :
    ((ofText text).linesRange lines).start ≤ ((ofText text).linesRange lines).stop ∧
      ((ofText text).linesRange lines).stop ≤ text.toList.length :=
  ⟨Nat.le_trans (lineStart_mono text h) (lineStart_le_lineEnd text _), lineEnd_le text _⟩

end LineIndex

end TemplatePaint
