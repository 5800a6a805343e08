import TemplatePaint.Proofs.Text.LineOffsets
import TemplatePaint.Sorted

/-!
# Which line an offset is on

The lines of a text share out its characters (`exists_mem_placeLines`). The
line of an offset is counted by the lines that start up to it, and it is the
one that has the character there:

* `LineIndex.start_le_iff`: the lines up to that of an offset are those that
  start up to it;
* `LineIndex.lineAt_mono`, `LineIndex.lineAt_lt`;
* `LineIndex.lineAt_eq_iff`: the line of a character of the text.
-/

namespace TemplatePaint

/-- Every offset of some lines lies in one of them. -/
theorem exists_mem_placeLines {start offset : Nat} {ls : List (List Char × List Char)}
    (le : start ≤ offset) (lt : offset < start + (ls.map fun l => l.1 ++ l.2).flatten.length) :
    ∃ (n : Nat) (line : Line), (placeLines start ls)[n]? = some line ∧ line.start ≤ offset ∧
      offset < line.behind := by
  induction ls generalizing start with
  | nil => simp at lt; omega
  | cons l ls ih =>
    obtain ⟨chars, ending⟩ := l
    simp only [List.map_cons, List.flatten_cons, List.length_append] at lt
    rcases Nat.lt_or_ge offset (start + chars.length + ending.length) with inside | behind
    · exact ⟨0, _, rfl, le, inside⟩
    · obtain ⟨n, line, found, bounds⟩ := ih behind (by omega)
      exact ⟨n + 1, line, found, bounds⟩

namespace LineIndex

/-- The character at `offset` is one of line `n`, or of the break that ends it. -/
def OnLine (index : LineIndex) (n offset : Nat) : Prop :=
  ∃ line, index.lines[n]? = some line ∧ line.start ≤ offset ∧ offset < line.behind

variable {text : String}

/-- The lines up to that of an offset are those that start up to it. -/
theorem start_le_iff {n offset : Nat} {line : Line} (h : (ofText text).lines[n]? = some line) :
    line.start ≤ offset ↔ n ≤ (ofText text).lineAt offset := by
  have found : (placeLines 0 (splitLines text.toList))[n]? = some line :=
    List.getElem?_toArray .. ▸ h
  have ordered : (placeLines 0 (splitLines text.toList)).Pairwise fun a b =>
      decide (b.start ≤ offset) = true → decide (a.start ≤ offset) = true := by
    refine (pairwise_placeLines 0 _).imp fun {a b} behind up => decide_eq_true ?_
    have := of_decide_eq_true up
    unfold Line.behind at behind
    omega
  -- the first line starts up to every offset, so one is counted
  have counted : 0 < (placeLines 0 (splitLines text.toList)).countP (·.start ≤ offset) := by
    refine List.countP_pos_iff.2 ?_
    cases lines : splitLines text.toList with
    | nil => exact absurd lines (splitLines_ne_nil _)
    | cons l ls => exact ⟨_, List.mem_cons_self, decide_eq_true (Nat.zero_le offset)⟩
  have number := lt_countP_iff ordered found
  have count : (ofText text).lineAt offset =
      (placeLines 0 (splitLines text.toList)).countP (·.start ≤ offset) - 1 :=
    congrArg (· - 1) (List.countP_toArray ..)
  rw [decide_eq_true_iff] at number
  omega

variable (text)

/-- The line of an offset is one of the text. -/
theorem lineAt_lt (offset : Nat) : (ofText text).lineAt offset < (ofText text).count := by
  have pos := count_pos text
  have le : (ofText text).lines.countP (·.start ≤ offset) ≤ (ofText text).count :=
    Array.countP_le_size
  rw [lineAt]
  omega

/-- A later offset is on no earlier line. -/
theorem lineAt_mono {i j : Nat} (le : i ≤ j) :
    (ofText text).lineAt i ≤ (ofText text).lineAt j := by
  have found := Array.getElem?_eq_getElem (lineAt_lt text i)
  exact (start_le_iff found).1 (Nat.le_trans ((start_le_iff found).2 (Nat.le_refl _)) le)

variable {text}

theorem OnLine.lineAt_eq {n offset : Nat} (h : (ofText text).OnLine n offset) :
    (ofText text).lineAt offset = n := by
  obtain ⟨line, found, start, behind⟩ := h
  have le := (start_le_iff found).1 start
  refine Nat.le_antisymm (Nat.not_lt.1 fun lt => ?_) le
  -- a later line starts behind this one, and so behind the offset
  have inside := lineAt_lt text offset
  have later := (start_le_iff (Array.getElem?_eq_getElem inside)).2 (Nat.le_refl _)
  obtain ⟨inside', rfl⟩ := Array.getElem?_eq_some_iff.1 found
  have apart := List.pairwise_iff_getElem.1 (pairwise_placeLines 0 (splitLines text.toList))
    n _ inside' inside lt
  exact Nat.lt_irrefl _ (Nat.lt_of_lt_of_le behind (Nat.le_trans apart later))

/-- The line of a character of the text is the one that has it. -/
theorem lineAt_eq_iff {n offset : Nat} (inside : offset < text.toList.length) :
    (ofText text).lineAt offset = n ↔ (ofText text).OnLine n offset := by
  refine ⟨?_, OnLine.lineAt_eq⟩
  rintro rfl
  have within : offset < 0 + ((splitLines text.toList).map fun l => l.1 ++ l.2).flatten.length := by
    rwa [flatten_splitLines, Nat.zero_add]
  obtain ⟨n, line, found, bounds⟩ := exists_mem_placeLines (Nat.zero_le offset) within
  have on : (ofText text).OnLine n offset := ⟨line, List.getElem?_toArray .. ▸ found, bounds⟩
  rwa [on.lineAt_eq]

end LineIndex

end TemplatePaint
