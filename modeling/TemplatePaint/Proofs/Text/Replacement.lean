import TemplatePaint.Text.Range

/-!
# Replaced ranges of a text

Ranges of a text that come one after the other can be replaced all at once. What
was put in then stands at ranges of the new text, which come one after the other
too (`map_slice_inserted`). If these are replaced by what the old ranges held,
the result is the old text (`replaceRanges_inserted`).
-/

namespace TemplatePaint

/-- The characters from the offset `pos` on, with some ranges in order replaced. -/
def replaceFrom : (pos : Nat) → List (TextRange × String) → List Char → List Char
  | _, [], cs => cs
  | pos, (r, new) :: later, cs =>
    cs.take (r.start - pos) ++ new.toList ++ replaceFrom r.stop later (cs.drop (r.stop - pos))

/-- The text with some ranges in order replaced. -/
def replaceRanges (text : String) (parts : List (TextRange × String)) : String :=
  String.ofList (replaceFrom 0 parts text.toList)

/-- Where the replacements stand, if the character at `pos` has come to stand at `moved`. -/
def insertedFrom : (pos moved : Nat) → List (TextRange × String) → List TextRange
  | _, _, [] => []
  | pos, moved, (r, new) :: later =>
    let start := moved + (r.start - pos)
    let stop := start + new.toList.length
    ⟨start, stop⟩ :: insertedFrom r.stop stop later

/-- Where the replacements of ranges stand in the new text. -/
def insertedRanges (parts : List (TextRange × String)) : List TextRange := insertedFrom 0 0 parts

/-- The ranges come one after the other, from `pos` on and up to `total`. -/
def InOrder (total : Nat) : (pos : Nat) → List TextRange → Prop
  | pos, [] => pos ≤ total
  | pos, r :: rs => pos ≤ r.start ∧ r.start ≤ r.stop ∧ InOrder total r.stop rs

variable {total pos moved : Nat} {r : TextRange} {rs : List TextRange} {cs : List Char}
  {parts : List (TextRange × String)}

theorem InOrder.le_total (h : InOrder total pos rs) : pos ≤ total := by
  induction rs generalizing pos with
  | nil => exact h
  | cons r rs ih =>
    obtain ⟨start, ordered, later⟩ := h
    exact Nat.le_trans start (Nat.le_trans ordered (ih later))

theorem InOrder.le_start (h : InOrder total pos rs) (hr : r ∈ rs) : pos ≤ r.start := by
  induction rs generalizing pos with
  | nil => simp at hr
  | cons s rs ih =>
    obtain ⟨start, ordered, later⟩ := h
    rcases List.mem_cons.1 hr with rfl | hr
    · exact start
    · exact Nat.le_trans start (Nat.le_trans ordered (ih later hr))

/-- Ranges in a text that come one after the other. -/
theorem inOrder_of_pairwise (apart : rs.Pairwise fun r s => r.stop ≤ s.start)
    (ordered : ∀ r ∈ rs, r.start ≤ r.stop) (inside : ∀ r ∈ rs, r.stop ≤ total)
    (behind : ∀ r ∈ rs, pos ≤ r.start) (le : pos ≤ total) : InOrder total pos rs := by
  induction rs generalizing pos with
  | nil => exact le
  | cons r rs ih =>
    obtain ⟨first, apart⟩ := List.pairwise_cons.1 apart
    obtain ⟨own, ordered⟩ := List.forall_mem_cons.1 ordered
    obtain ⟨stop, inside⟩ := List.forall_mem_cons.1 inside
    exact ⟨(List.forall_mem_cons.1 behind).1, own, ih apart ordered inside first stop⟩

/-- What a range holds, where the first of the characters is at `pos`. -/
def heldFrom (pos : Nat) (cs : List Char) (r : TextRange) : String :=
  String.ofList ((cs.drop (r.start - pos)).take r.length)

theorem heldFrom_zero (text : String) : heldFrom 0 text.toList = slice text := rfl

/-- What a range holds does not hang on what is before it. -/
theorem heldFrom_append {front rest : List Char} {later : Nat}
    (length : pos + front.length = later) (le : later ≤ r.start) :
    heldFrom pos (front ++ rest) r = heldFrom later rest r := by
  rw [heldFrom, heldFrom, show r.start - pos = front.length + (r.start - later) by omega,
    ← List.drop_drop, List.drop_left]

theorem heldFrom_middle {before old rest : List Char} (start : pos + before.length = r.start)
    (stop : r.start + old.length = r.stop) :
    heldFrom pos (before ++ old ++ rest) r = String.ofList old := by
  rw [List.append_assoc, heldFrom_append start (Nat.le_refl _), heldFrom, Nat.sub_self, List.drop_zero,
    TextRange.length, ← stop, Nat.add_sub_cancel_left, List.take_left]

/-- The characters before a range, in it, and behind it. -/
theorem InOrder.exists_split (h : InOrder (pos + cs.length) pos (r :: rs)) :
    ∃ before old rest, cs = before ++ old ++ rest ∧ pos + before.length = r.start ∧
      r.start + old.length = r.stop ∧ InOrder (r.stop + rest.length) r.stop rs := by
  obtain ⟨start, ordered, later⟩ := h
  have inside := later.le_total
  refine ⟨cs.take (r.start - pos), (cs.drop (r.start - pos)).take r.length,
    cs.drop (r.stop - pos), ?_, ?_, ?_, ?_⟩
  · rw [show r.stop - pos = r.start - pos + r.length by rw [TextRange.length]; omega,
      ← List.drop_drop, List.append_assoc, List.take_append_drop, List.take_append_drop]
  · rw [List.length_take]
    omega
  · rw [List.length_take, List.length_drop, TextRange.length]
    omega
  · rw [List.length_drop, show r.stop + (cs.length - (r.stop - pos)) = pos + cs.length by omega]
    exact later

theorem replaceFrom_cons {before old rest : List Char} {new : String}
    (start : pos + before.length = r.start) (stop : r.start + old.length = r.stop) :
    replaceFrom pos ((r, new) :: parts) (before ++ old ++ rest) =
      before ++ new.toList ++ replaceFrom r.stop parts rest := by
  have skip : r.start - pos = before.length := by omega
  have past : r.stop - pos = (before ++ old).length := by
    rw [List.length_append]
    omega
  rw [replaceFrom, skip, past, List.drop_left, List.append_assoc before, List.take_left]

theorem insertedFrom_cons {before : List Char} {new : String}
    (start : pos + before.length = r.start) :
    insertedFrom pos moved ((r, new) :: parts) =
      ⟨moved + before.length, moved + before.length + new.toList.length⟩ ::
        insertedFrom r.stop (moved + before.length + new.toList.length) parts := by
  rw [insertedFrom, ← start, Nat.add_sub_cancel_left]

/-- The replacements stand from where they may start on. -/
theorem le_start_of_mem_insertedFrom (h : r ∈ insertedFrom pos moved parts) : moved ≤ r.start := by
  induction parts generalizing pos moved with
  | nil => simp [insertedFrom] at h
  | cons part parts ih =>
    obtain ⟨own, new⟩ := part
    rcases List.mem_cons.1 h with rfl | h
    · exact Nat.le_add_right _ _
    · exact Nat.le_trans (Nat.le_trans (Nat.le_add_right _ _) (Nat.le_add_right _ _)) (ih h)

/-- Each replacement stands where it was put in. -/
theorem map_heldFrom_inserted (h : InOrder (pos + cs.length) pos (parts.map (·.1))) :
    (insertedFrom pos moved parts).map (heldFrom moved (replaceFrom pos parts cs)) =
      parts.map (·.2) := by
  induction parts generalizing pos moved cs with
  | nil => rfl
  | cons part parts ih =>
    obtain ⟨r, new⟩ := part
    obtain ⟨before, old, rest, rfl, start, stop, later⟩ := InOrder.exists_split (r := r) h
    rw [insertedFrom_cons start, replaceFrom_cons start stop, List.map_cons, List.map_cons,
      heldFrom_middle rfl rfl, String.ofList_toList, ← ih later]
    congr 1
    refine List.map_congr_left fun g hg => heldFrom_append ?_ (le_start_of_mem_insertedFrom hg)
    rw [List.length_append, Nat.add_assoc]

/-- If the replacements are replaced by what was held before, nothing has changed. -/
theorem replaceFrom_inserted (h : InOrder (pos + cs.length) pos (parts.map (·.1))) :
    replaceFrom moved ((insertedFrom pos moved parts).zip (parts.map fun p => heldFrom pos cs p.1))
      (replaceFrom pos parts cs) = cs := by
  induction parts generalizing pos moved cs with
  | nil => rfl
  | cons part parts ih =>
    obtain ⟨r, new⟩ := part
    obtain ⟨before, old, rest, rfl, start, stop, later⟩ := InOrder.exists_split (r := r) h
    have held : (parts.map fun p => heldFrom pos (before ++ old ++ rest) p.1) =
        parts.map fun p => heldFrom r.stop rest p.1 := by
      refine List.map_congr_left fun p hp => heldFrom_append ?_ ?_
      · rw [List.length_append]
        omega
      · exact later.le_start (List.mem_map_of_mem hp)
    rw [insertedFrom_cons start, replaceFrom_cons start stop, List.map_cons, held, List.zip_cons_cons,
      heldFrom_middle start stop, replaceFrom_cons rfl rfl, String.toList_ofList, ih later]

/-! ## Whole texts -/

variable {text : String}

/-- A slice stands in the text where the range says. -/
theorem exists_split_slice (ordered : r.start ≤ r.stop) (inside : r.stop ≤ text.toList.length) :
    ∃ before after, text = before ++ slice text r ++ after ∧ before.toList.length = r.start ∧
      (before ++ slice text r).toList.length = r.stop := by
  obtain ⟨before, old, rest, split, start, stop, -⟩ := InOrder.exists_split
    (show InOrder (0 + text.toList.length) 0 [r] from
      ⟨Nat.zero_le _, ordered, (Nat.zero_add _).symm ▸ inside⟩)
  rw [Nat.zero_add] at start
  refine ⟨String.ofList before, String.ofList rest, ?_⟩
  rw [slice_eq_of_split split start.symm (by omega)]
  refine ⟨?_, ?_, ?_⟩
  · rw [← String.ofList_append, ← String.ofList_append, ← split, String.ofList_toList]
  · rw [String.toList_ofList, start]
  · rw [← String.ofList_append, String.toList_ofList, List.length_append, start, stop]

/-- What was put in for each range stands in the new text. -/
theorem map_slice_inserted (h : InOrder text.toList.length 0 (parts.map (·.1))) :
    (insertedRanges parts).map (slice (replaceRanges text parts)) = parts.map (·.2) := by
  rw [← heldFrom_zero, replaceRanges, String.toList_ofList]
  exact map_heldFrom_inserted ((Nat.zero_add _).symm ▸ h)

/-- If what was put in is replaced by what the ranges held, the result is the old text. -/
theorem replaceRanges_inserted (h : InOrder text.toList.length 0 (parts.map (·.1))) :
    replaceRanges (replaceRanges text parts)
      ((insertedRanges parts).zip (parts.map fun p => slice text p.1)) = text := by
  rw [← heldFrom_zero, replaceRanges, replaceRanges, String.toList_ofList, insertedRanges,
    replaceFrom_inserted ((Nat.zero_add _).symm ▸ h), String.ofList_toList]

end TemplatePaint
