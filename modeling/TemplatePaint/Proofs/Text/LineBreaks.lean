import TemplatePaint.Proofs.Text.LineOffsets

/-!
# Where lines break

A line has no break in it, and one behind it unless it is the last
(`cut_splitLines`, `LineIndex.exists_isLine`). What is shown of a line is cut by
hand: it loses a line feed at its end and then a carriage return
(`Line.shown_eq_stripped`). So a line that ends in any other break is shown with
it, and just these lines are (`LineIndex.shown_unbroken_iff`).
-/

namespace TemplatePaint

/-! ## Breaks -/

/-- The ways to break a line. -/
def lineBreaks : List (List Char) :=
  [['\n'], ['\r', '\n'], ['\r'], ['\x0b'], ['\x0c'], ['\u0085'], ['\u2028'], ['\u2029']]

/-- The characters that end a line are the breaks of one character. -/
theorem singleton_mem_lineBreaks_iff {c : Char} : [c] ∈ lineBreaks ↔ isLineBreak c = true := by
  constructor
  · intro h
    simp only [lineBreaks, List.mem_cons, List.cons.injEq, and_true, List.not_mem_nil, or_false,
      reduceCtorEq, and_false, false_or] at h
    rcases h with rfl | rfl | rfl | rfl | rfl | rfl | rfl <;> decide
  · intro h
    have codes : c.toNat = 0x0A ∨ c.toNat = 0x0B ∨ c.toNat = 0x0C ∨ c.toNat = 0x0D ∨
        c.toNat = 0x85 ∨ c.toNat = 0x2028 ∨ c.toNat = 0x2029 := by
      simp only [isLineBreak, Bool.or_eq_true, Bool.and_eq_true, decide_eq_true_iff,
        beq_iff_eq] at h
      omega
    rw [← Char.ofNat_toNat c]
    rcases codes with h | h | h | h | h | h | h <;> rw [h] <;> decide

/-- No character ends a line. -/
def Unbroken (cs : List Char) : Prop := ∀ c ∈ cs, isLineBreak c = false

theorem Unbroken.getLast?_ne {cs : List Char} (h : Unbroken cs) {c : Char}
    (ends : isLineBreak c = true) : cs.getLast? ≠ some c :=
  fun last => Bool.false_ne_true ((h c (List.mem_of_getLast? last)).symm.trans ends)

/-- The text of some lines. -/
def joinLines (ls : List (List Char × List Char)) : List Char :=
  (ls.map fun l => l.1 ++ l.2).flatten

theorem joinLines_append (ls ls' : List (List Char × List Char)) :
    joinLines (ls ++ ls') = joinLines ls ++ joinLines ls' := by
  simp [joinLines]

theorem joinLines_cons (l : List Char × List Char) (ls : List (List Char × List Char)) :
    joinLines (l :: ls) = l.1 ++ l.2 ++ joinLines ls := by
  simp [joinLines]

/-- Lines as a text is cut into them: there is a break between each two, and none is between a
carriage return and the line feed behind it. -/
inductive Cut : List (List Char × List Char) → Prop where
  | last {chars : List Char} (unbroken : Unbroken chars) : Cut [(chars, [])]
  | line {chars ending : List Char} {later : List (List Char × List Char)}
      (unbroken : Unbroken chars) (ended : ending ∈ lineBreaks)
      (whole : ending = ['\r'] → (joinLines later).head? ≠ some '\n') (rest : Cut later) :
      Cut ((chars, ending) :: later)

theorem Cut.cons {c : Char} (hc : isLineBreak c = false) {chars ending : List Char}
    {later : List (List Char × List Char)} (h : Cut ((chars, ending) :: later)) :
    Cut ((c :: chars, ending) :: later) := by
  cases h with
  | last unbroken => exact .last (List.forall_mem_cons.2 ⟨hc, unbroken⟩)
  | line unbroken ended whole rest =>
    exact .line (List.forall_mem_cons.2 ⟨hc, unbroken⟩) ended whole rest

/-- A text is cut into its lines. -/
theorem cut_splitLines (cs : List Char) : Cut (splitLines cs) := by
  fun_induction splitLines cs with
  | case1 => exact .last (List.forall_mem_nil _)
  | case2 cs ih =>
    exact .line (List.forall_mem_nil _) (by decide) (fun same => absurd same (by decide)) ih
  | case3 c cs single ends ih =>
    refine .line (List.forall_mem_nil _) (singleton_mem_lineBreaks_iff.2 ends) ?_ ih
    intro same feed
    rw [joinLines, flatten_splitLines] at feed
    obtain ⟨cs', rfl⟩ := List.head?_eq_some_iff.1 feed
    exact single cs' (List.cons.inj same).1 rfl
  | case4 c cs _ inside chars ending later split ih =>
    exact (split ▸ ih).cons (Bool.eq_false_iff.2 inside)
  | case5 c cs _ _ none => exact absurd none (splitLines_ne_nil cs)

/-- What is to be said of each line of a cut. -/
theorem Cut.getElem? {ls : List (List Char × List Char)} (h : Cut ls) {n : Nat}
    {chars ending : List Char} (line : ls[n]? = some (chars, ending)) :
    Unbroken chars ∧ (n + 1 = ls.length → ending = []) ∧
      (n + 1 < ls.length → ending ∈ lineBreaks ∧
        (ending = ['\r'] → (joinLines (ls.drop (n + 1))).head? ≠ some '\n')) := by
  induction h generalizing n with
  | last unbroken =>
    cases n with
    | zero =>
      obtain ⟨rfl, rfl⟩ := Prod.mk.inj (Option.some.inj line)
      exact ⟨unbroken, fun _ => rfl, fun h => absurd h (by simp)⟩
    | succ n => simp at line
  | line unbroken ended whole rest ih =>
    cases n with
    | zero =>
      obtain ⟨rfl, rfl⟩ := Prod.mk.inj (Option.some.inj line)
      refine ⟨unbroken, fun alone => ?_, fun _ => ⟨ended, whole⟩⟩
      cases rest <;> simp at alone
    | succ n =>
      rw [List.getElem?_cons_succ] at line
      simpa using ih line

/-! ## Lines in the text -/

/-- A placed line is a line of the list, behind the lines before it. -/
theorem getElem?_placeLines {start n : Nat} {ls : List (List Char × List Char)} {line : Line}
    (h : (placeLines start ls)[n]? = some line) :
    ls[n]? = some (line.chars, line.ending) ∧
      line.start = start + (joinLines (ls.take n)).length := by
  induction n generalizing start ls with
  | zero =>
    cases ls with
    | nil => simp [placeLines] at h
    | cons l ls =>
      obtain rfl := Option.some.inj h
      exact ⟨rfl, rfl⟩
  | succ n ih =>
    cases ls with
    | nil => simp [placeLines] at h
    | cons l ls =>
      obtain ⟨found, place⟩ := ih h
      refine ⟨found, ?_⟩
      rw [place, List.take_succ_cons, joinLines_cons, List.length_append, List.length_append]
      omega

theorem length_placeLines (start : Nat) (ls : List (List Char × List Char)) :
    (placeLines start ls).length = ls.length := by
  induction ls generalizing start with
  | nil => rfl
  | cons l ls ih => exact congrArg (· + 1) (ih _)

/-- The breaks that what is shown of a line loses. -/
def plainBreaks : List (List Char) := [['\n'], ['\r', '\n'], ['\r']]

/-- Without a line feed at the end, and then without a carriage return. -/
def stripped (cs : List Char) : List Char :=
  let cs := if cs.getLast? = some '\n' then cs.dropLast else cs
  if cs.getLast? = some '\r' then cs.dropLast else cs

/-- Line `n` of a text: what is before it, its characters, its break, and what is behind. -/
structure IsLine (text : String) (n : Nat) (before chars ending after : List Char) : Prop where
  text_eq : text.toList = before ++ chars ++ ending ++ after
  start_eq : (LineIndex.ofText text).lineStart n = before.length
  unbroken : Unbroken chars
  last : n + 1 = (LineIndex.ofText text).count → ending = [] ∧ after = []
  ended : n + 1 < (LineIndex.ofText text).count → ending ∈ lineBreaks ∧
    (ending = ['\r'] → after.head? ≠ some '\n') ∧
    (LineIndex.ofText text).lineStart (n + 1) = (before ++ chars ++ ending).length

namespace LineIndex

variable (text : String)

theorem count_eq : (ofText text).count = (splitLines text.toList).length :=
  length_placeLines _ _

/-- A line starts behind the lines before it. -/
theorem lineStart_eq {n : Nat} (inside : n < (ofText text).count) :
    (ofText text).lineStart n = (joinLines ((splitLines text.toList).take n)).length := by
  obtain ⟨line, found, start⟩ := exists_lineStart_eq text n
  rw [Nat.min_eq_left (by omega)] at found
  have placed : (placeLines 0 (splitLines text.toList))[n]? = some line :=
    List.getElem?_toArray .. ▸ found
  rw [start, (getElem?_placeLines placed).2, Nat.zero_add]

/-- Each line has its place in the text. -/
theorem exists_isLine {n : Nat} (inside : n < (ofText text).count) :
    ∃ line, (ofText text).lines[n]? = some line ∧
      ∃ before after, IsLine text n before line.chars line.ending after := by
  obtain ⟨line, found⟩ : ∃ line, (ofText text).lines[n]? = some line :=
    ⟨_, Array.getElem?_eq_getElem inside⟩
  have placed : (placeLines 0 (splitLines text.toList))[n]? = some line :=
    List.getElem?_toArray .. ▸ found
  obtain ⟨own, -⟩ := getElem?_placeLines placed
  obtain ⟨unbroken, last, ended⟩ := (cut_splitLines text.toList).getElem? own
  rw [← count_eq] at last ended
  have whole : joinLines (splitLines text.toList) = text.toList := flatten_splitLines _
  have length := count_eq text
  have start := lineStart_eq text inside
  have next := lineStart_eq text (n := n + 1)
  generalize splitLines text.toList = ls at own ended whole length start next
  obtain ⟨lt, here⟩ := List.getElem?_eq_some_iff.1 own
  refine ⟨line, found, joinLines (ls.take n), joinLines (ls.drop (n + 1)), ?_, start, unbroken, ?_, ?_⟩
  · rw [← whole, List.append_assoc _ line.chars, List.append_assoc _ (line.chars ++ line.ending),
      ← joinLines_cons (line.chars, line.ending), ← joinLines_append, ← here,
      ← List.drop_eq_getElem_cons lt, List.take_append_drop]
  · intro only
    rw [List.drop_of_length_le (by omega)]
    exact ⟨last only, rfl⟩
  · intro more
    refine ⟨(ended more).1, (ended more).2, ?_⟩
    rw [next more, ← List.take_append_getElem lt, here, joinLines_append]
    simp [joinLines]

end LineIndex

namespace Line

variable {line : Line}

/-- What is shown of a line is its characters, and its break unless it is a plain one. -/
theorem shown_eq_ite (ended : line.ending = [] ∨ line.ending ∈ lineBreaks) :
    line.shown = if line.ending ∈ plainBreaks then line.chars else line.chars ++ line.ending := by
  rw [shown]
  generalize line.ending = ending at *
  simp only [lineBreaks, List.mem_cons, List.not_mem_nil, or_false] at ended
  rcases ended with rfl | rfl | rfl | rfl | rfl | rfl | rfl | rfl | rfl <;> simp [plainBreaks]

/-- Cut by hand, a line loses a plain break and no other. -/
theorem shown_eq_stripped (unbroken : Unbroken line.chars)
    (ended : line.ending = [] ∨ line.ending ∈ lineBreaks) :
    line.shown = stripped (line.chars ++ line.ending) := by
  have feed := unbroken.getLast?_ne (c := '\n') (by decide)
  have carriage := unbroken.getLast?_ne (c := '\r') (by decide)
  rw [shown, stripped]
  generalize line.chars = chars at *
  generalize line.ending = ending at *
  simp only [lineBreaks, List.mem_cons, List.not_mem_nil, or_false] at ended
  rcases ended with rfl | rfl | rfl | rfl | rfl | rfl | rfl | rfl | rfl <;>
    simp [feed, carriage]

end Line

namespace IsLine

variable {text : String} {n : Nat} {before chars ending after : List Char}

/-- A line ends in a break, or in none if it is the last. -/
theorem ending_cases (h : IsLine text n before chars ending after)
    (inside : n < (LineIndex.ofText text).count) : ending = [] ∨ ending ∈ lineBreaks := by
  rcases Nat.lt_or_ge (n + 1) (LineIndex.ofText text).count with more | past
  · exact .inr (h.ended more).1
  · exact .inl (h.last (by omega)).1

/-- Where just the characters of a line are shown, its break is between its end and the next
line. -/
theorem slice_eq_ending (h : IsLine text n before chars ending after)
    (shown : (LineIndex.ofText text).shown n = chars) (more : n + 1 < (LineIndex.ofText text).count) :
    slice text ⟨(LineIndex.ofText text).lineEnd n, (LineIndex.ofText text).lineStart (n + 1)⟩ =
      String.ofList ending := by
  refine slice_eq_of_split h.text_eq ?_ ?_
  · rw [LineIndex.lineEnd, h.start_eq, shown, List.length_append]
  · rw [(h.ended more).2.2, List.length_append]

end IsLine

/-- Every break has a character that ends a line. -/
theorem exists_isLineBreak_of_mem_lineBreaks {ending : List Char} (h : ending ∈ lineBreaks) :
    ∃ c ∈ ending, isLineBreak c = true := by
  have all : lineBreaks.all (·.any isLineBreak) = true := by decide
  exact List.any_eq_true.1 (List.all_eq_true.1 all ending h)

namespace LineIndex

variable (text : String)

/-- The last line ends where the text does. -/
theorem lineEnd_last :
    (ofText text).lineEnd ((ofText text).count - 1) = text.toList.length := by
  have pos := count_pos text
  obtain ⟨line, found, before, after, isLine⟩ :=
    exists_isLine text (n := (ofText text).count - 1) (by omega)
  obtain ⟨ending, rfl⟩ := isLine.last (by omega)
  have shown : line.shown = line.chars := by
    rw [line.shown_eq_ite (.inl ending), ending, List.append_nil, ite_self]
  rw [lineEnd, isLine.start_eq, shown_of_getElem? found, shown, isLine.text_eq, ending]
  simp

/-- A line of a text has no break in it, and behind it one, unless it is the last. Of its breaks, a
line feed and then a carriage return are cut off at the end of what is shown. So what is shown has
no break, and the line's own is between its end and the next line, just if this is a line feed, a
carriage return, or both; any other is shown. The last line ends where the text does. -/
theorem shown_unbroken_iff :
    let index : LineIndex := ofText text
    index.lineEnd (index.count - 1) = text.toList.length ∧
    ∀ n < index.count, ∃ before chars ending after, IsLine text n before chars ending after ∧
      index.shown n = stripped (chars ++ ending) ∧
      index.shown n = (if ending ∈ plainBreaks then chars else chars ++ ending) ∧
      ((Unbroken (index.shown n) ∧ (n + 1 < index.count →
          (slice text ⟨index.lineEnd n, index.lineStart (n + 1)⟩).toList ∈ lineBreaks)) ↔
        (n + 1 < index.count → ending ∈ plainBreaks)) := by
  intro index
  refine ⟨lineEnd_last text, fun n (inside : n < (ofText text).count) => ?_⟩
  obtain ⟨line, found, before, after, isLine⟩ := exists_isLine text inside
  have own : index.shown n = line.shown := shown_of_getElem? found
  have ended := isLine.ending_cases inside
  have shown := own.trans (line.shown_eq_ite ended)
  refine ⟨before, line.chars, line.ending, after, isLine,
    own.trans (line.shown_eq_stripped isLine.unbroken ended), shown, ?_⟩
  constructor
  · rintro ⟨clean, -⟩ more
    refine Classical.byContradiction fun other => ?_
    rw [if_neg other] at shown
    obtain ⟨c, hc, breaks⟩ := exists_isLineBreak_of_mem_lineBreaks (isLine.ended more).1
    have none := clean c (shown ▸ List.mem_append_right _ hc)
    exact Bool.false_ne_true (none.symm.trans breaks)
  · intro plain
    have shown : index.shown n = line.chars := by
      rcases Nat.lt_or_ge (n + 1) (ofText text).count with more | past
      · rw [shown, if_pos (plain more)]
      · rw [shown, (isLine.last (by omega)).1, List.append_nil, ite_self]
    refine ⟨shown ▸ isLine.unbroken, fun more => ?_⟩
    rw [isLine.slice_eq_ending shown more, String.toList_ofList]
    exact (isLine.ended more).1

/-- A line that ends in a vertical tab is shown with it. -/
theorem shown_broken :
    ¬ ∀ (text : String) (n : Nat), n < (ofText text).count → Unbroken ((ofText text).shown n) := by
  intro clean
  have never := clean "a\x0bb" 0 (by decide +kernel) '\x0b' (by decide +kernel)
  exact absurd never (by decide)

end LineIndex

end TemplatePaint
