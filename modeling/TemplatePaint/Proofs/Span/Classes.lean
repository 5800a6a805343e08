import TemplatePaint.Proofs.Span.ClassAttributes
import TemplatePaint.Proofs.Text.LongestRuns

/-!
# Classes read off a value

The classes of a value are its longest stretches without blanks, and the
modifiers of a class its longest stretches without colons, as far as a colon
ends them. What is left of a class without its modifiers and all colons is the
text behind its last colon (`Name.without_modifiers`).

* `Name.classTokens_exact`: nothing of a value is lost, and nothing is made up.
-/

namespace TemplatePaint

namespace Name

variable {value token m : Name}

/-- `token` is a longest stretch of `value` without blanks, where it stands. -/
def IsWordOf (token value : Name) : Prop :=
  ∃ before after, value.text.toList = before ++ (token.text.toList ++ after) ∧
    IsLongest isBlank before token.text.toList after ∧
    token.range = ⟨value.range.start + before.length,
      value.range.start + before.length + token.text.toList.length⟩

/-- `m` is a longest stretch of `token` without colons that a colon ends, where it stands; its range
has the colon too. -/
def IsModifierOf (m token : Name) : Prop :=
  ∃ before after, token.text.toList = before ++ (m.text.toList ++ ':' :: after) ∧
    IsLongest (· == ':') before m.text.toList (':' :: after) ∧
    m.range = ⟨token.range.start + before.length,
      token.range.start + before.length + m.text.toList.length + 1⟩

theorem mem_words_iff : token ∈ value.words ↔ token.IsWordOf value := by
  rw [words, List.mem_map]
  constructor
  · rintro ⟨r, mem, rfl⟩
    obtain ⟨before, after, split, start, longest⟩ := mem_runs_iff.1 mem
    rw [Nat.zero_add] at start
    refine ⟨before, after, ?_, ?_, ?_⟩
    · rw [Run.toName, String.toList_ofList, split]
    · rwa [Run.toName, String.toList_ofList]
    · rw [Run.toName, String.toList_ofList, Run.stop, start, Nat.add_assoc]
  · rintro ⟨before, after, split, longest, range⟩
    refine ⟨⟨before.length, token.text.toList⟩,
      mem_runs_iff.2 ⟨before, after, split, (Nat.zero_add _).symm, longest⟩, ?_⟩
    rw [Run.toName, String.ofList_toList, Run.stop, ← Nat.add_assoc, ← range]

theorem mem_modifiers_iff : m ∈ token.modifiers ↔ m.IsModifierOf token := by
  simp only [modifiers, List.mem_map, List.mem_filter, decide_eq_true_eq]
  constructor
  · rintro ⟨r, ⟨mem, ended⟩, rfl⟩
    obtain ⟨before, after, split, start, longest⟩ := mem_runs_iff.1 mem
    rw [Nat.zero_add] at start
    -- a run that ends before the text does has a colon behind it
    obtain ⟨rest, rfl⟩ : ∃ rest, after = ':' :: rest := by
      cases after with
      | nil =>
        rw [split, Run.stop, start, List.append_nil, List.length_append] at ended
        omega
      | cons c rest =>
        obtain rfl : c = ':' := eq_of_beq (longest.behind c rfl)
        exact ⟨rest, rfl⟩
    refine ⟨before, rest, ?_, ?_, ?_⟩
    · rw [String.toList_ofList, split]
    · rwa [String.toList_ofList]
    · rw [String.toList_ofList, Run.stop, start, Nat.add_assoc _ before.length]
  · rintro ⟨before, after, split, longest, range⟩
    refine ⟨⟨before.length, m.text.toList⟩,
      ⟨mem_runs_iff.2 ⟨before, _, split, (Nat.zero_add _).symm, longest⟩, ?_⟩, ?_⟩
    · rw [Run.stop, split]
      simp only [List.length_append, List.length_cons]
      omega
    · rw [String.ofList_toList, Run.stop, ← Nat.add_assoc, ← range]

/-- The modifiers of a class come one after the other. -/
theorem pairwise_modifiers (token : Name) :
    token.modifiers.Pairwise fun m n => m.range.stop ≤ n.range.start := by
  refine List.pairwise_map.2 (((pairwise_runs (· == ':') 0 _).filter _).imp fun before => ?_)
  dsimp only
  omega

/-! ## What is left of a class -/

/-- The characters of a name that are no colons and stand in none of the ranges. -/
def without (token : Name) (ranges : List TextRange) : List Char :=
  ((token.text.toList.zipIdx token.range.start).filter fun (c, i) =>
    c ≠ ':' ∧ ∀ r ∈ ranges, i ∉ r).map (·.1)

theorem exists_split_of_mem_zipIdx {cs : List Char} {start i : Nat} {c : Char}
    (h : (c, i) ∈ cs.zipIdx start) :
    ∃ left right, cs = left ++ c :: right ∧ i = start + left.length := by
  obtain ⟨le, lt, here⟩ := List.mem_zipIdx h
  refine ⟨cs.take (i - start), cs.drop (i - start + 1), ?_, ?_⟩
  · rw [here, ← List.drop_eq_getElem_cons, List.take_append_drop]
  · rw [List.length_take]
    omega

/-- A character with a colon anywhere behind it is a colon, or stands in a modifier. -/
theorem exists_isModifierOf (left right : List Char) {c : Char}
    (split : token.text.toList = left ++ c :: right) (other : c ≠ ':') (ended : ':' ∈ right) :
    ∃ m : Name, m.IsModifierOf token ∧ token.range.start + left.length ∈ m.range := by
  have inside : (c == ':') = false := by simpa using other
  obtain ⟨before, front, back, after, rfl, rfl, longest⟩ :=
    exists_isLongest (· == ':') left right inside
  obtain ⟨rest, rfl⟩ : ∃ rest, after = ':' :: rest := by
    rcases List.mem_append.1 ended with inside | behind
    · have := longest.inner ':' (by simp [inside])
      exact absurd this (by decide)
    · cases after with
      | nil => exact absurd behind List.not_mem_nil
      | cons d rest =>
        obtain rfl : d = ':' := eq_of_beq (longest.behind d rfl)
        exact ⟨rest, rfl⟩
  let m : Name := ⟨String.ofList (front ++ c :: back), ⟨token.range.start + before.length,
    token.range.start + before.length + (front ++ c :: back).length + 1⟩⟩
  refine ⟨m, ⟨before, rest, ?_, ?_, ?_⟩, ?_⟩
  · rw [split, String.toList_ofList]
    simp
  · rwa [String.toList_ofList]
  · rw [String.toList_ofList]
  · rw [TextRange.mem_iff]
    simp only [m, List.length_append, List.length_cons]
    omega

/-- A modifier stands in front of what has no colon. -/
theorem IsModifierOf.stop_le (h : m.IsModifierOf token) {front last : List Char}
    (split : token.text.toList = front ++ last) (unended : ':' ∉ last) :
    m.range.stop ≤ token.range.start + front.length := by
  obtain ⟨before, after, parts, -, range⟩ := h
  have same : (before ++ m.text.toList ++ [':']) ++ after = front ++ last := by
    rw [← split, parts]
    simp
  have le : (before ++ m.text.toList ++ [':']).length ≤ front.length := by
    rcases List.append_eq_append_iff.1 same with ⟨more, rfl, -⟩ | ⟨past, ended, rfl⟩
    · exact (List.prefix_append ..).length_le
    · -- what reaches over to the last part would end it with a colon
      rcases List.eq_nil_or_concat past with rfl | ⟨init, d, rfl⟩
      · rw [ended, List.append_nil]
      · rw [List.concat_eq_append, ← List.append_assoc, List.append_singleton_inj] at ended
        obtain ⟨-, rfl⟩ := ended
        exact absurd (by simp) unended
  rw [range]
  simp only [List.length_append, List.length_singleton] at le ⊢
  omega

/-- Without its modifiers and all colons, a class is the text behind its last colon. -/
theorem without_modifiers (token : Name) :
    token.without (token.modifiers.map (·.range)) = token.text.toList.rtakeWhile (· ≠ ':') := by
  have split : token.text.toList = token.text.toList.rdropWhile (· ≠ ':') ++
    token.text.toList.rtakeWhile (· ≠ ':') := List.rdropWhile_append_rtakeWhile.symm
  have unended : ':' ∉ token.text.toList.rtakeWhile (· ≠ ':') := fun h => by
    simpa using List.mem_rtakeWhile_imp h
  have ended := List.rdropWhile_last_not (· ≠ ':') token.text.toList
  generalize token.text.toList.rdropWhile (· ≠ ':') = front at split ended
  generalize token.text.toList.rtakeWhile (· ≠ ':') = last at split unended
  have removed : ∀ e ∈ front.zipIdx token.range.start,
      ¬ (e.1 ≠ ':' ∧ ∀ r ∈ token.modifiers.map (·.range), e.2 ∉ r) := by
    rintro ⟨c, i⟩ mem ⟨other, outside⟩
    obtain ⟨left, right, rfl, rfl⟩ := exists_split_of_mem_zipIdx mem
    have colon : ':' ∈ right := by
      have last := ended (by simp)
      rw [List.getLast_append_of_ne_nil _ (List.cons_ne_nil c right)] at last
      rcases List.mem_cons.1 (List.getLast_mem (List.cons_ne_nil c right)) with same | mem
      · simp [same, other] at last
      · simpa [show (c :: right).getLast _ = ':' by simpa using last] using mem
    obtain ⟨m, isModifier, inside⟩ := exists_isModifierOf left (right ++ last)
      (by rw [split]; simp) other (List.mem_append_left _ colon)
    exact outside m.range (List.mem_map_of_mem (mem_modifiers_iff.2 isModifier)) inside
  have kept : ∀ e ∈ last.zipIdx (token.range.start + front.length),
      e.1 ≠ ':' ∧ ∀ r ∈ token.modifiers.map (·.range), e.2 ∉ r := by
    rintro ⟨c, i⟩ mem
    refine ⟨?_, List.forall_mem_map.2 fun m hm inside => ?_⟩
    · rintro rfl
      exact unended (List.fst_mem_of_mem_zipIdx mem)
    · have behind := (List.mem_zipIdx mem).1
      have := (mem_modifiers_iff.1 hm).stop_le split unended
      rw [TextRange.mem_iff] at inside
      omega
  rw [without, split, List.zipIdx_append, List.filter_append,
    List.filter_eq_nil_iff.2 (by simpa using removed), List.filter_eq_self.2 (by simpa using kept),
    List.nil_append, List.zipIdx_map_fst]

/-- Where the range of a value has the length of its text, its words lie inside it. -/
theorem IsWordOf.inside (h : token.IsWordOf value)
    (fits : value.range.length = value.text.toList.length) :
    value.range.encloses token.range = true := by
  obtain ⟨before, after, split, longest, range⟩ := h
  have nonempty := List.length_pos_of_ne_nil longest.nonempty
  rw [split, TextRange.length] at fits
  simp only [List.length_append] at fits
  rw [TextRange.encloses_iff, range]
  dsimp only
  omega

/-- The classes of a value lose nothing of it and make up nothing. They are its longest stretches
without blanks, each once, in order, and inside the value. The modifiers of a class are its longest
stretches without colons that a colon ends, each once, in order, and with the colon in the range;
without them and all other colons, the class is the text behind its last colon. -/
theorem classTokens_exact (value : Name) (fits : value.range.length = value.text.toList.length) :
    (value.classTokens.Pairwise fun s t => s.range.stop < t.range.start) ∧
    (∀ s, s ∈ value.classTokens ↔ ∃ token : Name, token.IsWordOf value ∧
      s = ⟨.classToken, token.range, .modifiers token token.modifiers⟩) ∧
    ∀ token : Name, token.IsWordOf value →
      value.range.encloses token.range = true ∧
      (token.modifiers.Pairwise fun m n => m.range.stop ≤ n.range.start) ∧
      (∀ m : Name, m ∈ token.modifiers ↔ m.IsModifierOf token) ∧
      token.without (token.modifiers.map (·.range)) = token.text.toList.rtakeWhile (· ≠ ':') := by
  refine ⟨?_, fun s => ?_, fun token isWord => ⟨isWord.inside fits, pairwise_modifiers token,
    fun m => mem_modifiers_iff, without_modifiers token⟩⟩
  · exact List.pairwise_map.2 value.pairwise_words
  · rw [classTokens, List.mem_map]
    refine exists_congr fun token => and_congr mem_words_iff ?_
    rw [classToken]
    exact eq_comm

/-- Of doubled colons, and of one in front, nothing becomes a modifier; without the modifiers `b`
and `c` and all colons, the text behind the last colon is left. -/
theorem classTokens_exact_doubled_colons :
    let value : Name := ⟨"\tp-2 :b:::c:d ", ⟨7, 21⟩⟩
    let token : Name := ⟨":b:::c:d", ⟨12, 20⟩⟩
    value.range.length = value.text.toList.length ∧
    ⟨.classToken, ⟨12, 20⟩, .modifiers token token.modifiers⟩ ∈ value.classTokens ∧
    token.modifiers = [⟨"b", ⟨13, 15⟩⟩, ⟨"c", ⟨17, 19⟩⟩] ∧
    token.without [⟨13, 15⟩, ⟨17, 19⟩] = ['d'] := by
  intro value token
  obtain ⟨-, mem, each⟩ := classTokens_exact value (by decide)
  have isWord : token.IsWordOf value := mem_words_iff.1 (by decide)
  have modifiers : token.modifiers = [⟨"b", ⟨13, 15⟩⟩, ⟨"c", ⟨17, 19⟩⟩] := by decide
  obtain ⟨-, -, -, rest⟩ := each token isWord
  rw [modifiers] at rest
  exact ⟨by decide, (mem _).2 ⟨token, isWord, rfl⟩, modifiers, rest.trans (by decide)⟩

end Name

end TemplatePaint
