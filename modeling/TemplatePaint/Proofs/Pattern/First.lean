import TemplatePaint.Pattern.Class
import TemplatePaint.Pattern.Search

/-!
# The first way of reading

What follows a place tells which way of reading a pattern is tried first with
success. A text is split at the first place where a word stands
(`splitAtFirst?`): a pattern that captures as few characters as possible before a
word stops at this place (`Pattern.run_captureFew_of_splitAtFirst?`), and is not
read where the word does not follow (`Pattern.run_captureFew_eq_none`).
-/

namespace TemplatePaint

/-- What stands before the first place where the word stands, and what stands behind the word. -/
def splitAtFirst? (word : List Char) : List Char → Option (List Char × List Char)
  | [] => if word.isEmpty then some ([], []) else none
  | c :: cs =>
    if word.isPrefixOf (c :: cs) then some ([], (c :: cs).drop word.length)
    else (splitAtFirst? word cs).map fun (before, behind) => (c :: before, behind)

section Split

variable {word cs before behind : List Char} {c : Char}

theorem splitAtFirst?_append (word behind : List Char) :
    splitAtFirst? word (word ++ behind) = some ([], behind) := by
  cases h : word ++ behind with
  | nil =>
    obtain ⟨rfl, rfl⟩ := List.append_eq_nil_iff.1 h
    rfl
  | cons c cs =>
    rw [splitAtFirst?, ← h, if_pos (List.isPrefixOf_iff_prefix.2 (List.prefix_append _ _)),
      List.drop_left]

theorem splitAtFirst?_cons (h : ¬ word <+: c :: cs) :
    splitAtFirst? word (c :: cs) =
      (splitAtFirst? word cs).map fun (before, behind) => (c :: before, behind) := by
  rw [splitAtFirst?, if_neg (mt List.isPrefixOf_iff_prefix.1 h)]

/-- The two parts and the word between them are the text. -/
theorem append_of_splitAtFirst? (h : splitAtFirst? word cs = some (before, behind)) :
    cs = before ++ (word ++ behind) := by
  induction cs generalizing before with
  | nil =>
    rw [splitAtFirst?] at h
    split at h
    · rename_i empty
      cases h
      rw [List.isEmpty_iff.1 empty]
      rfl
    · cases h
  | cons c cs ih =>
    by_cases here : word <+: c :: cs
    · obtain ⟨rest, split⟩ := here
      rw [← split, splitAtFirst?_append] at h
      cases h
      exact split.symm
    · rw [splitAtFirst?_cons here] at h
      obtain ⟨⟨before, behind⟩, later, parts⟩ := Option.map_eq_some_iff.1 h
      cases parts
      exact congrArg (c :: ·) (ih later)

/-- If there is no such place, the word does not stand at the start. -/
theorem not_prefix_of_splitAtFirst? (h : splitAtFirst? word cs = none) : ¬ word <+: cs := by
  rintro ⟨behind, rfl⟩
  rw [splitAtFirst?_append] at h
  cases h

end Split

namespace Pattern

variable {text : List Char} {α : Type} {p : Place text} {w after before behind : List Char}

/-! ## Words -/

/-- Where the word stands, it is read. -/
theorem runChars_of_after (k : Place text → Option α) (h : p.after = w ++ behind) :
    ∃ q, q.after = behind ∧ runChars k w p = k q := by
  induction w generalizing p with
  | nil => exact ⟨p, h, rfl⟩
  | cons c w ih =>
    rw [runChars]
    split
    · rename_i d rest after
      obtain ⟨rfl, rfl⟩ := List.cons.inj (after.symm.trans h)
      rw [if_pos rfl]
      exact ih (p.after_step after)
    · rename_i after
      cases after.symm.trans h

/-- Where it does not stand, it is not read. -/
theorem runChars_eq_none (k : Place text → Option α) (h : ¬ w <+: p.after) :
    runChars k w p = none := by
  induction w generalizing p with
  | nil => exact absurd List.nil_prefix h
  | cons c w ih =>
    rw [runChars]
    split
    · rename_i d rest after
      split
      · rename_i same
        rw [after, same, List.cons_prefix_cons, and_iff_right rfl] at h
        exact ih (by rwa [p.after_step after])
      · rfl
    · rfl

/-! ## One character, if it is there -/

section Optional

variable {cls : Char → Bool} {q : Pattern} {r : Reading text} {k : Reading text → Option α}

/-- A character that may stand at the start is read first. -/
theorem run_optional_one_of_mem {c : Char} {rest : List Char} (h : r.place.after = c :: rest)
    (mem : cls c = true) : (seq (optional (one cls)) q).run r k =
      (q.run { r with place := r.place.step h } k).or (q.run r k) := by
  have read : (one cls).run r (q.run · k) = q.run { r with place := r.place.step h } k := by
    rw [run]
    split
    · rename_i d later after
      obtain ⟨rfl, rfl⟩ := List.cons.inj (after.symm.trans h)
      rw [if_pos mem]
    · rename_i after
      cases after.symm.trans h
  show (either (one cls) nothing).run r (q.run · k) = _
  rw [run, read]
  cases q.run { r with place := r.place.step h } k <;> rfl

/-- If none stands there, none is read. -/
theorem run_optional_one_of_not_mem (h : ∀ c ∈ r.place.after.head?, ¬ cls c = true) :
    (seq (optional (one cls)) q).run r k = q.run r k := by
  have unread : (one cls).run r (q.run · k) = none := by
    rw [run]
    split
    · rename_i c rest after
      rw [if_neg (h c (by rw [after]; rfl))]
    · rfl
  show (either (one cls) nothing).run r (q.run · k) = _
  rw [run, unread]
  rfl

end Optional

/-! ## The fewest characters -/

section Few

variable {k : Place text → Option α} {result : α}

/-- Where the rest can be read at once, no character is read before it. -/
theorem runFew_of_some {cls : Char → Bool} (now : k p = some result) (h : p.after = after) :
    runFew cls k after p h = some result := by
  cases after <;> rw [runFew, now]

/-- Elsewhere the next character is read first. -/
theorem runFew_of_none {c : Char} {rest : List Char} (now : k p = none) (h : p.after = c :: rest) :
    runFew anyChar k (c :: rest) p h = runFew anyChar k rest (p.step h) (p.after_step h) := by
  rw [runFew, now]
  rfl

/-- If the rest is read only where a word stands, the characters before the first such place are
read, provided that the rest can be read there. -/
theorem runFew_of_splitAtFirst? (unread : ∀ q : Place text, ¬ w <+: q.after → k q = none)
    (h : p.after = after) (split : splitAtFirst? w after = some (before, behind)) :
    ∃ q : Place text, p.after = before ++ q.after ∧ q.after = w ++ behind ∧
      ∀ result, k q = some result → runFew anyChar k after p h = some result := by
  induction after generalizing p before with
  | nil =>
    obtain ⟨rfl, stands⟩ := List.append_eq_nil_iff.1 (append_of_splitAtFirst? split).symm
    exact ⟨p, rfl, h.trans stands.symm, fun _ read => runFew_of_some read h⟩
  | cons c rest ih =>
    by_cases stands : w <+: c :: rest
    · obtain ⟨later, stands⟩ := stands
      rw [← stands, splitAtFirst?_append] at split
      cases split
      exact ⟨p, rfl, h.trans stands.symm, fun _ read => runFew_of_some read h⟩
    · -- the rest is not read here, so one more character is read before it
      rw [splitAtFirst?_cons stands] at split
      obtain ⟨⟨before, behind⟩, split, parts⟩ := Option.map_eq_some_iff.1 split
      cases parts
      obtain ⟨q, passed, word, first⟩ := ih (p.after_step h) split
      refine ⟨q, ?_, word, fun result read => ?_⟩
      · rw [h, List.cons_append, ← passed, p.after_step h]
      · rw [runFew_of_none (unread p (by rwa [h])) h]
        exact first result read

/-- If the word stands nowhere behind, nothing is read. -/
theorem runFew_eq_none (unread : ∀ q : Place text, ¬ w <+: q.after → k q = none)
    (h : p.after = after) (split : splitAtFirst? w after = none) :
    runFew anyChar k after p h = none := by
  have now : k p = none := unread p (h ▸ not_prefix_of_splitAtFirst? split)
  induction after generalizing p with
  | nil => exact now
  | cons c rest ih =>
    rw [splitAtFirst?_cons (not_prefix_of_splitAtFirst? split), Option.map_eq_none_iff] at split
    rw [runFew_of_none now h]
    exact ih (p.after_step h) split (unread _ (not_prefix_of_splitAtFirst? split))

end Few

/-- What is captured before a word stops at the first place where the word stands. -/
theorem run_captureFew_of_splitAtFirst? {r : Reading text}
    (split : splitAtFirst? w r.place.after = some (before, behind)) :
    ∃ q s : Place text, r.place.after = before ++ q.after ∧ q.after = w ++ s.after ∧
      s.after = behind ∧
      (seq (capture (few anyChar)) (chars w)).run r some = some ⟨s, some ⟨r.place, q⟩⟩ := by
  obtain ⟨q, passed, word, first⟩ :=
    runFew_of_splitAtFirst? (fun _ => runChars_eq_none _) rfl split
  obtain ⟨s, last, read⟩ := runChars_of_after
    (fun s : Place text => some (⟨s, some ⟨r.place, q⟩⟩ : Reading text)) word
  exact ⟨q, s, passed, by rw [word, last], last, first _ read⟩

/-- Nothing is captured if the word does not follow. -/
theorem run_captureFew_eq_none {r : Reading text} (split : splitAtFirst? w r.place.after = none) :
    (seq (capture (few anyChar)) (chars w)).run r some = none :=
  runFew_eq_none (fun _ => runChars_eq_none _) rfl split

/-! ## Matches -/

variable {pattern : Pattern} {place : Place text}

theorem exists_matchAt_of_run {r : Reading text} (read : pattern.run ⟨place, none⟩ some = some r) :
    ∃ m, pattern.matchAt place = some m ∧ m.start = place ∧ m.stop = r.place ∧
      m.captured = r.captured := by
  unfold matchAt
  split
  · rename_i s found
    obtain rfl := Option.some.inj (found.symm.trans read)
    exact ⟨_, rfl, rfl, rfl, rfl⟩
  · rename_i stuck
    cases stuck.symm.trans read

theorem matchAt_of_run_eq_none (stuck : pattern.run ⟨place, none⟩ some = none) :
    pattern.matchAt place = none := by
  unfold matchAt
  split
  · rename_i found
    cases found.symm.trans stuck
  · rfl

end Pattern

end TemplatePaint
