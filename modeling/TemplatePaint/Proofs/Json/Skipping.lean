import TemplatePaint.Proofs.Json.Grammar

/-!
# Passing over values

What is JSON is passed over whole, whatever its shape and however deep
(`skipValue_append`). First, what the skipper does at each character that it
can meet between values; then, by induction on the text, that it gets from the
start of every part to its end with the same brackets open (`passed`).
-/

namespace TemplatePaint

namespace JsonText

/-! ## What the skipper does next -/

/-- Gets to the value of an entry: in an object its name is passed over. -/
def startEntry : Bracket → List Char → Except Fault (List Char)
  | .list, cs => .ok cs
  | .object, cs => skipKey cs

theorem skipFrom_more (cs : List Char) : skipFrom [] .more cs = .ok cs := by
  rw [skipFrom]

/-- What is done behind a value hangs on the first character. -/
theorem skipFrom_behind {bracket : Bracket} {outer : List Bracket} {c : Char}
    {cs rest : List Char} (next : toPart cs = c :: rest) :
    skipFrom (bracket :: outer) .more cs =
      if c = bracket.closing then skipFrom outer .more rest
      else if c = ',' then startEntry bracket rest >>= skipFrom (bracket :: outer) .value
      else .error .malformed := by
  rw [skipFrom]
  split
  · rename_i ended
    rw [next] at ended
    cases ended
  · rename_i d r found
    obtain ⟨rfl, rfl⟩ := List.cons.inj (next.symm.trans found)
    refine ite_congr rfl (fun _ => rfl) fun _ => ite_congr rfl (fun _ => ?_) fun _ => rfl
    cases bracket with
    | list => rfl
    | object =>
      dsimp only [startEntry]
      split <;> rename_i read <;> rw [read] <;> rfl

theorem skipFrom_closing {w : List Char} (blank : Blank w) (bracket : Bracket)
    (outer : List Bracket) (rest : List Char) :
    skipFrom (bracket :: outer) .more (w ++ bracket.closing :: rest) =
      skipFrom outer .more rest := by
  rw [skipFrom_behind ((toPart_blank_append blank _).trans
    (toPart_cons rest (isBetween_closing bracket))), if_pos rfl]

theorem skipFrom_comma {w : List Char} (blank : Blank w) (bracket : Bracket)
    (outer : List Bracket) (rest : List Char) :
    skipFrom (bracket :: outer) .more (w ++ ',' :: rest) =
      startEntry bracket rest >>= skipFrom (bracket :: outer) .value := by
  have other : ',' ≠ bracket.closing := by cases bracket <;> decide
  rw [skipFrom_behind ((toPart_blank_append blank _).trans (toPart_cons rest rfl)),
    if_neg other, if_pos rfl]

/-- Passes over a bracket that is just opened, and goes on behind it. -/
def skipBracket (opened : List Bracket) (bracket : Bracket) (cs : List Char) :
    Except Fault (List Char) :=
  if (toPart cs).head? = some bracket.closing then skipFrom opened .more (toPart cs).tail
  else startEntry bracket cs >>= skipFrom (bracket :: opened) .value

/-- What is done at a value hangs on its first character. -/
theorem skipFrom_value {opened : List Bracket} {c : Char} {cs rest : List Char}
    (next : toPart cs = c :: rest) : skipFrom opened .value cs =
      if c = '[' then skipBracket opened .list rest
      else if c = '{' then skipBracket opened .object rest
      else skipScalar c rest >>= skipFrom opened .more := by
  have entered {bracket : Bracket} {cs : List Char}
      (other : ∀ r, toPart cs = bracket.closing :: r → False) :
      skipBracket opened bracket cs =
        startEntry bracket cs >>= skipFrom (bracket :: opened) .value :=
    if_neg fun first => (List.head?_eq_some_iff.1 first).elim other
  rw [skipFrom]
  split
  · rename_i ended
    rw [next] at ended
    cases ended
  · rename_i d r found
    obtain ⟨rfl, rfl⟩ := List.cons.inj (next.symm.trans found)
    by_cases list : c = '['
    · rw [if_pos list, if_pos list]
      split
      · rename_i inside
        rw [skipBracket, inside]
        rfl
      · rename_i inside
        rw [entered inside]
        rfl
    · rw [if_neg list, if_neg list]
      by_cases object : c = '{'
      · rw [if_pos object, if_pos object]
        split
        · rename_i inside
          rw [skipBracket, inside]
          rfl
        · rename_i inside
          rw [entered inside, startEntry]
          split <;> rename_i read <;> rw [read] <;> rfl
      · rw [if_neg object, if_neg object]
        split <;> rename_i read <;> rw [read] <;> rfl

theorem skipFrom_blank {w : List Char} (blank : Blank w) (opened : List Bracket)
    {cs : List Char} {c : Char} (next : (toPart cs).head? = some c) :
    skipFrom opened .value (w ++ cs) = skipFrom opened .value cs := by
  obtain ⟨rest, next⟩ := List.head?_eq_some_iff.1 next
  rw [skipFrom_value next, skipFrom_value ((toPart_blank_append blank cs).trans next)]

/-! ## Values -/

/-- What JSON of a form starts with is no blank and closes nothing. -/
theorem Written.start {form : Form} {cs : List Char} (h : Written form cs) :
    ∃ c, c ≠ ']' ∧ c ≠ '}' ∧ ∀ rest, (toPart (cs ++ rest)).head? = some c := by
  have here {c : Char} (ds : List Char) (part : isBetween c = false) (noList : c ≠ ']')
      (noObject : c ≠ '}') :
      ∃ d, d ≠ ']' ∧ d ≠ '}' ∧ ∀ rest, (toPart (c :: ds ++ rest)).head? = some d :=
    ⟨c, noList, noObject, fun rest => congrArg List.head? (toPart_cons _ part)⟩
  induction h with
  | word known =>
    simp only [List.mem_cons, List.not_mem_nil, or_false] at known
    rcases known with rfl | rfl | rfl <;> exact here _ (by decide) (by decide) (by decide)
  | number magnitude =>
    obtain ⟨c, ds, rfl, digit⟩ := magnitude.exists_cons
    exact here ds (isBetween_of_isDigit digit) (ne_of_isDigit digit (by decide))
      (ne_of_isDigit digit (by decide))
  | negative => exact here _ (by decide) (by decide) (by decide)
  | string => exact here _ (by decide) (by decide) (by decide)
  | @empty bracket => cases bracket <;> exact here _ (by decide) (by decide) (by decide)
  | @full bracket => cases bracket <;> exact here _ (by decide) (by decide) (by decide)
  | item before _ ih =>
    obtain ⟨c, noList, noObject, start⟩ := ih
    refine ⟨c, noList, noObject, fun rest => ?_⟩
    rw [List.append_assoc, toPart_blank_append before, start]
  | member parts => exact ⟨'"', by decide, by decide, parts.start⟩
  | last _ _ ih =>
    obtain ⟨c, noList, noObject, start⟩ := ih
    exact ⟨c, noList, noObject, fun rest => by rw [List.append_assoc, start]⟩
  | more _ _ _ ih =>
    obtain ⟨c, noList, noObject, start⟩ := ih
    exact ⟨c, noList, noObject, fun rest => by rw [List.append_assoc, start]⟩

theorem skipScalar_digit {c : Char} (digit : c.isDigit = true) (cs : List Char) :
    skipScalar c cs = (number .malformed (c :: cs)).map (·.2) := by
  rw [skipScalar, if_neg (ne_of_isDigit digit (by decide)),
    if_neg (ne_of_isDigit digit (by decide)), if_neg (ne_of_isDigit digit (by decide)),
    if_neg (ne_of_isDigit digit (by decide)), if_neg (ne_of_isDigit digit (by decide)),
    if_pos digit]

/-- What is no bracket is passed over by its own reader. -/
theorem skipFrom_scalar {c : Char} {cs rest : List Char} (part : isBetween c = false)
    (noList : c ≠ '[') (noObject : c ≠ '{') (read : skipScalar c cs = .ok rest)
    (opened : List Bracket) : skipFrom opened .value (c :: cs) = skipFrom opened .more rest := by
  rw [skipFrom_value (toPart_cons cs part), if_neg noList, if_neg noObject, read]
  rfl

theorem skipFrom_opening (bracket : Bracket) (opened : List Bracket) (cs : List Char) :
    skipFrom opened .value (bracket.opening :: cs) = skipBracket opened bracket cs := by
  cases bracket <;> exact skipFrom_value (toPart_cons cs (by decide))

/-- How the skipper passes over JSON of a form: a value leaves it where it was, an entry in its
bracket, and the entries behind it. -/
def Passes : Form → List Char → Prop
  | .value, cs => ∀ opened rest, Stops rest →
      skipFrom opened .value (cs ++ rest) = skipFrom opened .more rest
  | .entry bracket, cs => ∀ outer rest, Stops rest →
      startEntry bracket (cs ++ rest) >>= skipFrom (bracket :: outer) .value =
        skipFrom (bracket :: outer) .more rest
  | .entries bracket, cs => ∀ outer rest,
      startEntry bracket (cs ++ bracket.closing :: rest) >>= skipFrom (bracket :: outer) .value =
        skipFrom outer .more rest

theorem passed {form : Form} {cs : List Char} (h : Written form cs) : Passes form cs := by
  induction h with
  | word known =>
    intro opened rest _
    have scalar {c : Char} (word : List Char) (skip : ∀ cs, skipScalar c cs = keyword word cs) :
        skipScalar c (word ++ rest) = .ok rest := (skip _).trans (keyword_append word rest)
    simp only [List.mem_cons, List.not_mem_nil, or_false] at known
    rcases known with rfl | rfl | rfl
    · exact skipFrom_scalar (by decide) (by decide) (by decide)
        (scalar "ull".toList fun _ => rfl) opened
    · exact skipFrom_scalar (by decide) (by decide) (by decide)
        (scalar "rue".toList fun _ => rfl) opened
    · exact skipFrom_scalar (by decide) (by decide) (by decide)
        (scalar "alse".toList fun _ => rfl) opened
  | number magnitude =>
    intro opened rest stops
    obtain ⟨n, read⟩ := number_append magnitude stops .malformed
    obtain ⟨c, ds, rfl, digit⟩ := magnitude.exists_cons
    refine skipFrom_scalar (isBetween_of_isDigit digit) (ne_of_isDigit digit (by decide))
      (ne_of_isDigit digit (by decide)) ?_ opened
    rw [skipScalar_digit digit]
    exact congrArg (Except.map _) read
  | negative magnitude =>
    intro opened rest stops
    obtain ⟨n, read⟩ := number_append magnitude stops .malformed
    refine skipFrom_scalar (by decide) (by decide) (by decide) ?_ opened
    exact congrArg (Except.map _) read
  | string spelling =>
    intro opened rest _
    rw [List.cons_append, List.append_assoc]
    refine skipFrom_scalar (by decide) (by decide) (by decide) ?_ opened
    exact congrArg (Except.map _) (string_append spelling rest)
  | @empty bracket w inside =>
    intro opened rest _
    have next : toPart (w ++ [bracket.closing] ++ rest) = bracket.closing :: rest := by
      rw [List.append_assoc, toPart_blank_append inside]
      exact toPart_cons rest (isBetween_closing bracket)
    rw [List.cons_append, skipFrom_opening, skipBracket, next]
    exact if_pos rfl
  | @full bracket cs written ih =>
    intro opened rest _
    -- the first entry does not close the bracket
    obtain ⟨c, noList, noObject, start⟩ := written.start
    rw [List.cons_append, skipFrom_opening, skipBracket, List.append_assoc, start, if_neg]
    · exact ih opened rest
    · cases bracket
      · exact fun same => noList (Option.some.inj same)
      · exact fun same => noObject (Option.some.inj same)
  | @item w cs before written ih =>
    intro outer rest stops
    obtain ⟨c, -, -, start⟩ := written.start
    rw [List.append_assoc]
    exact (skipFrom_blank before _ (start rest)).trans (ih _ rest stops)
  | member parts written ih =>
    intro outer rest stops
    obtain ⟨c, -, -, start⟩ := written.start
    obtain ⟨after, w, readName, blank, readColon⟩ := key_member parts rest
    rw [startEntry, skipKey, readName]
    simp only [bind, Except.bind, readColon]
    exact (skipFrom_blank blank _ (start rest)).trans (ih _ rest stops)
  | @last bracket cs w behind _ ih =>
    intro outer rest
    rw [List.append_assoc]
    exact (ih outer _ (stops_blank_append behind (stops_closing bracket rest))).trans
      (skipFrom_closing behind bracket outer rest)
  | @more bracket cs w ds behind _ _ ih ih' =>
    intro outer rest
    rw [List.append_assoc, List.append_assoc, List.cons_append]
    exact (ih outer _ (stops_blank_append behind (stops_comma _))).trans
      ((skipFrom_comma behind bracket outer _).trans (ih' outer rest))

/-- JSON is passed over up to its end. -/
theorem skipValue_append {w cs rest : List Char} (before : Blank w) (written : Written .value cs)
    (stops : Stops rest) : skipValue (w ++ (cs ++ rest)) = .ok rest := by
  obtain ⟨c, -, -, start⟩ := written.start
  rw [skipValue, skipFrom_blank before _ (start rest), passed written [] rest stops, skipFrom_more]

end JsonText

end TemplatePaint
