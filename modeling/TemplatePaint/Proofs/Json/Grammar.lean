import TemplatePaint.Json.Reader

/-!
# The grammar of JSON

What is JSON, as a text: blanks, numbers, strings, and values of any shape
(`Written`). Each reader of a part takes just that part from the start of a
text: `number_append`, `string_append`, `key_append`, `colon_append`.

Between quotes stands a text, with its characters plain or escaped
(`Spells`). A strict spelling has a surrogate only as half of a pair.
-/

namespace TemplatePaint

namespace JsonText

/-! ## Blanks and words -/

/-- There are only blanks. -/
def Blank (cs : List Char) : Prop := ∀ c ∈ cs, isBetween c = true

theorem toPart_blank_append {w : List Char} (blank : Blank w) (cs : List Char) :
    toPart (w ++ cs) = toPart cs :=
  List.dropWhile_append_of_pos blank

theorem toPart_cons {c : Char} (cs : List Char) (part : isBetween c = false) :
    toPart (c :: cs) = c :: cs := by
  rw [toPart, List.dropWhile_cons_of_neg (by simp [part])]

theorem toPart_blank {w : List Char} (blank : Blank w) : toPart w = [] := by
  have rest := toPart_blank_append blank []
  rwa [List.append_nil] at rest

theorem keyword_append (word rest : List Char) : keyword word (word ++ rest) = .ok rest := by
  induction word with
  | nil => rfl
  | cons c word ih =>
    rw [List.cons_append, keyword, if_pos rfl]
    exact ih

/-- What follows a value: the end of the text, a blank, or what stands between values. -/
def Stops (rest : List Char) : Prop :=
  ∀ c ∈ rest.head?, isBetween c = true ∨ c = ',' ∨ c = ']' ∨ c = '}'

theorem stops_blank_append {w rest : List Char} (blank : Blank w) (stops : Stops rest) :
    Stops (w ++ rest) := by
  cases w with
  | nil => exact stops
  | cons c w =>
    intro d first
    obtain rfl := Option.some.inj first
    exact .inl (blank c List.mem_cons_self)

theorem stops_closing (bracket : Bracket) (rest : List Char) :
    Stops (bracket.closing :: rest) := by
  intro c first
  obtain rfl := Option.some.inj first
  cases bracket
  · exact .inr (.inr (.inl rfl))
  · exact .inr (.inr (.inr rfl))

theorem stops_comma (rest : List Char) : Stops (',' :: rest) := by
  intro c first
  obtain rfl := Option.some.inj first
  exact .inr (.inl rfl)

theorem isBetween_closing (bracket : Bracket) : isBetween bracket.closing = false := by
  cases bracket <;> rfl

/-! ## Numbers -/

/-- One or more digits. -/
def IsDigits (cs : List Char) : Prop := cs ≠ [] ∧ ∀ c ∈ cs, c.isDigit = true

/-- The whole part of a number. -/
inductive IsWhole : List Char → Prop
  | zero : IsWhole ['0']
  | digits {c : Char} {cs : List Char} (first : c ≠ '0') : IsDigits (c :: cs) → IsWhole (c :: cs)

/-- A point and the digits after it, or nothing. -/
inductive IsFraction : List Char → Prop
  | none : IsFraction []
  | digits {cs : List Char} : IsDigits cs → IsFraction ('.' :: cs)

/-- The exponent of a number, or nothing. -/
inductive IsExponent : List Char → Prop
  | none : IsExponent []
  | digits {e : Char} {sign cs : List Char} (letter : e = 'e' ∨ e = 'E')
      (signed : sign = [] ∨ sign = ['+'] ∨ sign = ['-']) :
      IsDigits cs → IsExponent (e :: (sign ++ cs))

/-- A number without a sign. -/
inductive IsMagnitude : List Char → Prop
  | parts {whole fraction exponent : List Char} :
      IsWhole whole → IsFraction fraction → IsExponent exponent →
      IsMagnitude (whole ++ (fraction ++ exponent))

/-- The digits of a number end here. -/
def NoDigit (rest : List Char) : Prop := ∀ c ∈ rest.head?, c.isDigit = false

theorem IsDigits.exists_cons {cs : List Char} (h : IsDigits cs) :
    ∃ c ds, cs = c :: ds ∧ c.isDigit = true := by
  obtain ⟨nonempty, all⟩ := h
  cases cs with
  | nil => exact absurd rfl nonempty
  | cons c ds => exact ⟨c, ds, rfl, all c List.mem_cons_self⟩

theorem digits_append {cs rest : List Char} (h : IsDigits cs) (stop : NoDigit rest)
    (atEnd : Fault) : digits atEnd (cs ++ rest) = .ok (cs, rest) := by
  obtain ⟨c, ds, rfl, digit⟩ := h.exists_cons
  have others : ∀ d ∈ ds, d.isDigit = true := fun d hd => h.2 d (List.mem_cons_of_mem _ hd)
  have taken : rest.takeWhile Char.isDigit = [] ∧ rest.dropWhile Char.isDigit = rest := by
    cases rest with
    | nil => exact ⟨rfl, rfl⟩
    | cons d rest => simp [stop d rfl]
  rw [List.cons_append, digits, if_pos digit, List.takeWhile_append_of_pos others,
    List.dropWhile_append_of_pos others, taken.1, taken.2, List.append_nil]

theorem wholePart_append {cs rest : List Char} (h : IsWhole cs) (stop : NoDigit rest)
    (atEnd : Fault) : wholePart atEnd (cs ++ rest) = .ok (cs, rest) := by
  cases h with
  | zero =>
    have none : rest.head?.any Char.isDigit = false := by
      cases rest with
      | nil => rfl
      | cons d rest => exact stop d rfl
    simp [wholePart, none]
  | digits first all =>
    rw [wholePart]
    · exact digits_append all stop atEnd
    · intro cs same
      exact first (List.cons.inj same).1

theorem fractionPart_append {cs rest : List Char} (h : IsFraction cs) (stop : NoDigit rest)
    (noPoint : ∀ c ∈ rest.head?, c ≠ '.') (atEnd : Fault) :
    ∃ digits, fractionPart atEnd (cs ++ rest) = .ok (digits, rest) := by
  cases h with
  | none =>
    refine ⟨[], ?_⟩
    rw [List.nil_append, fractionPart]
    rintro cs rfl
    exact noPoint '.' rfl rfl
  | digits all => exact ⟨_, digits_append all stop atEnd⟩

theorem exponentPart_append {cs rest : List Char} (h : IsExponent cs) (stop : NoDigit rest)
    (noLetter : ∀ c ∈ rest.head?, c ≠ 'e' ∧ c ≠ 'E') (atEnd : Fault) :
    ∃ exponent, exponentPart atEnd (cs ++ rest) = .ok (exponent, rest) := by
  cases h with
  | none =>
    cases rest with
    | nil => exact ⟨none, rfl⟩
    | cons c rest =>
      obtain ⟨small, large⟩ := noLetter c rfl
      exact ⟨none, by simp [exponentPart, small, large]⟩
  | @digits e sign ds letter signed all =>
    have read := digits_append all stop atEnd
    have begins : (e == 'e' || e == 'E') = true := by
      simpa using letter
    rcases signed with rfl | rfl | rfl
    · obtain ⟨c, ds, rfl, digit⟩ := all.exists_cons
      refine ⟨some (valueOf (c :: ds)), ?_⟩
      rw [List.cons_append, List.nil_append, exponentPart, if_pos begins, read]
      · rfl
      · rintro cs same
        rw [(List.cons.inj same).1] at digit
        simp at digit
      · rintro cs same
        rw [(List.cons.inj same).1] at digit
        simp at digit
    · exact ⟨_, (if_pos begins).trans (congrArg (Except.map _) read)⟩
    · exact ⟨_, (if_pos begins).trans (congrArg (Except.map _) read)⟩

/-- A magnitude starts with a digit. -/
theorem IsMagnitude.exists_cons {cs : List Char} (h : IsMagnitude cs) :
    ∃ c ds, cs = c :: ds ∧ c.isDigit = true := by
  obtain ⟨whole, fraction, exponent⟩ := h
  cases whole with
  | zero => exact ⟨'0', _, rfl, rfl⟩
  | digits first all => exact ⟨_, _, rfl, all.2 _ List.mem_cons_self⟩

theorem ne_of_isDigit {c d : Char} (digit : c.isDigit = true) (other : d.isDigit = false) :
    c ≠ d := by
  rintro rfl
  rw [digit] at other
  cases other

theorem isBetween_of_isDigit {c : Char} (digit : c.isDigit = true) : isBetween c = false := by
  simp only [isBetween, Bool.or_eq_false_iff, beq_eq_false_iff_ne]
  exact ⟨⟨⟨ne_of_isDigit digit (by decide), ne_of_isDigit digit (by decide)⟩,
    ne_of_isDigit digit (by decide)⟩, ne_of_isDigit digit (by decide)⟩

/-- What follows a value does not go on with a number. -/
theorem Stops.apart {rest : List Char} (stops : Stops rest) :
    ∀ c ∈ rest.head?, c.isDigit = false ∧ c ≠ '.' ∧ c ≠ 'e' ∧ c ≠ 'E' := by
  intro c first
  rcases stops c first with blank | rfl | rfl | rfl
  · simp only [isBetween, Bool.or_eq_true, beq_iff_eq] at blank
    rcases blank with ((rfl | rfl) | rfl) | rfl <;> decide
  all_goals decide

theorem number_append {cs rest : List Char} (h : IsMagnitude cs) (stops : Stops rest)
    (atEnd : Fault) : ∃ n, number atEnd (cs ++ rest) = .ok (n, rest) := by
  obtain ⟨whole, fraction, exponent⟩ := h
  rename_i ws fs es
  have behind := stops.apart
  have afterFraction : ∀ c ∈ (es ++ rest).head?, c.isDigit = false ∧ c ≠ '.' := by
    cases exponent with
    | none => exact fun c first => ⟨(behind c first).1, (behind c first).2.1⟩
    | digits letter =>
      intro c first
      obtain rfl := Option.some.inj first
      rcases letter with rfl | rfl <;> decide
  have afterWhole : NoDigit (fs ++ (es ++ rest)) := by
    cases fraction with
    | none => exact fun c first => (afterFraction c first).1
    | digits =>
      intro c first
      obtain rfl := Option.some.inj first
      decide
  obtain ⟨f, readFraction⟩ := fractionPart_append fraction
    (fun c first => (afterFraction c first).1) (fun c first => (afterFraction c first).2) atEnd
  obtain ⟨e, readExponent⟩ := exponentPart_append exponent (fun c first => (behind c first).1)
    (fun c first => (behind c first).2.2) atEnd
  rw [List.append_assoc, List.append_assoc, number, wholePart_append whole afterWhole]
  simp only [bind, Except.bind, readFraction, readExponent]
  exact ⟨_, rfl⟩

/-! ## Strings -/

/-- Four hexadecimal digits and the code point that they say. -/
inductive IsCode : Nat → List Char → Prop
  | digits {a b c d : Char} {i j k l : Nat} (first : hexDigit? a = some i)
      (second : hexDigit? b = some j) (third : hexDigit? c = some k)
      (fourth : hexDigit? d = some l) :
      IsCode (((i * 16 + j) * 16 + k) * 16 + l) [a, b, c, d]

/-- What follows a backslash, and the character that it stands for. -/
inductive Escapes (strict : Bool) : Char → List Char → Prop
  | named {c d : Char} (name : escapeOf? c = some d) : Escapes strict d [c]
  | code {n : Nat} {cs : List Char} (code : IsCode n cs)
      (whole : strict = true → n < 0xD800 ∨ 0xDFFF < n) :
      Escapes strict (Char.ofNat n) ('u' :: cs)
  | pair {high low : Nat} {cs ds : List Char} (paired : strict = true)
      (first : IsCode high cs) (isHigh : 0xD800 ≤ high ∧ high ≤ 0xDBFF)
      (second : IsCode low ds) (isLow : 0xDC00 ≤ low ∧ low ≤ 0xDFFF) :
      Escapes strict (Char.ofNat (0x10000 + (high - 0xD800) * 0x400 + (low - 0xDC00)))
        ('u' :: (cs ++ '\\' :: 'u' :: ds))

/-- A text, and how it can stand between quotes. -/
inductive Spells (strict : Bool) : List Char → List Char → Prop
  | nil : Spells strict [] []
  | plain {c : Char} {text body : List Char} (noQuote : c ≠ '"') (noEscape : c ≠ '\\')
      (noControl : 0x20 ≤ c.toNat) :
      Spells strict text body → Spells strict (c :: text) (c :: body)
  | escaped {c : Char} {cs text body : List Char} :
      Escapes strict c cs → Spells strict text body →
      Spells strict (c :: text) ('\\' :: (cs ++ body))

/-- A text without quotes, backslashes and controls can stand as it is. -/
theorem Spells.same {strict : Bool} {text : List Char}
    (plain : text.all (fun c => c ≠ '"' ∧ c ≠ '\\' ∧ 0x20 ≤ c.toNat) = true) :
    Spells strict text text := by
  induction text with
  | nil => exact .nil
  | cons c text ih =>
    rw [List.all_cons, Bool.and_eq_true, decide_eq_true_eq] at plain
    obtain ⟨⟨noQuote, noEscape, noControl⟩, later⟩ := plain
    exact .plain noQuote noEscape noControl (ih later)

theorem hexCode_append {n : Nat} {cs : List Char} (h : IsCode n cs) (rest : List Char) :
    hexCode (cs ++ rest) = .ok (n, rest) := by
  obtain ⟨first, second, third, fourth⟩ := h
  simp [hexCode, first, second, third, fourth]

theorem escape_append {strict : Bool} {c : Char} {cs : List Char} (h : Escapes strict c cs)
    (rest : List Char) : escape strict (cs ++ rest) = .ok (c, rest) := by
  cases h with
  | @named name _ named =>
    have other : name ≠ 'u' := by
      rintro rfl
      simp [escapeOf?] at named
    rw [List.cons_append, List.nil_append, escape, if_neg other, named]
  | @code n _ code whole =>
    rw [List.cons_append, escape, if_pos rfl, codePoint]
    simp only [hexCode_append code, bind, Except.bind]
    have low : (strict && decide (0xDC00 ≤ n) && decide (n ≤ 0xDFFF)) = false := by
      cases strict with
      | false => rfl
      | true => have := whole rfl; simp; omega
    have high : (strict && decide (0xD800 ≤ n) && decide (n ≤ 0xDBFF)) = false := by
      cases strict with
      | false => rfl
      | true => have := whole rfl; simp; omega
    simp [low, high, pure, Except.pure]
  | pair paired first isHigh second isLow =>
    subst paired
    rw [List.cons_append, List.append_assoc, escape, if_pos rfl, codePoint]
    simp only [hexCode_append first, bind, Except.bind]
    rw [if_neg (by simp; omega), if_pos (by simpa using isHigh)]
    simp only [List.cons_append, lowSurrogate, hexCode_append second, bind, Except.bind,
      if_pos isLow]
    rfl

theorem string_append {strict : Bool} {text body : List Char} (h : Spells strict text body)
    (rest : List Char) : string strict (body ++ '"' :: rest) = .ok (text, rest) := by
  induction h with
  | nil => rw [List.nil_append, string, if_pos rfl]
  | plain noQuote noEscape noControl _ ih =>
    rw [List.cons_append, string, if_neg noQuote, if_neg noEscape,
      if_neg (Nat.not_lt.2 noControl), ih]
    rfl
  | @escaped c cs text body escapes _ ih =>
    have read := escape_append escapes (body ++ '"' :: rest)
    rw [List.cons_append, List.append_assoc, string, if_neg (by decide), if_pos rfl]
    split
    · rename_i fault failed
      rw [read] at failed
      cases failed
    · rename_i d r done
      rw [read] at done
      cases done
      rw [ih]
      rfl

/-! ## Members -/

/-- A name, a colon and a value, as they stand in an object. -/
inductive IsMember (strict : Bool) (name value : List Char) : List Char → Prop
  | parts {w body w' w'' : List Char} (before : Blank w) (spelling : Spells strict name body)
      (between : Blank w') (behind : Blank w'') :
      IsMember strict name value (w ++ '"' :: (body ++ '"' :: (w' ++ ':' :: (w'' ++ value))))

theorem key_append {strict : Bool} {name body w : List Char} (before : Blank w)
    (spelling : Spells strict name body) (rest : List Char) :
    key strict (w ++ '"' :: (body ++ '"' :: rest)) = .ok (name, rest) := by
  rw [key, toPart_blank_append before, toPart_cons _ (by decide)]
  exact (if_pos rfl).trans (string_append spelling rest)

theorem colon_append {w : List Char} (before : Blank w) (rest : List Char) :
    colon (w ++ ':' :: rest) = .ok rest := by
  rw [colon, toPart_blank_append before, toPart_cons _ (by decide)]
  exact if_pos rfl

/-- A member starts with the quote of its name. -/
theorem IsMember.start {strict : Bool} {name value cs : List Char}
    (h : IsMember strict name value cs) (rest : List Char) :
    (toPart (cs ++ rest)).head? = some '"' := by
  obtain ⟨before, spelling, between, behind⟩ := h
  rw [List.append_assoc, toPart_blank_append before, List.cons_append, toPart_cons _ (by decide),
    List.head?_cons]

/-- The name of a member is read, then its colon; the value is left. -/
theorem key_member {strict : Bool} {name value cs : List Char} (h : IsMember strict name value cs)
    (rest : List Char) : ∃ after w, key strict (cs ++ rest) = .ok (name, after) ∧ Blank w ∧
      colon after = .ok (w ++ (value ++ rest)) := by
  obtain ⟨before, spelling, between, behind⟩ := h
  rename_i w body w' w''
  refine ⟨w' ++ ':' :: (w'' ++ (value ++ rest)), w'', ?_, behind, colon_append between _⟩
  rw [← key_append before spelling]
  simp only [List.append_assoc, List.cons_append]

/-! ## Values -/

/-- The character that opens a bracket. -/
def Bracket.opening : Bracket → Char
  | .list => '['
  | .object => '{'

/-- What a part of a value is. -/
inductive Form where
  /-- A value. -/
  | value
  /-- An entry of a bracket: a value, in an object with its name. -/
  | entry (bracket : Bracket)
  /-- All that stands in a bracket with entries. -/
  | entries (bracket : Bracket)

/-- The text is JSON of this form. -/
inductive Written : Form → List Char → Prop
  | word {word : String} (known : word ∈ ["null", "true", "false"]) : Written .value word.toList
  | number {cs : List Char} : IsMagnitude cs → Written .value cs
  | negative {cs : List Char} : IsMagnitude cs → Written .value ('-' :: cs)
  | string {text body : List Char} :
      Spells false text body → Written .value ('"' :: (body ++ ['"']))
  | empty {bracket : Bracket} {w : List Char} (inside : Blank w) :
      Written .value (bracket.opening :: (w ++ [bracket.closing]))
  | full {bracket : Bracket} {cs : List Char} :
      Written (.entries bracket) cs → Written .value (bracket.opening :: (cs ++ [bracket.closing]))
  | item {w cs : List Char} (before : Blank w) :
      Written .value cs → Written (.entry .list) (w ++ cs)
  | member {name value cs : List Char} (parts : IsMember false name value cs) :
      Written .value value → Written (.entry .object) cs
  | last {bracket : Bracket} {cs w : List Char} (behind : Blank w) :
      Written (.entry bracket) cs → Written (.entries bracket) (cs ++ w)
  | more {bracket : Bracket} {cs w ds : List Char} (behind : Blank w) :
      Written (.entry bracket) cs → Written (.entries bracket) ds →
      Written (.entries bracket) (cs ++ (w ++ ',' :: ds))

/-! ## Objects by their members -/

/-- What stands in an object with these members, each a name and the text of its value. -/
inductive WrittenMembers : List (List Char × List Char) → List Char → Prop
  | last {name value cs w : List Char} (parts : IsMember true name value cs)
      (json : Written .value value) (behind : Blank w) : WrittenMembers [(name, value)] (cs ++ w)
  | more {name value cs w ds : List Char} {ms : List (List Char × List Char)}
      (parts : IsMember true name value cs) (json : Written .value value) (behind : Blank w) :
      WrittenMembers ms ds → WrittenMembers ((name, value) :: ms) (cs ++ (w ++ ',' :: ds))

/-- A text that is an object with these members. -/
inductive WrittenObject : List (List Char × List Char) → List Char → Prop
  | empty {w w' w'' : List Char} (before : Blank w) (inside : Blank w') (behind : Blank w'') :
      WrittenObject [] (w ++ '{' :: (w' ++ '}' :: w''))
  | full {ms : List (List Char × List Char)} {w cs w' : List Char} (before : Blank w)
      (behind : Blank w') :
      WrittenMembers ms cs → WrittenObject ms (w ++ '{' :: (cs ++ '}' :: w'))

theorem WrittenMembers.start {ms : List (List Char × List Char)} {cs : List Char}
    (h : WrittenMembers ms cs) (rest : List Char) : (toPart (cs ++ rest)).head? = some '"' := by
  cases h with
  | last parts | more parts => rw [List.append_assoc, parts.start]

end JsonText

end TemplatePaint
