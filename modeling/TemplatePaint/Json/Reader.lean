import TemplatePaint.Json.Number

/-!
# Reading JSON text

Strict readers for the parts of a JSON text. Each takes characters from the
start of a list and gives what is left, or the first fault that it meets,
going from left to right. `skipValue` passes over a value of any shape without
looking at what it says; it keeps the brackets that are open in a list, the
innermost first.

* `length_lt_of_number`, `length_lt_of_string`, `length_lt_of_skipScalar` and
  `length_lt_of_skipKey`: a reader that succeeds has taken a character.
-/

namespace TemplatePaint

/-- Why a text could not be read. -/
inductive Fault where
  /-- The text is no JSON. -/
  | malformed
  /-- The text ends too early. -/
  | endsEarly
  /-- The text says something else than what was to be read. -/
  | mismatch
deriving DecidableEq

namespace JsonText

/-! ## Blanks and words -/

/-- The characters that may stand between the parts of a JSON text. -/
def isBetween (c : Char) : Bool := c == ' ' || c == '\n' || c == '\t' || c == '\r'

/-- The text from the next part on. -/
def toPart (cs : List Char) : List Char := cs.dropWhile isBetween

theorem length_toPart_le (cs : List Char) : (toPart cs).length ≤ cs.length :=
  (List.dropWhile_sublist _).length_le

theorem length_lt_of_toPart {c : Char} {cs rest : List Char} (h : toPart cs = c :: rest) :
    rest.length < cs.length := by
  have := length_toPart_le cs
  rw [h, List.length_cons] at this
  omega

/-- Reads the characters of a word. -/
def keyword : (word cs : List Char) → Except Fault (List Char)
  | [], cs => .ok cs
  | _ :: _, [] => .error .endsEarly
  | w :: ws, c :: cs => if w = c then keyword ws cs else .error .malformed

theorem length_le_of_keyword {word cs rest : List Char} (h : keyword word cs = .ok rest) :
    rest.length ≤ cs.length := by
  induction word generalizing cs with
  | nil => cases h; exact Nat.le_refl _
  | cons w ws ih =>
    cases cs with
    | nil => simp [keyword] at h
    | cons c cs =>
      rw [keyword] at h
      split at h
      · exact Nat.le_succ_of_le (ih h)
      · simp at h

/-! ## Numbers -/

/-- Reads one or more digits; `atEnd` is the fault if the text ends before them. -/
def digits (atEnd : Fault) : List Char → Except Fault (List Char × List Char)
  | [] => .error atEnd
  | c :: cs =>
    if c.isDigit then .ok (c :: cs.takeWhile Char.isDigit, cs.dropWhile Char.isDigit)
    else .error .malformed

/-- Reads the whole part of a number: zero, or digits that do not start with zero. -/
def wholePart (atEnd : Fault) : List Char → Except Fault (List Char × List Char)
  | '0' :: cs => if cs.head?.any Char.isDigit then .error .malformed else .ok (['0'], cs)
  | cs => digits atEnd cs

/-- Reads a point and the digits after it, if there is a point. -/
def fractionPart (atEnd : Fault) : List Char → Except Fault (List Char × List Char)
  | '.' :: cs => digits atEnd cs
  | cs => .ok ([], cs)

/-- Reads the exponent of a number, if there is one. -/
def exponentPart (atEnd : Fault) : List Char → Except Fault (Option Int × List Char)
  | e :: cs =>
    if e == 'e' || e == 'E' then
      match cs with
      | '-' :: cs => (digits atEnd cs).map fun d => (some (-(valueOf d.1 : Int)), d.2)
      | '+' :: cs => (digits atEnd cs).map fun d => (some (valueOf d.1), d.2)
      | cs => (digits atEnd cs).map fun d => (some (valueOf d.1), d.2)
    else .ok (none, e :: cs)
  | [] => .ok (none, [])

/-- Reads a number without a sign; `atEnd` is the fault if the text ends before it is one. -/
def number (atEnd : Fault) (cs : List Char) : Except Fault (Numeral × List Char) := do
  let (whole, rest) ← wholePart atEnd cs
  let (fraction, rest) ← fractionPart atEnd rest
  let (exponent, rest) ← exponentPart atEnd rest
  return (⟨whole, fraction, exponent⟩, rest)

theorem length_lt_of_digits {atEnd : Fault} {cs : List Char} {r : List Char × List Char}
    (h : digits atEnd cs = .ok r) : r.2.length < cs.length := by
  cases cs with
  | nil => simp [digits] at h
  | cons c cs =>
    rw [digits] at h
    split at h
    · rw [← Except.ok.inj h, List.length_cons]
      exact Nat.lt_succ_of_le (List.dropWhile_sublist _).length_le
    · simp at h

theorem length_lt_of_wholePart {atEnd : Fault} {cs : List Char} {r : List Char × List Char}
    (h : wholePart atEnd cs = .ok r) : r.2.length < cs.length := by
  unfold wholePart at h
  split at h
  · split at h
    · simp at h
    · simp [← Except.ok.inj h]
  · exact length_lt_of_digits h

theorem length_le_of_fractionPart {atEnd : Fault} {cs : List Char} {r : List Char × List Char}
    (h : fractionPart atEnd cs = .ok r) : r.2.length ≤ cs.length := by
  unfold fractionPart at h
  split at h
  · exact Nat.le_succ_of_le (Nat.le_of_lt (length_lt_of_digits h))
  · exact Except.ok.inj h ▸ Nat.le_refl _

theorem length_lt_of_map_digits {atEnd : Fault} {cs : List Char} {r : Option Int × List Char}
    {f : List Char × List Char → Option Int × List Char} (hf : ∀ d, (f d).2 = d.2)
    (h : (digits atEnd cs).map f = .ok r) : r.2.length < cs.length := by
  cases hd : digits atEnd cs with
  | error fault => simp [hd, Except.map] at h
  | ok d =>
    simp only [hd, Except.map, Except.ok.injEq] at h
    rw [← h, hf]
    exact length_lt_of_digits hd

theorem length_le_of_exponentPart {atEnd : Fault} {cs : List Char} {r : Option Int × List Char}
    (h : exponentPart atEnd cs = .ok r) : r.2.length ≤ cs.length := by
  unfold exponentPart at h
  split at h
  · split at h
    · split at h <;> have := length_lt_of_map_digits (fun _ => rfl) h <;>
        simp only [List.length_cons] at * <;> omega
    · exact Except.ok.inj h ▸ Nat.le_refl _
  · exact Except.ok.inj h ▸ Nat.le_refl _

theorem length_lt_of_number {atEnd : Fault} {cs : List Char} {r : Numeral × List Char}
    (h : number atEnd cs = .ok r) : r.2.length < cs.length := by
  simp only [number, bind, Except.bind] at h
  split at h
  · simp at h
  · rename_i w hw
    split at h
    · simp at h
    · rename_i f hf
      split at h
      · simp at h
      · rename_i e he
        have := length_lt_of_wholePart hw
        have := length_le_of_fractionPart hf
        have := length_le_of_exponentPart he
        rw [← Except.ok.inj h]
        dsimp only
        omega

/-! ## Strings -/

/-- The value of a hexadecimal digit. -/
def hexDigit? (c : Char) : Option Nat :=
  if c.isDigit then some (c.toNat - 48)
  else if 'a' ≤ c ∧ c ≤ 'f' then some (c.toNat - 87)
  else if 'A' ≤ c ∧ c ≤ 'F' then some (c.toNat - 55)
  else none

/-- Reads four hexadecimal digits. They take four bytes, so the text ends too early if it has
fewer bytes left. -/
def hexCode : List Char → Except Fault (Nat × List Char)
  | a :: b :: c :: d :: cs =>
    match hexDigit? a, hexDigit? b, hexDigit? c, hexDigit? d with
    | some a, some b, some c, some d => .ok (((a * 16 + b) * 16 + c) * 16 + d, cs)
    | _, _, _, _ => .error .malformed
  | cs => .error (if (String.ofList cs).utf8ByteSize < 4 then .endsEarly else .malformed)

/-- Reads the second half of a surrogate pair, and gives the character of the pair. -/
def lowSurrogate (high : Nat) : List Char → Except Fault (Char × List Char)
  | [] | ['\\'] => .error .endsEarly
  | '\\' :: 'u' :: cs => do
    let (low, rest) ← hexCode cs
    if 0xDC00 ≤ low ∧ low ≤ 0xDFFF then
      return (Char.ofNat (0x10000 + (high - 0xD800) * 0x400 + (low - 0xDC00)), rest)
    else throw .malformed
  | _ => .error .malformed

/-- Reads an escaped code point. A strict reader takes a surrogate only as half of a pair; where
nobody looks at the text, it may stand alone. -/
def codePoint (strict : Bool) (cs : List Char) : Except Fault (Char × List Char) := do
  let (n, rest) ← hexCode cs
  if strict && 0xDC00 ≤ n && n ≤ 0xDFFF then throw .malformed
  else if strict && 0xD800 ≤ n && n ≤ 0xDBFF then lowSurrogate n rest
  else return (Char.ofNat n, rest)

/-- The character that a backslash and a letter stand for. -/
def escapeOf? (c : Char) : Option Char :=
  match c with
  | '"' => '"' | '\\' => '\\' | '/' => '/'
  | 'b' => '\x08' | 'f' => '\x0c' | 'n' => '\n' | 'r' => '\r' | 't' => '\t'
  | _ => none

/-- Reads what follows a backslash. -/
def escape (strict : Bool) : List Char → Except Fault (Char × List Char)
  | [] => .error .endsEarly
  | c :: cs =>
    if c = 'u' then codePoint strict cs
    else
      match escapeOf? c with
      | some d => .ok (d, cs)
      | none => .error .malformed

theorem length_lt_of_hexCode {cs : List Char} {r : Nat × List Char} (h : hexCode cs = .ok r) :
    r.2.length < cs.length := by
  unfold hexCode at h
  split at h
  · split at h
    · simp only [← Except.ok.inj h, List.length_cons]
      omega
    · simp at h
  · simp at h

theorem length_lt_of_lowSurrogate {high : Nat} {cs : List Char} {r : Char × List Char}
    (h : lowSurrogate high cs = .ok r) : r.2.length < cs.length := by
  unfold lowSurrogate at h
  split at h
  · simp at h
  · simp at h
  · simp only [bind, Except.bind] at h
    split at h
    · simp at h
    · rename_i low hl
      have := length_lt_of_hexCode hl
      split at h
      · simp only [← Except.ok.inj h, List.length_cons]
        omega
      · simp [throw, throwThe, MonadExceptOf.throw] at h
  · simp at h

theorem length_lt_of_codePoint {strict : Bool} {cs : List Char} {r : Char × List Char}
    (h : codePoint strict cs = .ok r) : r.2.length < cs.length := by
  simp only [codePoint, bind, Except.bind] at h
  split at h
  · simp at h
  · rename_i n hn
    have := length_lt_of_hexCode hn
    split at h
    · simp [throw, throwThe, MonadExceptOf.throw] at h
    · split at h
      · exact Nat.lt_trans (length_lt_of_lowSurrogate h) this
      · exact Except.ok.inj h ▸ this

theorem length_lt_of_escape {strict : Bool} {cs : List Char} {r : Char × List Char}
    (h : escape strict cs = .ok r) : r.2.length < cs.length := by
  cases cs with
  | nil => simp [escape] at h
  | cons d ds =>
    rw [escape] at h
    split at h
    · exact Nat.lt_succ_of_lt (length_lt_of_codePoint h)
    · split at h
      · simp [← Except.ok.inj h]
      · simp at h

/-- Reads a string whose opening quote is taken, up to and with its closing quote. -/
def string (strict : Bool) : List Char → Except Fault (List Char × List Char)
  | [] => .error .endsEarly
  | c :: cs =>
    if c = '"' then .ok ([], cs)
    else if c = '\\' then
      match _h : escape strict cs with
      | .error fault => .error fault
      | .ok (d, rest) => (string strict rest).map fun s => (d :: s.1, s.2)
    else if c.toNat < 0x20 then .error .malformed
    else (string strict cs).map fun s => (c :: s.1, s.2)
termination_by cs => cs.length
decreasing_by
  · exact Nat.lt_succ_of_lt (length_lt_of_escape ‹_›)
  · exact Nat.lt_succ_self _

theorem length_lt_of_string {strict : Bool} {cs : List Char} {r : List Char × List Char}
    (h : string strict cs = .ok r) : r.2.length < cs.length := by
  fun_induction string strict cs generalizing r with
  | case1 => simp at h
  | case2 => simp [← Except.ok.inj h]
  | case3 => simp at h
  | case4 cs d rest he _ ih =>
    cases hs : string strict rest with
    | error fault => simp [hs, Except.map] at h
    | ok s =>
      simp only [hs, Except.map, Except.ok.injEq] at h
      have := ih hs
      have hr := length_lt_of_escape he
      dsimp only at hr
      simp only [← h, List.length_cons]
      omega
  | case5 => simp at h
  | case6 c cs _ _ _ ih =>
    cases hs : string strict cs with
    | error fault => simp [hs, Except.map] at h
    | ok s =>
      simp only [hs, Except.map, Except.ok.injEq] at h
      have := ih hs
      simp only [← h, List.length_cons]
      omega

/-! ## Values that are passed over -/

/-- Passes over a value that is no list and no object, at the character `c`. -/
def skipScalar (c : Char) (cs : List Char) : Except Fault (List Char) :=
  if c = 'n' then keyword "ull".toList cs
  else if c = 't' then keyword "rue".toList cs
  else if c = 'f' then keyword "alse".toList cs
  else if c = '"' then (string false cs).map (·.2)
  else if c = '-' then (number .malformed cs).map (·.2)
  else if c.isDigit then (number .malformed (c :: cs)).map (·.2)
  else .error .malformed

/-- Reads the colon after a key. -/
def colon (cs : List Char) : Except Fault (List Char) :=
  match toPart cs with
  | [] => .error .endsEarly
  | c :: rest => if c = ':' then .ok rest else .error .malformed

/-- Reads a key, without the colon. -/
def key (strict : Bool) (cs : List Char) : Except Fault (List Char × List Char) :=
  match toPart cs with
  | [] => .error .endsEarly
  | c :: rest => if c = '"' then string strict rest else .error .malformed

/-- Passes over a key and its colon. -/
def skipKey (cs : List Char) : Except Fault (List Char) := do
  let (_, rest) ← key false cs
  colon rest

theorem length_le_of_skipScalar {c : Char} {cs rest : List Char} (h : skipScalar c cs = .ok rest) :
    rest.length ≤ cs.length := by
  have map_snd {α : Type} {e : Except Fault (α × List Char)} (h : e.map (·.2) = .ok rest) :
      ∃ r, e = .ok r ∧ r.2 = rest := by
    cases e with
    | error fault => simp [Except.map] at h
    | ok p => exact ⟨p, rfl, Except.ok.inj h⟩
  unfold skipScalar at h
  split at h
  · exact length_le_of_keyword h
  split at h
  · exact length_le_of_keyword h
  split at h
  · exact length_le_of_keyword h
  split at h
  · obtain ⟨s, hs, rfl⟩ := map_snd h
    exact Nat.le_of_lt (length_lt_of_string hs)
  split at h
  · obtain ⟨n, hn, rfl⟩ := map_snd h
    exact Nat.le_of_lt (length_lt_of_number hn)
  split at h
  · obtain ⟨n, hn, rfl⟩ := map_snd h
    exact Nat.le_of_lt_succ (length_lt_of_number hn)
  · simp at h

theorem length_lt_of_colon {cs rest : List Char} (h : colon cs = .ok rest) :
    rest.length < cs.length := by
  unfold colon at h
  split at h
  · simp at h
  · rename_i c r hc
    split at h
    · exact Except.ok.inj h ▸ length_lt_of_toPart hc
    · simp at h

theorem length_lt_of_key {strict : Bool} {cs : List Char} {r : List Char × List Char}
    (h : key strict cs = .ok r) : r.2.length < cs.length := by
  unfold key at h
  split at h
  · simp at h
  · rename_i c r hc
    split at h
    · exact Nat.lt_trans (length_lt_of_string h) (length_lt_of_toPart hc)
    · simp at h

theorem length_lt_of_skipKey {cs rest : List Char} (h : skipKey cs = .ok rest) :
    rest.length < cs.length := by
  simp only [skipKey, bind, Except.bind] at h
  split at h
  · simp at h
  · rename_i k hk
    exact Nat.lt_trans (length_lt_of_colon h) (length_lt_of_key hk)

/-- A bracket that is open. -/
inductive Bracket where
  | list
  | object
deriving DecidableEq

/-- The character that closes a bracket. -/
def Bracket.closing : Bracket → Char
  | .list => ']'
  | .object => '}'

/-- What stands next when values are passed over. -/
inductive Expected where
  /-- A value. -/
  | value
  /-- What follows a value in the innermost bracket. -/
  | more
deriving DecidableEq

/-- Passes over what is expected and all that follows it, up to the end of the outermost of the
open brackets. -/
def skipFrom (opened : List Bracket) (expected : Expected) (cs : List Char) :
    Except Fault (List Char) :=
  match expected with
  | .more =>
    match opened with
    | [] => .ok cs
    | bracket :: outer =>
      match _h : toPart cs with
      | [] => .error .endsEarly
      | c :: rest =>
        if c = bracket.closing then skipFrom outer .more rest
        else if c = ',' then
          match bracket with
          | .list => skipFrom (.list :: outer) .value rest
          | .object =>
            match _hk : skipKey rest with
            | .error fault => .error fault
            | .ok rest => skipFrom (.object :: outer) .value rest
        else .error .malformed
  | .value =>
    match _h : toPart cs with
    | [] => .error .endsEarly
    | c :: rest =>
      if c = '[' then
        match _hr : toPart rest with
        | ']' :: rest => skipFrom opened .more rest
        | _ => skipFrom (.list :: opened) .value rest
      else if c = '{' then
        match _hr : toPart rest with
        | '}' :: rest => skipFrom opened .more rest
        | _ =>
          match _hk : skipKey rest with
          | .error fault => .error fault
          | .ok rest => skipFrom (.object :: opened) .value rest
      else
        match _hs : skipScalar c rest with
        | .error fault => .error fault
        | .ok rest => skipFrom opened .more rest
termination_by cs.length
decreasing_by
  · exact length_lt_of_toPart ‹_›
  · exact length_lt_of_toPart ‹_›
  · exact Nat.lt_trans (length_lt_of_skipKey ‹_›) (length_lt_of_toPart ‹_›)
  · exact Nat.lt_trans (length_lt_of_toPart _hr) (length_lt_of_toPart _h)
  · exact length_lt_of_toPart ‹_›
  · exact Nat.lt_trans (length_lt_of_toPart _hr) (length_lt_of_toPart _h)
  · exact Nat.lt_trans (length_lt_of_skipKey ‹_›) (length_lt_of_toPart _h)
  · exact Nat.lt_of_le_of_lt (length_le_of_skipScalar ‹_›) (length_lt_of_toPart _h)

theorem length_le_of_skipFrom {opened : List Bracket} {expected : Expected} {cs rest : List Char}
    (h : skipFrom opened expected cs = .ok rest) : rest.length ≤ cs.length := by
  fun_induction skipFrom opened expected cs with
  | case1 => exact Except.ok.inj h ▸ Nat.le_refl _
  | case2 => simp at h
  | case3 cs bracket outer r hp ih =>
    exact Nat.le_trans (ih h) (Nat.le_of_lt (length_lt_of_toPart hp))
  | case4 cs outer r hp _ ih =>
    exact Nat.le_trans (ih h) (Nat.le_of_lt (length_lt_of_toPart hp))
  | case5 => simp at h
  | case6 cs outer r s hk hp _ ih =>
    have := length_lt_of_toPart hp
    have := length_lt_of_skipKey hk
    have := ih h
    omega
  | case7 => simp at h
  | case8 => simp at h
  | case9 opened cs r s hr hp ih =>
    have := length_lt_of_toPart hp
    have := length_lt_of_toPart hr
    have := ih h
    omega
  | case10 opened cs r _ hp ih =>
    exact Nat.le_trans (ih h) (Nat.le_of_lt (length_lt_of_toPart hp))
  | case11 opened cs r s hr hp _ ih =>
    have := length_lt_of_toPart hp
    have := length_lt_of_toPart hr
    have := ih h
    omega
  | case12 => simp at h
  | case13 opened cs r s hk _ hp _ ih =>
    have := length_lt_of_toPart hp
    have := length_lt_of_skipKey hk
    have := ih h
    omega
  | case14 => simp at h
  | case15 opened cs c r hp _ _ s hs ih =>
    have := length_lt_of_toPart hp
    have := length_le_of_skipScalar hs
    have := ih h
    omega

/-- Passes over a value. -/
def skipValue (cs : List Char) : Except Fault (List Char) := skipFrom [] .value cs

end JsonText

end TemplatePaint
