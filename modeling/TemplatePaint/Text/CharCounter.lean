/-!
# Counting characters

Matches are found by bytes of the UTF-8 form of a text, and spans are told by
characters. A counter keeps the byte that was asked for last and the number of
characters before it, so that going on from there counts only what lies
between; going back starts again from the beginning.

* `dropBytes_byteLength`, `countChars_byteLength`: bytes up to the end of a
  character are those of the characters before.
-/

namespace TemplatePaint

/-- The number of bytes of the characters. -/
def byteLength : List Char → Nat
  | [] => 0
  | c :: cs => c.utf8Size + byteLength cs

/-- The characters behind the first bytes. -/
def dropBytes : (bytes : Nat) → List Char → List Char
  | 0, cs => cs
  | _ + 1, [] => []
  | bytes + 1, c :: cs => dropBytes (bytes + 1 - c.utf8Size) cs

/-- The number of characters in the first bytes. -/
def countChars : (bytes : Nat) → List Char → Nat
  | 0, _ => 0
  | _ + 1, [] => 0
  | bytes + 1, c :: cs => countChars (bytes + 1 - c.utf8Size) cs + 1

theorem byteLength_append (xs ys : List Char) :
    byteLength (xs ++ ys) = byteLength xs + byteLength ys := by
  induction xs with
  | nil => simp [byteLength]
  | cons c cs ih =>
    simp only [List.cons_append, byteLength, ih]
    omega

theorem byteLength_reverse (xs : List Char) : byteLength xs.reverse = byteLength xs := by
  induction xs with
  | nil => rfl
  | cons c cs ih =>
    rw [List.reverse_cons, byteLength_append, ih]
    simp only [byteLength]
    omega

theorem length_le_byteLength (xs : List Char) : xs.length ≤ byteLength xs := by
  induction xs with
  | nil => exact Nat.le_refl 0
  | cons c cs ih =>
    have := c.utf8Size_pos
    simp only [byteLength, List.length_cons]
    omega

/-- The bytes of the first character, and those of the others. -/
theorem byteLength_cons_eq_succ (c : Char) (cs : List Char) :
    ∃ n, byteLength (c :: cs) = n + 1 ∧ n + 1 - c.utf8Size = byteLength cs := by
  have := c.utf8Size_pos
  refine ⟨byteLength (c :: cs) - 1, ?_, ?_⟩ <;>
  · simp only [byteLength]
    omega

theorem dropBytes_byteLength (xs ys : List Char) : dropBytes (byteLength xs) (xs ++ ys) = ys := by
  induction xs with
  | nil => rw [byteLength, List.nil_append, dropBytes]
  | cons c cs ih =>
    obtain ⟨n, hn, rest⟩ := byteLength_cons_eq_succ c cs
    rw [hn, List.cons_append, dropBytes, rest, ih]

theorem countChars_byteLength (xs ys : List Char) :
    countChars (byteLength xs) (xs ++ ys) = xs.length := by
  induction xs with
  | nil => rw [byteLength, List.nil_append, countChars]; rfl
  | cons c cs ih =>
    obtain ⟨n, hn, rest⟩ := byteLength_cons_eq_succ c cs
    rw [hn, List.cons_append, countChars, rest, ih, List.length_cons]

/-- A byte of a text, and the number of characters before it. -/
structure CharCounter (text : List Char) where
  byte : Nat
  chars : Nat

namespace CharCounter

variable {text : List Char}

/-- The counter before the first character. -/
def start : CharCounter text := ⟨0, 0⟩

/-- The counter at another byte, or at the end of the text if that comes first. -/
def moveTo (counter : CharCounter text) (byte : Nat) : CharCounter text :=
  let target := min byte (byteLength text)
  let origin := if target < counter.byte then start else counter
  ⟨target, origin.chars + countChars (target - origin.byte) (dropBytes origin.byte text)⟩

end CharCounter

end TemplatePaint
