import TemplatePaint.Document.Toggles
import TemplatePaint.Json.Reader

/-!
# Stored toggles

The form in which the toggles of a document outlive a session: a JSON object
with one member for each switch. It is read tolerantly. Members with other
names are passed over, and a switch that is not mentioned stands as for a new
document; an array of up to three values gives the switches in order.
-/

namespace TemplatePaint

namespace Switch

/-- The member that says how the switch stands. -/
def storedKey : Switch → String
  | dimming => "dimmingEnabled"
  | folding => "foldingEnabled"
  | frames => "turboFramesEnabled"

/-- The switch of a member. -/
def ofStoredKey? (key : List Char) : Option Switch :=
  all.find? fun s => s.storedKey.toList == key

end Switch

/-- What a stored form says so far: the switches that it mentions. -/
structure Mentioned where
  dimming : Option Bool
  folding : Option Bool
  frames : Option Bool
deriving DecidableEq

namespace Mentioned

/-- Nothing is mentioned. -/
def none : Mentioned := ⟨.none, .none, .none⟩

/-- What is said of a switch. -/
def get? (m : Mentioned) : Switch → Option Bool
  | .dimming => m.dimming
  | .folding => m.folding
  | .frames => m.frames

/-- A switch is mentioned. -/
def set (m : Mentioned) (b : Bool) : Switch → Mentioned
  | .dimming => { m with dimming := b }
  | .folding => { m with folding := b }
  | .frames => { m with frames := b }

/-- The toggles; a switch that is not mentioned stands as for a new document. -/
def toggles (m : Mentioned) : Toggles :=
  { dimming := m.dimming.getD Toggles.default.dimming
    folding := m.folding.getD Toggles.default.folding
    frames := m.frames.getD Toggles.default.frames }

/-- The switches mentioned by a list of values in order. -/
def ofList (values : List Bool) : Mentioned := ⟨values[0]?, values[1]?, values[2]?⟩

end Mentioned

namespace StoredToggles

open JsonText

/-- The fault of a value that should be something else, at the character `c`: a mismatch, unless
the value itself is malformed. -/
def wrongValue (c : Char) (cs : List Char) : Fault :=
  let faultOf {α : Type} (read : Except Fault α) : Fault :=
    match read with
    | .ok _ => .mismatch
    | .error fault => fault
  if c = 'n' then faultOf (keyword "ull".toList cs)
  else if c = 't' then faultOf (keyword "rue".toList cs)
  else if c = 'f' then faultOf (keyword "alse".toList cs)
  else if c = '"' then faultOf (string true cs)
  else if c = '-' then faultOf (finiteNumber cs)
  else if c.isDigit then faultOf (finiteNumber (c :: cs))
  else if c = '[' || c = '{' then .mismatch
  else .malformed
where
  /-- Reads a number, and refuses one that is too large for a floating-point number. -/
  finiteNumber (cs : List Char) : Except Fault (Numeral × List Char) :=
    match number .endsEarly cs with
    | .error fault => .error fault
    | .ok (n, rest) => if n.binary?.isSome then .ok (n, rest) else .error .malformed

/-- Reads a truth value. -/
def truth (cs : List Char) : Except Fault (Bool × List Char) :=
  match toPart cs with
  | [] => .error .endsEarly
  | c :: rest =>
    if c = 't' then (keyword "rue".toList rest).map (true, ·)
    else if c = 'f' then (keyword "alse".toList rest).map (false, ·)
    else .error (wrongValue c rest)

/-- Reads the rest of an array, up to `left` values and the closing bracket, where a value or its
comma is taken. -/
def items : (left : Nat) → List Char → Except Fault (List Bool × List Char)
  | left, cs => do
    let (b, rest) ← truth cs
    match toPart rest with
    | [] => throw .endsEarly
    | c :: rest =>
      if c = ']' then return ([b], rest)
      else if c = ',' then
        match left with
        | 0 => throw .malformed
        | left + 1 =>
          let (bs, rest) ← items left rest
          return (b :: bs, rest)
      else throw .malformed

/-- Reads an array of up to three values, whose opening bracket is taken. -/
def array (cs : List Char) : Except Fault (Mentioned × List Char) :=
  match toPart cs with
  | [] => .error .endsEarly
  | ']' :: rest => .ok (.none, rest)
  | _ => (items 2 cs).map fun r => (.ofList r.1, r.2)

/-- Reads a member. -/
def member (m : Mentioned) (cs : List Char) : Except Fault (Mentioned × List Char) := do
  let (name, rest) ← key true cs
  match Switch.ofStoredKey? name with
  | some s =>
    if (m.get? s).isSome then throw .mismatch
    let rest ← colon rest
    let (b, rest) ← truth rest
    return (m.set b s, rest)
  | none =>
    let rest ← colon rest
    let rest ← skipValue rest
    return (m, rest)

theorem length_le_of_truth {cs : List Char} {r : Bool × List Char} (h : truth cs = .ok r) :
    r.2.length ≤ cs.length := by
  have of_map {word cs : List Char} {b : Bool}
      (h : (keyword word cs).map (b, ·) = .ok r) : r.2.length ≤ cs.length := by
    cases hk : keyword word cs with
    | error fault => simp [hk, Except.map] at h
    | ok rest =>
      simp only [hk, Except.map, Except.ok.injEq] at h
      exact h ▸ length_le_of_keyword hk
  unfold truth at h
  split at h
  · simp at h
  · rename_i c rest hp
    have := length_lt_of_toPart hp
    split at h
    · exact Nat.le_trans (of_map h) (Nat.le_of_lt this)
    · split at h
      · exact Nat.le_trans (of_map h) (Nat.le_of_lt this)
      · simp at h

/-- A member takes at least one character. -/
theorem length_lt_of_member {m : Mentioned} {cs : List Char} {r : Mentioned × List Char}
    (h : member m cs = .ok r) : r.2.length < cs.length := by
  simp only [member, bind, Except.bind] at h
  split at h
  · simp at h
  · rename_i k hk
    have := length_lt_of_key hk
    split at h
    · split at h
      · simp [throw, throwThe, MonadExceptOf.throw] at h
      · split at h
        · simp at h
        · rename_i rest hc
          have := length_lt_of_colon hc
          split at h
          · simp at h
          · rename_i b hb
            have := length_le_of_truth hb
            rw [← Except.ok.inj h]
            dsimp only
            omega
    · split at h
      · simp at h
      · rename_i rest hc
        have := length_lt_of_colon hc
        split at h
        · simp at h
        · rename_i rest hs
          have := length_le_of_skipFrom hs
          rw [← Except.ok.inj h]
          dsimp only
          omega

/-- Reads the members of an object from the next one on, and the closing brace. -/
def members (m : Mentioned) (cs : List Char) : Except Fault (Mentioned × List Char) :=
  match _hm : member m cs with
  | .error fault => .error fault
  | .ok (m, rest) =>
    match _hp : toPart rest with
    | [] => .error .endsEarly
    | c :: rest =>
      if c = '}' then .ok (m, rest)
      else if c = ',' then members m rest
      else .error .malformed
termination_by cs.length
decreasing_by exact Nat.lt_trans (length_lt_of_toPart _hp) (length_lt_of_member _hm)

/-- Reads an object whose opening brace is taken. -/
def object (cs : List Char) : Except Fault (Mentioned × List Char) :=
  match toPart cs with
  | [] => .error .endsEarly
  | '}' :: rest => .ok (.none, rest)
  | _ => members .none cs

/-- Reads an object or an array. -/
def mentioned (cs : List Char) : Except Fault (Mentioned × List Char) :=
  match toPart cs with
  | [] => .error .endsEarly
  | c :: rest =>
    if c = '{' then object rest
    else if c = '[' then array rest
    else .error (wrongValue c rest)

end StoredToggles

namespace Toggles

/-- The toggles that a stored text says. -/
def ofStored (raw : String) : Except Fault Toggles :=
  match StoredToggles.mentioned raw.toList with
  | .error fault => .error fault
  | .ok (m, rest) => if (JsonText.toPart rest).isEmpty then .ok m.toggles else .error .malformed

/-- How the state of a switch is stored. -/
def storedMember (t : Toggles) (s : Switch) : String :=
  "\"" ++ s.storedKey ++ "\":" ++ if t.get s then "true" else "false"

/-- The toggles as they are stored. -/
def stored (t : Toggles) : String :=
  "\x7b" ++ ",".intercalate (Switch.all.map t.storedMember) ++ "\x7d"

/-- The stored form says the toggles. -/
theorem ofStored_stored (t : Toggles) : ofStored t.stored = .ok t := by
  have said : (ofStored t.stored).toOption = some t := by
    obtain ⟨dimming, folding, frames⟩ := t
    cases dimming <;> cases folding <;> cases frames <;> decide +kernel
  cases h : ofStored t.stored with
  | error fault => simp [h, Except.toOption] at said
  | ok t' =>
    rw [h] at said
    rw [Option.some.inj said]

end Toggles

end TemplatePaint
