import TemplatePaint.Document.Store
import TemplatePaint.Proofs.Json.Skipping

/-!
# Restored toggles

An object with members for some of the switches, in any order and among any
other members, sets just these switches (`Store.restoring_tolerant`). A member
is read (`StoredToggles.member_append`), then all of them by induction on the
text (`StoredToggles.members_append`), and what is not mentioned stands as for
a new document.
-/

namespace TemplatePaint

open JsonText

namespace Switch

theorem ofStoredKey?_eq_some_iff {key : List Char} {s : Switch} :
    ofStoredKey? key = some s ↔ s.storedKey.toList = key := by
  constructor
  · intro found
    simpa using List.find?_some found
  · rintro rfl
    cases s <;> decide

theorem storedKey_toList_inj {s s' : Switch} :
    s'.storedKey.toList = s.storedKey.toList ↔ s' = s := by
  rw [← ofStoredKey?_eq_some_iff, ofStoredKey?_eq_some_iff.2 rfl, Option.some.injEq, eq_comm]

end Switch

namespace Mentioned

theorem get?_set (m : Mentioned) (b : Bool) (s s' : Switch) :
    (m.set b s).get? s' = if s' = s then some b else m.get? s' := by
  cases s <;> cases s' <;> rfl

theorem get_toggles (m : Mentioned) (s : Switch) :
    m.toggles.get s = (m.get? s).getD (Toggles.default.get s) := by
  cases s <;> rfl

end Mentioned

namespace StoredToggles

/-! ## Members -/

/-- How a truth value is written. -/
def truthText (b : Bool) : List Char := (if b then "true" else "false").toList

/-- The members give switches as they stand in `t`, each at most once. -/
structure Gives (t : Toggles) (ms : List (List Char × List Char)) : Prop where
  standing : ∀ (s : Switch) (value : List Char), (s.storedKey.toList, value) ∈ ms →
    value = truthText (t.get s)
  once : ∀ s : Switch, (ms.map (·.1)).count s.storedKey.toList ≤ 1

namespace Gives

variable {t : Toggles} {name value : List Char} {ms : List (List Char × List Char)}

theorem head (gives : Gives t ((name, value) :: ms)) (s : Switch)
    (own : s.storedKey.toList = name) : value = truthText (t.get s) :=
  gives.standing s value (own ▸ List.mem_cons_self)

theorem tail (gives : Gives t ((name, value) :: ms)) : Gives t ms where
  standing s value listed := gives.standing s value (List.mem_cons_of_mem _ listed)
  once s := Nat.le_trans (List.Sublist.count_le _ (List.sublist_cons_self _ _)) (gives.once s)

/-- A switch does not come again. -/
theorem not_again (gives : Gives t ((name, value) :: ms)) {s : Switch}
    (own : s.storedKey.toList = name) : s.storedKey.toList ∉ ms.map (·.1) := by
  intro again
  have once := gives.once s
  rw [List.map_cons, List.count_cons, if_pos (by simp [own])] at once
  have := List.count_pos_iff.2 again
  omega

end Gives

theorem truth_append {w : List Char} (before : Blank w) (b : Bool) (rest : List Char) :
    truth (w ++ (truthText b ++ rest)) = .ok (b, rest) := by
  rw [truth, toPart_blank_append before]
  cases b
  · exact congrArg (Except.map _) (keyword_append "alse".toList rest)
  · exact congrArg (Except.map _) (keyword_append "rue".toList rest)

/-- A member that is not mentioned yet is read: that of a switch sets it, another does nothing. -/
theorem member_append {t : Toggles} {name value cs : List Char}
    (parts : IsMember true name value cs) (json : Written .value value)
    (standing : ∀ s : Switch, s.storedKey.toList = name → value = truthText (t.get s))
    {m : Mentioned} (fresh : ∀ s : Switch, s.storedKey.toList = name → m.get? s = none)
    {rest : List Char} (stops : Stops rest) :
    ∃ m', member m (cs ++ rest) = .ok (m', rest) ∧
      ∀ s : Switch, m'.get? s = if s.storedKey.toList = name then some (t.get s) else m.get? s := by
  obtain ⟨after, w, readName, blank, readColon⟩ := key_member parts rest
  cases known : Switch.ofStoredKey? name with
  | some s =>
    have own := Switch.ofStoredKey?_eq_some_iff.1 known
    obtain rfl := standing s own
    refine ⟨m.set (t.get s) s, ?_, fun s' => ?_⟩
    · simp only [member, bind, Except.bind, readName, known, readColon, fresh s own,
        truth_append blank]
      rfl
    · rw [Mentioned.get?_set, ← own]
      by_cases same : s' = s
      · rw [if_pos same, if_pos (Switch.storedKey_toList_inj.2 same), same]
      · rw [if_neg same, if_neg fun keys => same (Switch.storedKey_toList_inj.1 keys)]
  | none =>
    refine ⟨m, ?_, fun s => (if_neg fun own => ?_).symm⟩
    · simp only [member, bind, Except.bind, readName, known, readColon,
        skipValue_append blank json stops]
      rfl
    · rw [Switch.ofStoredKey?_eq_some_iff.2 own] at known
      cases known

/-! ## Objects -/

/-- What is done behind a member hangs on the first character. -/
theorem members_behind {m m' : Mentioned} {c : Char} {cs cs' rest : List Char}
    (read : member m cs = .ok (m', cs')) (next : toPart cs' = c :: rest) :
    members m cs = if c = '}' then .ok (m', rest) else if c = ',' then members m' rest
      else .error .malformed := by
  rw [members]
  split
  · rename_i failed
    rw [read] at failed
    cases failed
  · rename_i done
    cases read.symm.trans done
    split
    · rename_i ended
      rw [next] at ended
      cases ended
    · rename_i found
      cases next.symm.trans found
      rfl

theorem members_last {m m' : Mentioned} {cs w : List Char} (behind : Blank w) (rest : List Char)
    (read : member m cs = .ok (m', w ++ '}' :: rest)) : members m cs = .ok (m', rest) := by
  rw [members_behind read ((toPart_blank_append behind _).trans (toPart_cons rest rfl)), if_pos rfl]

theorem members_more {m m' : Mentioned} {cs w : List Char} (behind : Blank w) (rest : List Char)
    (read : member m cs = .ok (m', w ++ ',' :: rest)) : members m cs = members m' rest := by
  rw [members_behind read ((toPart_blank_append behind _).trans (toPart_cons rest rfl)),
    if_neg (by decide), if_pos rfl]

/-- All members are read; each switch among them is mentioned in the end, and the others are as
they were. -/
theorem members_append {t : Toggles} {ms : List (List Char × List Char)} {cs : List Char}
    (written : WrittenMembers ms cs) (gives : Gives t ms) {m : Mentioned}
    (fresh : ∀ s : Switch, s.storedKey.toList ∈ ms.map (·.1) → m.get? s = none)
    (rest : List Char) :
    ∃ m', members m (cs ++ '}' :: rest) = .ok (m', rest) ∧
      ∀ s : Switch, m'.get? s =
        if s.storedKey.toList ∈ ms.map (·.1) then some (t.get s) else m.get? s := by
  induction written generalizing m with
  | @last name value cs w parts json behind =>
    obtain ⟨m', read, said⟩ := member_append parts json gives.head
      (fun s own => fresh s (by simp [own]))
      (stops_blank_append behind (stops_closing .object rest))
    refine ⟨m', ?_, fun s => ?_⟩
    · rw [List.append_assoc]
      exact members_last behind rest read
    · rw [said]
      simp
  | @more name value cs w ds ms parts json behind _ ih =>
    obtain ⟨m', read, said⟩ := member_append parts json gives.head
      (fun s own => fresh s (by simp [own])) (stops_blank_append behind (stops_comma _))
    -- what comes later is not what this member sets
    have fresh' (s : Switch) (later : s.storedKey.toList ∈ ms.map (·.1)) : m'.get? s = none := by
      rw [said, if_neg fun own => gives.not_again own later]
      exact fresh s (List.mem_cons_of_mem _ later)
    obtain ⟨m'', readAll, saidAll⟩ := ih gives.tail fresh'
    refine ⟨m'', ?_, fun s => ?_⟩
    · rw [List.append_assoc, List.append_assoc, List.cons_append,
        members_more behind _ read, readAll]
    · rw [saidAll, said, List.map_cons]
      by_cases later : s.storedKey.toList ∈ ms.map (·.1)
      · rw [if_pos later, if_pos (List.mem_cons_of_mem _ later)]
      · simp only [List.mem_cons, later, or_false, if_false]

theorem mentioned_append {t : Toggles} {ms : List (List Char × List Char)} {cs : List Char}
    (written : WrittenObject ms cs) (gives : Gives t ms) :
    ∃ m rest, mentioned cs = .ok (m, rest) ∧ Blank rest ∧
      ∀ s : Switch, m.get? s =
        if s.storedKey.toList ∈ ms.map (·.1) then some (t.get s) else none := by
  have enter {w : List Char} (before : Blank w) (cs : List Char) :
      mentioned (w ++ '{' :: cs) = object cs := by
    rw [mentioned, toPart_blank_append before, toPart_cons _ (by decide)]
    exact if_pos rfl
  cases written with
  | @empty w w' w'' before inside behind =>
    refine ⟨.none, w'', ?_, behind, fun s => by cases s <;> rfl⟩
    rw [enter before, object, toPart_blank_append inside, toPart_cons _ (by decide)]
    rfl
  | @full _ w cs w' before behind written =>
    obtain ⟨m, read, said⟩ := members_append (m := .none) written gives
      (fun s _ => by cases s <;> rfl) w'
    refine ⟨m, w', ?_, behind, fun s => ?_⟩
    · obtain ⟨r, next⟩ := List.head?_eq_some_iff.1 (written.start ('}' :: w'))
      rw [enter before, object, next]
      exact read
    · rw [said]
      cases s <;> rfl

end StoredToggles

open StoredToggles

/-- An object is read tolerantly: the switches among its members stand as these say, and the others
as for a new document. -/
theorem Toggles.ofStored_written {t : Toggles} {ms : List (List Char × List Char)} {raw : String}
    (written : WrittenObject ms raw.toList) (gives : Gives t ms) :
    ∃ t', ofStored raw = .ok t' ∧ ∀ s : Switch, t'.get s =
      if s.storedKey.toList ∈ ms.map (·.1) then t.get s else Toggles.default.get s := by
  obtain ⟨m, rest, read, blank, said⟩ := mentioned_append written gives
  refine ⟨m.toggles, ?_, fun s => ?_⟩
  · rw [ofStored, read]
    exact if_pos (by rw [toPart_blank blank]; rfl)
  · rw [m.get_toggles, said]
    split <;> rfl

namespace Store

/-- Restores the toggles of a document in place: the stored form is read, and then the document is
tracked with them. -/
def restoring (doc raw : String) : ExceptT Fault (StateM Store) Unit := do
  let toggles ← ExceptT.mk (pure (Toggles.ofStored raw))
  modify fun s => s.change doc fun d => { d with toggles }

/-- What is restored in place is what `restore` gives, and a fault leaves what was there. -/
theorem restoring_eq (s : Store) (doc raw : String) :
    (restoring doc raw).run.run s =
      match s.restore doc raw with
      | .ok s' => (.ok (), s')
      | .error fault => (.error fault, s) := by
  rw [restoring, restore]
  cases Toggles.ofStored raw <;> rfl

/-- What a stored form says is restored, and nothing else is touched. -/
theorem restoring_of_ok {raw : String} {t : Toggles} (read : Toggles.ofStored raw = .ok t)
    (s : Store) (doc : String) : (restoring doc raw).run.run s =
      (.ok (), s.change doc fun d => { d with toggles := t }) := by
  rw [restoring_eq, restore, read]
  rfl

theorem togglesOf_change (s : Store) (doc : String) (t : Toggles) :
    (s.change doc fun d => { d with toggles := t }).togglesOf doc = t := by
  rw [togglesOf, stateOf_change, if_pos rfl]

/-- From an object with members for some of the switches, among any others and with any blanks,
these switches are restored and the others stand as for a new document; what is stored is restored
as it was. Whatever text is restored, only the toggles of its document change, and nothing does if
it is faulty. -/
theorem restoring_tolerant :
    (∀ (s : Store) (doc raw : String) (t : Toggles) (ms : List (List Char × List Char)),
      WrittenObject ms raw.toList → Gives t ms →
      ∃ s', (restoring doc raw).run.run s = (.ok (), s') ∧
        ∀ switch : Switch, (s'.togglesOf doc).get switch =
          if switch.storedKey.toList ∈ ms.map (·.1) then t.get switch
          else Toggles.default.get switch) ∧
    (∀ (s : Store) (doc : String) (t : Toggles),
      ∃ s', (restoring doc t.stored).run.run s = (.ok (), s') ∧ s'.togglesOf doc = t) ∧
    ∀ (s s' : Store) (doc raw : String),
      ((restoring doc raw).run.run s = (.ok (), s') →
        (∃ t, s'.get? doc = some { (s.get? doc).getD .fresh with toggles := t }) ∧
        ∀ doc' ≠ doc, s'.get? doc' = s.get? doc') ∧
      ∀ fault, (restoring doc raw).run.run s = (.error fault, s') → s' = s := by
  refine ⟨fun s doc raw t ms written gives => ?_, fun s doc t => ?_, fun s s' doc raw => ?_⟩
  · obtain ⟨t', read, said⟩ := Toggles.ofStored_written written gives
    refine ⟨_, restoring_of_ok read s doc, fun switch => ?_⟩
    rw [togglesOf_change, said]
  · exact ⟨_, restoring_of_ok t.ofStored_stored s doc, s.togglesOf_change doc t⟩
  · cases read : Toggles.ofStored raw with
    | ok t =>
      rw [restoring_of_ok read]
      refine ⟨fun done => ?_, nofun⟩
      cases done
      refine ⟨⟨t, ?_⟩, fun doc' other => ?_⟩
      · rw [get?_change, if_pos rfl]
        rfl
      · rw [get?_change, if_neg other]
    | error fault =>
      rw [restoring_eq, restore, read]
      refine ⟨nofun, fun fault failed => ?_⟩
      cases failed
      rfl

/-- A switch is restored from an object where a letter of its name is escaped, behind a member whose
value has brackets, a lone surrogate and a number that is too large for any float. -/
theorem restoring_tolerant_nested :
    ∃ s', (restoring "a.erb"
        "\n\x7b\"note\" :[-1e999, \"\\ud800\"],\"\\u0066oldingEnabled\": true\x7d "
        ).run.run empty = (.ok (), s') ∧
      (∀ switch, (s'.togglesOf "a.erb").get switch = Toggles.get ⟨false, true, true⟩ switch) ∧
      ∀ doc ≠ "a.erb", s'.get? doc = none := by
  have none : Blank [] := by simp [Blank]
  have space : Blank [' '] := by simp [Blank, isBetween]
  have line : Blank ['\n'] := by simp [Blank, isBetween]
  have one : IsWhole ['1'] := .digits (by decide) ⟨by decide, by simp⟩
  have large : IsExponent ('e' :: ([] ++ ['9', '9', '9'])) :=
    .digits (.inl rfl) (.inl rfl) ⟨by decide, by simp⟩
  have surrogate : IsCode 0xD800 ['d', '8', '0', '0'] :=
    .digits (i := 13) (j := 8) (k := 0) (l := 0) rfl rfl rfl rfl
  have letter : IsCode 0x66 ['0', '0', '6', '6'] :=
    .digits (i := 0) (j := 0) (k := 6) (l := 6) rfl rfl rfl rfl
  have yes : Written .value "true".toList := .word (by decide)
  have note : Spells true "note".toList _ := .same (by decide)
  have behind : Spells true "oldingEnabled".toList _ := .same (by decide)
  have entries := Written.more none (.item none (.negative (.parts one .none large)))
    (.last none (.item space (.string (.escaped (.code surrogate (by simp)) .nil))))
  have folding := Spells.escaped (.code letter fun _ => .inl (by decide)) behind
  have members := WrittenMembers.more (.parts none note space none) (.full entries) none
    (.last (.parts none folding none space) yes none)
  have written : WrittenObject [("note".toList, "[-1e999, \"\\ud800\"]".toList),
      ("foldingEnabled".toList, "true".toList)]
      "\n\x7b\"note\" :[-1e999, \"\\ud800\"],\"\\u0066oldingEnabled\": true\x7d ".toList :=
    .full line space members
  have gives (value : List Char) : Gives ⟨true, true, true⟩
      [("note".toList, value), ("foldingEnabled".toList, "true".toList)] := by
    refine ⟨fun s value' listed => ?_, fun s => ?_⟩
    · rcases List.mem_cons.1 listed with other | listed
      · exact absurd (Prod.mk.inj other).1 (by cases s <;> decide)
      · obtain ⟨-, rfl⟩ := Prod.mk.inj (List.mem_singleton.1 listed)
        cases s <;> rfl
    · show ["note".toList, "foldingEnabled".toList].count s.storedKey.toList ≤ 1
      cases s <;> decide
  obtain ⟨s', done, said⟩ := restoring_tolerant.1 empty "a.erb" _ _ _ written (gives _)
  refine ⟨s', done, fun switch => ?_, ((restoring_tolerant.2.2 _ _ _ _).1 done).2⟩
  rw [said]
  cases switch <;> rfl

end Store

end TemplatePaint
