import TemplatePaint.KeyMap
import TemplatePaint.Settings

/-!
# Settings read from an object

An object says the settings by its members with known keys, and by nothing else
(`Settings.ofJson_members`). Reading a member sets what its value says and
leaves the other settings (`Settings.take_eq_ok_iff`); by induction on the
members, reading all of them gives each setting what is said of it
(`Settings.foldlM_takeMember_eq_ok_iff`).
-/

namespace TemplatePaint

/-! ## What a value says -/

/-- The value is the choice of this name. -/
def Json.IsChoice (j : Json) (name : String) : Prop := j = .text name ∨ j = .object [(name, .null)]

/-- The name by which an emphasis is chosen. -/
def Emphasis.choiceName : Emphasis → String
  | .always => "always"
  | .whenInside => "whenInBlock"

/-- The name by which a persistence is chosen. -/
def Persistence.choiceName : Persistence → String
  | .always => "Always"
  | .never => "Never"

namespace Settings

/-- The value says how the setting is in `s`. -/
def Says (s : Settings) (j : Json) : Setting → Prop
  | .emphasis => j.IsChoice s.emphasis.choiceName
  | .persistence => j.IsChoice s.persistence.choiceName
  | .wrapsWithFolding => j = .bool s.wrapsWithFolding
  | .editQuiet => j = .number (.natural s.editQuiet)

/-- The setting is the same in `s` and `t`. -/
def Same (s t : Settings) : Setting → Prop
  | .emphasis => s.emphasis = t.emphasis
  | .persistence => s.persistence = t.persistence
  | .wrapsWithFolding => s.wrapsWithFolding = t.wrapsWithFolding
  | .editQuiet => s.editQuiet = t.editQuiet

/-- The setting is what the value says, and as in `s` if there is no value. -/
def Follows (t s : Settings) (j? : Option Json) (k : Setting) : Prop :=
  match j? with
  | some j => t.Says j k
  | none => t.Same s k

theorem Same.refl (s : Settings) (k : Setting) : s.Same s k := by
  cases k <;> rfl

theorem Same.symm {s t : Settings} {k : Setting} (h : s.Same t k) : t.Same s k := by
  cases k <;> exact Eq.symm h

theorem Same.trans {s t u : Settings} {k : Setting} (h : s.Same t k) (h' : t.Same u k) :
    s.Same u k := by
  cases k <;> exact Eq.trans h h'

theorem Says.of_same {s t : Settings} {j : Json} {k : Setting} (said : s.Says j k)
    (same : t.Same s k) : t.Says j k := by
  cases k <;> simp only [Same] at same <;> simpa only [Says, same] using said

theorem eq_of_same {s t : Settings} (h : ∀ k, s.Same t k) : s = t := by
  obtain ⟨emphasis, persistence, wraps, quiet⟩ := s
  obtain rfl : emphasis = t.emphasis := h .emphasis
  obtain rfl : persistence = t.persistence := h .persistence
  obtain rfl : wraps = t.wrapsWithFolding := h .wrapsWithFolding
  obtain rfl : quiet = t.editQuiet := h .editQuiet
  rfl

/-- Settings are equal if one setting is the same in both and all others are as in `s`. -/
theorem eq_of_same_others {s t u : Settings} {k : Setting} (own : u.Same t k)
    (others : ∀ k' ≠ k, u.Same s k') (others' : ∀ k' ≠ k, t.Same s k') : u = t := by
  refine eq_of_same fun k' => ?_
  by_cases here : k' = k
  · subst here
    exact own
  · exact (others k' here).trans (others' k' here).symm

theorem Follows.of_same {s t u : Settings} {j? : Option Json} {k : Setting} (h : t.Follows s j? k)
    (same : u.Same t k) : u.Follows s j? k := by
  cases j? with
  | some j => exact Says.of_same h same
  | none => exact same.trans h

theorem Follows.rebase {s t u : Settings} {j? : Option Json} {k : Setting} (h : t.Follows u j? k)
    (same : u.Same s k) : t.Follows s j? k := by
  cases j? with
  | some j => exact h
  | none => exact Same.trans h same

/-- Each setting can be chosen by itself. -/
theorem exists_same (of : Setting → Settings) : ∃ s : Settings, ∀ k, s.Same (of k) k :=
  ⟨⟨(of .emphasis).emphasis, (of .persistence).persistence,
    (of .wrapsWithFolding).wrapsWithFolding, (of .editQuiet).editQuiet⟩, by rintro ⟨⟩ <;> rfl⟩

/-! ## Reading a value -/

theorem bind_eq_ok_iff {α β : Type} {e : Except SettingsError α} {f : α → Except SettingsError β}
    {b : β} : e >>= f = .ok b ↔ ∃ a, e = .ok a ∧ f a = .ok b := by
  cases e <;> simp [bind, Except.bind]

theorem choiceNamed_eq_ok_iff {α : Type} {first second : String × α} {name : String} {a : α}
    (ne : first.1 ≠ second.1) : choiceNamed first second name = .ok a ↔
      name = first.1 ∧ first.2 = a ∨ name = second.1 ∧ second.2 = a := by
  rw [choiceNamed]
  split
  · rename_i same
    simp [same, ne]
  · rename_i other
    split
    · rename_i same
      simp [same, Ne.symm ne]
    · rename_i other'
      simp [other, other']

theorem choice_eq_ok_iff {α : Type} {first second : String × α} {j : Json} {a : α}
    (ne : first.1 ≠ second.1) : choice first second j = .ok a ↔
      j.IsChoice first.1 ∧ first.2 = a ∨ j.IsChoice second.1 ∧ second.2 = a := by
  cases j with
  | text name => simp [choice, Json.IsChoice, choiceNamed_eq_ok_iff ne]
  | object members =>
    match members with
    | [] => simp [choice, Json.IsChoice]
    | [(name, value)] =>
      rw [choice, bind_eq_ok_iff]
      cases value <;> simp [Json.IsChoice, choiceNamed_eq_ok_iff ne, pure, Except.pure, throw,
        throwThe, MonadExceptOf.throw]
    | _ :: _ :: _ => simp [choice, Json.IsChoice]
  | _ => simp [choice, Json.IsChoice]

theorem emphasisOf_eq_ok_iff {j : Json} {e : Emphasis} :
    emphasisOf j = .ok e ↔ j.IsChoice e.choiceName := by
  rw [emphasisOf, choice_eq_ok_iff (by decide)]
  cases e <;> simp [Emphasis.choiceName]

theorem persistenceOf_eq_ok_iff {j : Json} {p : Persistence} :
    persistenceOf j = .ok p ↔ j.IsChoice p.choiceName := by
  rw [persistenceOf, choice_eq_ok_iff (by decide)]
  cases p <;> simp [Persistence.choiceName]

theorem truthOf_eq_ok_iff {j : Json} {b : Bool} : truthOf j = .ok b ↔ j = .bool b := by
  cases j <;> simp [truthOf]

theorem naturalOf_eq_ok_iff {j : Json} {n : Nat} :
    naturalOf j = .ok n ↔ j = .number (.natural n) := by
  cases j with
  | number m => cases m <;> simp [naturalOf]
  | _ => simp [naturalOf]

/-- What is read of a value is put into the settings. -/
theorem read_eq_ok_iff {α : Type} {read : Except SettingsError α} {put : α → Settings}
    {t : Settings} : (do return put (← read)) = .ok t ↔ ∃ a, read = .ok a ∧ put a = t := by
  rw [bind_eq_ok_iff]
  exact exists_congr fun a => and_congr_right fun _ => ⟨Except.ok.inj, congrArg _⟩

/-- Reading a setting gives it what the value says, and leaves the others. -/
theorem take_eq_ok_iff {s t : Settings} {j : Json} {k : Setting} :
    s.take j k = .ok t ↔ t.Says j k ∧ ∀ k' ≠ k, t.Same s k' := by
  cases k <;> rw [take, read_eq_ok_iff] <;> simp only [emphasisOf_eq_ok_iff,
    persistenceOf_eq_ok_iff, truthOf_eq_ok_iff, naturalOf_eq_ok_iff]
  all_goals
    constructor
    · rintro ⟨a, said, rfl⟩
      refine ⟨said, fun k' ne => ?_⟩
      cases k' <;> trivial
    · rintro ⟨said, same⟩
      refine ⟨_, said, eq_of_same_others ?_ (fun k' ne => ?_) same⟩
      · rfl
      · cases k' <;> trivial

/-! ## Reading the members -/

/-- A member with another key says nothing. -/
theorem takeMember_of_unknown {s : Settings} {m : String × Json}
    (unknown : Setting.ofKey? m.1 = none) : s.takeMember m = .ok s := by
  rw [takeMember, unknown]

theorem takeMember_of_known (s : Settings) (k : Setting) (j : Json) :
    s.takeMember (k.key, j) = s.take j k := by
  rw [takeMember, Setting.ofKey?_eq_some_iff.2 rfl]

theorem member?_cons (m : String × Json) (ms : List (String × Json)) (key : String) :
    (Json.object (m :: ms)).member? key =
      if m.1 = key then some m.2 else (Json.object ms).member? key := by
  rw [Json.member?, Json.member?]
  by_cases here : m.1 = key
  · rw [List.find?_cons_of_pos (by simpa using here), if_pos here]
    rfl
  · rw [List.find?_cons_of_neg (by simpa using here), if_neg here]

theorem member?_eq_none {ms : List (String × Json)} {key : String} (h : key ∉ ms.map (·.1)) :
    (Json.object ms).member? key = none := by
  rw [Json.member?, List.find?_eq_none.2 fun m hm same => ?_]
  · rfl
  · exact h (List.mem_map.2 ⟨m, hm, eq_of_beq same⟩)

/-- If `k` is not said later, it makes no difference whether its value is read before the others or
counts as one of them. -/
theorem follows_after_iff {s t : Settings} {j : Json} {k : Setting} {later : Setting → Option Json}
    (once : later k = none) :
    (∃ u : Settings, (u.Says j k ∧ ∀ k' ≠ k, u.Same s k') ∧ ∀ k', t.Follows u (later k') k') ↔
      ∀ k', t.Follows s (if k' = k then some j else later k') k' := by
  constructor
  · rintro ⟨u, ⟨said, others⟩, each⟩ k'
    have now := each k'
    by_cases own : k' = k
    · subst own
      rw [once] at now
      rw [if_pos rfl]
      exact said.of_same now
    · rw [if_neg own]
      exact now.rebase (others k' own)
  · intro each
    -- in between, the setting is as in the end, and the others are as before
    obtain ⟨u, same⟩ := exists_same fun k' => if k' = k then t else s
    have own : u.Same t k := by simpa only [if_true] using same k
    have others (k' : Setting) (ne : k' ≠ k) : u.Same s k' := by
      simpa only [if_neg ne] using same k'
    have said : t.Follows s (some j) k := by simpa only [if_true] using each k
    refine ⟨u, ⟨said.of_same own, others⟩, fun k' => ?_⟩
    by_cases here : k' = k
    · subst here
      rw [once]
      exact own.symm
    · have now := each k'
      rw [if_neg here] at now
      exact now.rebase (others k' here).symm

/-- Of members with different keys, each setting gets what the one with its key says; if there is
none, it stays. -/
theorem foldlM_takeMember_eq_ok_iff {ms : List (String × Json)} (distinct : (ms.map (·.1)).Nodup)
    {s t : Settings} : ms.foldlM takeMember s = .ok t ↔
      ∀ k : Setting, t.Follows s ((Json.object ms).member? k.key) k := by
  induction ms generalizing s with
  | nil =>
    refine ⟨fun read k => ?_, fun same => congrArg _ (eq_of_same fun k => ?_)⟩
    · obtain rfl := Except.ok.inj read
      exact Same.refl s k
    · exact (same k).symm
  | cons m ms ih =>
    obtain ⟨first, distinct⟩ := List.nodup_cons.1 distinct
    rw [List.foldlM_cons, bind_eq_ok_iff]
    simp only [member?_cons, ih distinct]
    cases known : Setting.ofKey? m.1 with
    | none =>
      have other (k : Setting) : m.1 ≠ k.key := fun same => by
        rw [same, Setting.ofKey?_eq_some_iff.2 rfl] at known
        cases known
      simp only [takeMember_of_unknown known, Except.ok.injEq, exists_eq_left', other, if_false]
    | some k =>
      obtain ⟨key, j⟩ := m
      obtain rfl : k.key = key := Setting.ofKey?_eq_some_iff.1 known
      have inj (k' : Setting) : k.key = k'.key ↔ k' = k := by
        rw [← Setting.ofKey?_eq_some_iff, Setting.ofKey?_eq_some_iff.2 rfl, Option.some.injEq]
      simp only [takeMember_of_known, take_eq_ok_iff, inj]
      exact follows_after_iff (member?_eq_none first)

/-- Members with other keys can be left out. -/
theorem foldlM_takeMember_filter (ms : List (String × Json)) (s : Settings) :
    (ms.filter fun m => (Setting.ofKey? m.1).isSome).foldlM takeMember s =
      ms.foldlM takeMember s := by
  induction ms generalizing s with
  | nil => rfl
  | cons m ms ih =>
    cases known : Setting.ofKey? m.1 with
    | none =>
      rw [List.filter_cons_of_neg (by simp [known]), List.foldlM_cons,
        takeMember_of_unknown known, ih]
      rfl
    | some k =>
      rw [List.filter_cons_of_pos (by simp [known]), List.foldlM_cons, List.foldlM_cons]
      exact congrArg _ (funext ih)

/-! ## Reading an object -/

theorem ofMembers_entries (o : KeyMap Json) :
    ofMembers o.entries = o.entries.foldlM takeMember default := by
  have sorted : o.entries.Pairwise fun m n => decide (m.1 ≤ n.1) = true :=
    o.increasing.imp fun lt => decide_eq_true (String.not_lt.1 (String.lt_asymm lt))
  rw [ofMembers, Json.inKeyOrder, sortBy_of_pairwise sorted]

theorem ofMembers_eq_ok_iff {o : KeyMap Json} {s : Settings} :
    ofMembers o.entries = .ok s ↔ ∀ k : Setting, s.Follows default (o.get? k.key) k := by
  have distinct : (o.entries.map (·.1)).Nodup := o.keys_increasing.imp String.ne_of_lt
  rw [ofMembers_entries, foldlM_takeMember_eq_ok_iff distinct]
  exact Iff.rfl

/-- Objects that agree on the known keys are read alike. -/
theorem ofMembers_congr {o o' : KeyMap Json} (agree : ∀ k : Setting, o.get? k.key = o'.get? k.key) :
    ofMembers o.entries = ofMembers o'.entries := by
  have same : (o.entries.filter fun m => (Setting.ofKey? m.1).isSome) =
      o'.entries.filter fun m => (Setting.ofKey? m.1).isSome := by
    refine eq_of_pairwise_of_mem_iff (fun _ _ => String.lt_asymm) (o.increasing.filter _)
      (o'.increasing.filter _) fun m => ?_
    rw [List.mem_filter, List.mem_filter, o.mem_entries_iff, o'.mem_entries_iff]
    refine and_congr_left fun known => ?_
    obtain ⟨k, known⟩ := Option.isSome_iff_exists.1 known
    rw [← Setting.ofKey?_eq_some_iff.1 known, agree]
  rw [ofMembers_entries, ofMembers_entries, ← foldlM_takeMember_filter, same,
    foldlM_takeMember_filter]

/-- An object without the section is read by its members. -/
theorem ofJson_of_no_section {o : KeyMap Json} (free : o.get? sectionKey = none) :
    ofJson (.object o.entries) = ofMembers o.entries := by
  have none : (Json.object o.entries).member? sectionKey = none := free
  rw [ofJson, none]
  rfl

/-- An object with another as its section is read by the members of that one. -/
theorem ofJson_insert_section (w o : KeyMap Json) :
    ofJson (.object (w.insert sectionKey (.object o.entries)).entries) = ofMembers o.entries := by
  have found : (Json.object (w.insert sectionKey (.object o.entries)).entries).member? sectionKey =
      some (.object o.entries) := (w.get?_insert _ _ _).trans (if_pos rfl)
  rw [ofJson, found]
  rfl

/-- An object without the section can be read just if each known key has a value that says its
setting; then each setting is what is said, or has its default. What else is in the object plays no
part, neither for the settings nor for what is reported, and it is read alike as the section of
another object. -/
theorem ofJson_members :
    (∀ o : KeyMap Json, o.get? sectionKey = none →
      (∀ s, ofJson (.object o.entries) = .ok s ↔
        ∀ k : Setting, s.Follows default (o.get? k.key) k) ∧
      ((∃ s, ofJson (.object o.entries) = .ok s) ↔
        ∀ (k : Setting) (j : Json), o.get? k.key = some j → ∃ s : Settings, s.Says j k)) ∧
    (∀ o o' : KeyMap Json, o.get? sectionKey = none → o'.get? sectionKey = none →
      (∀ k : Setting, o.get? k.key = o'.get? k.key) →
      ofJson (.object o.entries) = ofJson (.object o'.entries)) ∧
    ∀ w o : KeyMap Json, o.get? sectionKey = none →
      ofJson (.object (w.insert sectionKey (.object o.entries)).entries) =
        ofJson (.object o.entries) := by
  refine ⟨fun o free => ?_, fun o o' free free' agree => ?_, fun w o free => ?_⟩
  · simp only [ofJson_of_no_section free, ofMembers_eq_ok_iff, implies_true, true_and]
    constructor
    · rintro ⟨s, each⟩ k j found
      have said := each k
      rw [found] at said
      exact ⟨s, said⟩
    · intro valid
      have each (k : Setting) : ∃ s : Settings, s.Follows default (o.get? k.key) k := by
        cases found : o.get? k.key with
        | some j => exact valid k j found
        | none => exact ⟨default, Same.refl _ _⟩
      obtain ⟨of, follows⟩ := Classical.skolem.1 each
      obtain ⟨s, same⟩ := exists_same of
      exact ⟨s, fun k => (follows k).of_same (same k)⟩
  · rw [ofJson_of_no_section free, ofJson_of_no_section free', ofMembers_congr agree]
  · rw [ofJson_insert_section, ofJson_of_no_section free]

/-- Two settings among other members, the emphasis chosen by an object. -/
def mixedMembers : KeyMap Json :=
  (((KeyMap.empty.insert "font" (.list [.null])).insert
    "editDebounceMs" (.number (.natural 25))).insert
      "highlightMode" (.object [("always", .null)])).insert "theme" (.text "dark")

theorem ofJson_members_mixed :
    mixedMembers.get? sectionKey = none ∧
      ofJson (.object mixedMembers.entries) = .ok ⟨.always, .never, false, 25⟩ ∧
      ofJson (.object (mixedMembers.insert "zoom" (.bool true)).entries) =
        ofJson (.object mixedMembers.entries) ∧
      ofJson (.object ((KeyMap.empty.insert "theme" .null).insert sectionKey
        (.object mixedMembers.entries)).entries) = ofJson (.object mixedMembers.entries) := by
  have free : mixedMembers.get? sectionKey = none := by
    simp [mixedMembers, sectionKey]
  have free' : (mixedMembers.insert "zoom" (.bool true)).get? sectionKey = none := by
    simp [mixedMembers, sectionKey]
  refine ⟨free, ((ofJson_members.1 mixedMembers free).1 _).2 ?_, ?_, ?_⟩
  · rintro ⟨⟩ <;> simp [mixedMembers, Setting.key, Follows, Says, Same, default, Json.IsChoice,
      Emphasis.choiceName]
  · refine ofJson_members.2.1 _ _ free' free fun k => ?_
    cases k <;> simp [Setting.key]
  · exact ofJson_members.2.2 _ _ free

end Settings

end TemplatePaint
