import Mathlib.Data.List.Basic
import TemplatePaint.Proofs.Pattern.Matches
import TemplatePaint.Proofs.Span.Offsets

/-!
# The spans of one kind

The scan for several kinds keeps one look-ahead match for each rule and looks
again only for those that the match it takes overlaps. Its spans of one kind are
those of the plain scan for that kind alone (`scan_filter_kind`): of the
next matches of the kind's rules, as they are found anew behind each span, the
earliest is taken.

* `Rule.seek_eq_find?`: what a rule finds is the first that counts of the
  matches that follow each other, each searched for from the end of the one
  before;
* `Rule.seek_of_le_start`: a match that was looked ahead for is what a new
  search finds, unless the rule passes over matches that do not count;
* `Head.filter_merge`: the heads of one kind that are taken are those of the
  plain scan;
* `Span.heads`, `Span.scan_eq`: the heads that a scan takes, and its spans as
  what they are expanded to.
-/

namespace TemplatePaint

variable {text : List Char}

/-! ## Looking ahead -/

namespace Rule

/-- Of the matches that follow each other from a place on, a rule finds the first that counts. -/
theorem seek_eq_find? (rule : Rule) (place : Place text) :
    rule.seek place = (rule.pattern.allFrom place).find? (rule.counts ·.stretch.chars) := by
  fun_induction rule.pattern.allFrom place with
  | case1 place nothing => rw [seek, nothing, List.find?_nil]
  | case2 place m found lt ih =>
    rw [seek, found, List.find?_cons, ← ih]
    cases counts : rule.counts m.stretch.chars <;> simp [counts, lt]
  | case3 place m found stuck =>
    rw [seek, found, List.find?_cons, List.find?_nil]
    cases counts : rule.counts m.stretch.chars <;> simp [counts, stuck]

/-- What a rule finds is a match of its pattern. -/
theorem matchAt_of_seek {rule : Rule} {place : Place text} {m : Match text}
    (h : rule.seek place = some m) : rule.pattern.matchAt m.start = some m := by
  rw [seek_eq_find?] at h
  exact (Pattern.matchAt_of_mem_allFrom (List.mem_of_find?_eq_some h)).2

theorem seek_eq_search {rule : Rule} (h : rule.counts = always) (place : Place text) :
    rule.seek place = rule.pattern.search place := by
  rw [seek]
  split
  · rename_i hm
    exact hm.symm
  · rename_i m hm
    rw [hm, h]
    rfl

/-- Of a rule whose matches all count, a later search up to the next match finds that match. -/
theorem seek_of_le_start {rule : Rule} (h : rule.counts = always) {place later : Place text}
    {m : Match text} (found : rule.seek place = some m) (h₁ : place.offset ≤ later.offset)
    (h₂ : later.offset ≤ m.start.offset) : rule.seek later = some m := by
  rw [seek_eq_search h] at found ⊢
  exact Pattern.search_of_le_start found h₁ h₂

theorem seek_eq_none_of_le {rule : Rule} (h : rule.counts = always) {place later : Place text}
    (nothing : rule.seek place = none) (le : place.offset ≤ later.offset) :
    rule.seek later = none := by
  rw [seek_eq_search h] at nothing ⊢
  exact Pattern.search_eq_none_of_le nothing le

/-- What a rule finds has all characters that its pattern reads at least. -/
theorem add_minLength_le_of_seek {rule : Rule} {place : Place text} {m : Match text}
    (h : rule.seek place = some m) : m.start.offset + rule.pattern.minLength ≤ m.stop.offset :=
  Pattern.add_minLength_le_of_matchAt (matchAt_of_seek h)

/-- No rule matches nothing. -/
theorem minLength_pos {rule : Rule} (h : rule ∈ table) : 0 < rule.pattern.minLength := by
  have all : ∀ n ∈ table.map (·.pattern.minLength), 0 < n := by decide
  exact all _ (List.mem_map_of_mem h)

/-- The rules of one kind. -/
def ofKind (kind : SpanKind) : List Rule := table.filter (·.kind == kind)

/-- Either all matches of the rules of a kind count, or there is one such rule. -/
theorem ofKind_cases (kind : SpanKind) :
    (∀ rule ∈ ofKind kind, rule.counts = always) ∨ ∃ rule, ofKind kind = [rule] := by
  cases kind with
  | script => exact .inr ⟨_, rfl⟩
  | comment => exact .inr ⟨_, rfl⟩
  | _ => left; simp [ofKind, table]

end Rule

namespace Head

/-! ## The earliest head -/

theorem earliest_eq_none_iff {heads : List (Head text)} : earliest heads = none ↔ heads = [] := by
  cases heads with
  | nil => simp [earliest]
  | cons h hs =>
    rw [earliest]
    split
    · simp
    · split <;> simp

theorem exists_earliest {heads : List (Head text)} {h : Head text} (mem : h ∈ heads) :
    ∃ e, earliest heads = some e :=
  Option.ne_none_iff_exists'.1 fun none => List.ne_nil_of_mem mem (earliest_eq_none_iff.1 none)

/-- The earliest head starts before all heads in front of it, and no later than those behind it. -/
theorem earliest_eq_some_iff {heads : List (Head text)} {e : Head text} :
    earliest heads = some e ↔ ∃ front back, heads = front ++ e :: back ∧
      (∀ h ∈ front, e.start < h.start) ∧ ∀ h ∈ back, e.start ≤ h.start := by
  constructor
  · intro h
    induction heads with
    | nil => simp [earliest] at h
    | cons g hs ih =>
      have least := fun f (hf : f ∈ hs) => le_of_earliest h (List.mem_cons_of_mem g hf)
      rw [earliest] at h
      split at h
      · rename_i none
        rw [Option.some.inj h, earliest_eq_none_iff.1 none]
        exact ⟨[], [], rfl, by simp, by simp⟩
      · rename_i f hf
        split at h
        · obtain rfl := Option.some.inj h
          exact ⟨[], hs, rfl, by simp, least⟩
        · rename_i later
          obtain rfl := Option.some.inj h
          obtain ⟨front, back, rfl, before, behind⟩ := ih hf
          refine ⟨g :: front, back, rfl, List.forall_mem_cons.2 ⟨by omega, before⟩, behind⟩
  · rintro ⟨front, back, rfl, before, behind⟩
    induction front with
    | nil =>
      rw [List.nil_append, earliest]
      split
      · rfl
      · rename_i g hg
        rw [if_pos (behind g (mem_of_earliest hg))]
    | cons f front ih =>
      obtain ⟨lt, before⟩ := List.forall_mem_cons.1 before
      rw [List.cons_append, earliest, ih before]
      exact if_neg (by omega)

/-- The earliest of the heads is the earliest of any of them that it is one of. -/
theorem earliest_filter {heads : List (Head text)} {e : Head text} {p : Head text → Bool}
    (h : earliest heads = some e) (hp : p e = true) : earliest (heads.filter p) = some e := by
  obtain ⟨front, back, rfl, before, behind⟩ := earliest_eq_some_iff.1 h
  refine earliest_eq_some_iff.2 ⟨front.filter p, back.filter p, by simp [hp], ?_, ?_⟩
  · exact fun h hm => before h (List.mem_filter.1 hm).1
  · exact fun h hm => behind h (List.mem_filter.1 hm).1

/-! ## Heads of one kind -/

/-- The head is what a rule of the table finds from some place on. -/
def IsSought (h : Head text) : Prop := h.rule ∈ Rule.table ∧ ∃ place, h.rule.seek place = some h.found

theorem IsSought.start_lt_stop {h : Head text} (sought : h.IsSought) : h.start < h.stop := by
  obtain ⟨hr, place, hm⟩ := sought
  have := Rule.add_minLength_le_of_seek hm
  have := Rule.minLength_pos hr
  unfold start stop
  omega

theorem seek_eq_some_iff {rule : Rule} {place : Place text} {h : Head text} :
    seek rule place = some h ↔ h.rule = rule ∧ h.rule.seek place = some h.found := by
  cases h with
  | mk r m =>
    simp only [seek, Option.map_eq_some_iff, Head.mk.injEq]
    constructor
    · rintro ⟨m', hm, rfl, rfl⟩
      exact ⟨rfl, hm⟩
    · rintro ⟨rfl, hm⟩
      exact ⟨m, hm, rfl, rfl⟩

theorem rule_of_resume {taken h g : Head text} (hg : resume taken h = some g) : g.rule = h.rule := by
  rw [resume] at hg
  split at hg
  · exact (seek_eq_some_iff.1 hg).1
  · rw [Option.some.inj hg]

theorem IsSought.resume {taken h g : Head text} (sought : h.IsSought)
    (hg : Head.resume taken h = some g) : g.IsSought := by
  have same := rule_of_resume hg
  rw [Head.resume] at hg
  split at hg
  · exact ⟨same ▸ sought.1, taken.found.stop, (seek_eq_some_iff.1 hg).2⟩
  · exact Option.some.inj hg ▸ sought

/-- The heads of one kind advance by themselves. -/
theorem filter_advance (taken : Head text) (heads : List (Head text)) (kind : SpanKind) :
    (advance taken heads).filter (·.rule.kind == kind) =
      advance taken (heads.filter (·.rule.kind == kind)) := by
  rw [advance, advance, List.filter_filterMap, List.filterMap_filter]
  refine List.filterMap_congr fun h _ => ?_
  cases hg : resume taken h with
  | none => simp
  | some g => simp [Option.filter, rule_of_resume hg]

/-- Heads of other kinds than that of the one that is taken stay. -/
theorem advance_of_kind_ne {taken : Head text} {heads : List (Head text)}
    (h : ∀ g ∈ heads, g.rule.kind ≠ taken.rule.kind) : advance taken heads = heads := by
  have stays : ∀ g ∈ heads, resume taken g = some g := fun g hg => by
    rw [resume, if_neg fun same => h g hg same.1]
  rw [advance, List.filterMap_congr stays, List.filterMap_some]

/-! ## The plain scan -/

/-- The plain scan by some rules: of what each finds from a place on, the earliest is taken, and the
scan goes on behind it; it stops when no rule finds anything. -/
def plain (rules : List Rule) (place : Place text) : List (Head text) :=
  match earliest (rules.filterMap (seek · place)) with
  | none => []
  | some taken =>
    if _h : place.offset < taken.stop then taken :: plain rules taken.found.stop else [taken]
termination_by place.after.length
decreasing_by exact Pattern.length_after_lt ‹_›

/-- What is taken is what one of the rules finds. -/
theorem seek_of_earliest {rules : List Rule} {place : Place text} {taken : Head text}
    (first : earliest (rules.filterMap (seek · place)) = some taken) :
    taken.rule ∈ rules ∧ seek taken.rule place = some taken := by
  obtain ⟨rule, hr, found⟩ := List.mem_filterMap.1 (mem_of_earliest first)
  obtain rfl := (seek_eq_some_iff.1 found).1
  exact ⟨hr, found⟩

/-- The plain scan goes on behind what it takes. -/
theorem plain_eq_cons {rules : List Rule} (sub : rules ⊆ Rule.table) {place : Place text}
    {taken : Head text} (first : earliest (rules.filterMap (seek · place)) = some taken) :
    plain rules place = taken :: plain rules taken.found.stop := by
  obtain ⟨hr, found⟩ := seek_of_earliest first
  have sought : taken.IsSought := ⟨sub hr, place, (seek_eq_some_iff.1 found).2⟩
  have lt : place.offset < taken.stop :=
    Nat.lt_of_le_of_lt (le_start_of_seek found) sought.start_lt_stop
  rw [plain, first]
  exact dif_pos lt

theorem ofKind_subset (kind : SpanKind) : Rule.ofKind kind ⊆ Rule.table :=
  fun _ h => (List.mem_filter.1 h).1

theorem kind_of_mem_ofKind {rule : Rule} {kind : SpanKind} (h : rule ∈ Rule.ofKind kind) :
    rule.kind = kind := by
  simpa using (List.mem_filter.1 h).2

/-- What was looked ahead for is, after one of these heads is taken, what a new search behind it
finds. -/
theorem advance_filterMap_seek {kind : SpanKind} {place : Place text} {taken : Head text}
    (first : earliest ((Rule.ofKind kind).filterMap (seek · place)) = some taken) :
    advance taken ((Rule.ofKind kind).filterMap (seek · place)) =
      (Rule.ofKind kind).filterMap (seek · taken.found.stop) := by
  obtain ⟨hr, found⟩ := seek_of_earliest first
  have sought : taken.IsSought := ⟨ofKind_subset kind hr, place, (seek_eq_some_iff.1 found).2⟩
  have lt := sought.start_lt_stop
  have le : place.offset ≤ taken.found.stop.offset :=
    Nat.le_trans (le_start_of_seek found) (Nat.le_of_lt lt)
  rw [advance, List.filterMap_filterMap]
  refine List.filterMap_congr fun rule hm => ?_
  -- a rule that passes over matches is the only one of its kind, so its match is the one taken
  have counts : rule.counts = Rule.always ∨ seek rule place = some taken := by
    rcases Rule.ofKind_cases kind with all | ⟨only, single⟩
    · exact .inl (all rule hm)
    · rw [single, List.mem_singleton] at hm hr
      exact .inr (hm ▸ hr ▸ found)
  cases hs : seek rule place with
  | none =>
    have counts := counts.resolve_right (by simp [hs])
    have nothing : rule.seek place = none := by simpa [seek] using hs
    simp [seek, Rule.seek_eq_none_of_le counts nothing le]
  | some h =>
    obtain ⟨same, ahead⟩ := seek_eq_some_iff.1 hs
    rw [Option.bind_some, resume, same, kind_of_mem_ofKind hm, kind_of_mem_ofKind hr]
    by_cases overlaps : h.start < taken.stop
    · rw [if_pos ⟨rfl, overlaps⟩]
    · rw [if_neg fun c => overlaps c.2]
      have counts := counts.resolve_right fun taken' => by
        obtain rfl := Option.some.inj (hs.symm.trans taken')
        exact overlaps lt
      refine (seek_eq_some_iff.2 ⟨same, ?_⟩).symm
      exact Rule.seek_of_le_start (same ▸ counts) ahead le (Nat.le_of_not_lt overlaps)

/-- The heads of one kind that are taken are those of the plain scan by the rules of that kind, if
it starts where these heads were looked for. -/
theorem filter_merge {heads : List (Head text)} (sought : ∀ h ∈ heads, h.IsSought) {kind : SpanKind}
    {place : Place text} (ahead : heads.filter (·.rule.kind == kind) =
      (Rule.ofKind kind).filterMap (seek · place)) :
    (merge heads).filter (·.rule.kind == kind) = plain (Rule.ofKind kind) place := by
  fun_induction merge heads generalizing place with
  | case1 heads none =>
    rw [earliest_eq_none_iff.1 none] at ahead
    rw [plain, ← ahead]
    rfl
  | case2 heads taken first lt ih =>
    have advanced : ∀ g ∈ advance taken heads, g.IsSought := fun g hg => by
      obtain ⟨h, hm, hg⟩ := List.mem_filterMap.1 hg
      exact (sought h hm).resume hg
    by_cases same : taken.rule.kind = kind
    · have next := earliest_filter (p := (·.rule.kind == kind)) first (by simpa using same)
      rw [ahead] at next
      rw [List.filter_cons_of_pos (by simpa using same), plain_eq_cons (ofKind_subset kind) next]
      congr 1
      refine ih advanced ?_
      rw [filter_advance, ahead, advance_filterMap_seek next]
    · rw [List.filter_cons_of_neg (by simpa using same)]
      refine ih advanced ?_
      rw [filter_advance, advance_of_kind_ne, ahead]
      intro g hg e
      have : g.rule.kind = kind := by simpa using (List.mem_filter.1 hg).2
      exact same (e ▸ this)
  | case3 heads taken first stuck =>
    exact absurd (sought taken (mem_of_earliest first)).start_lt_stop stuck

theorem merge_nil : merge ([] : List (Head text)) = [] := by
  rw [merge]
  rfl

/-- The earliest of the heads is taken, and the others go on from it. -/
theorem merge_eq_cons {heads : List (Head text)} {taken : Head text}
    (first : earliest heads = some taken) (lt : taken.start < taken.stop) :
    merge heads = taken :: merge (advance taken heads) := by
  rw [merge]
  split
  · rename_i none
    cases first.symm.trans none
  · rename_i e same
    obtain rfl := Option.some.inj (first.symm.trans same)
    exact dif_pos lt

/-- What holds of the heads, and of what becomes of a head of which it holds, holds of all heads
that are taken. -/
theorem forall_mem_merge {P : Head text → Prop}
    (kept : ∀ {taken h g : Head text}, P h → resume taken h = some g → P g)
    {heads : List (Head text)} (h : ∀ g ∈ heads, P g) : ∀ g ∈ merge heads, P g := by
  fun_induction merge heads with
  | case1 => simp
  | case2 heads taken first lt ih =>
    refine List.forall_mem_cons.2 ⟨h taken (mem_of_earliest first), ih fun g hg => ?_⟩
    obtain ⟨f, hf, hg⟩ := List.mem_filterMap.1 hg
    exact kept (h f hf) hg
  | case3 heads taken first _ => simpa using h taken (mem_of_earliest first)

/-- The heads that are taken are of the rules that were looked ahead for. -/
theorem rule_of_mem_merge {rules : List Rule} {heads : List (Head text)}
    (h : ∀ g ∈ heads, g.rule ∈ rules) : ∀ g ∈ merge heads, g.rule ∈ rules :=
  forall_mem_merge (fun hf hg => rule_of_resume hg ▸ hf) h

/-- The heads of one kind are those that the rules of that kind find. -/
theorem filter_filterMap_seek (rules : List Rule) (kind : SpanKind) (place : Place text) :
    (rules.filterMap (seek · place)).filter (·.rule.kind == kind) =
      (rules.filter (·.kind == kind)).filterMap (seek · place) := by
  rw [List.filter_filterMap, List.filterMap_filter]
  refine List.filterMap_congr fun rule _ => ?_
  cases hs : seek rule place with
  | none => simp
  | some h => simp [Option.filter, (seek_eq_some_iff.1 hs).1]

end Head

/-! ## Spans of one kind -/

namespace Span

/-- The spans of a kind come from the matches of the rules of this kind. -/
def source : SpanKind → SpanKind
  | .classToken => .classAttribute
  | kind => kind

theorem source_of_ne {kind : SpanKind} (h : kind ≠ .classToken) : source kind = kind := by
  cases kind with
  | classToken => exact absurd rfl h
  | _ => rfl

/-- The classes of a span that have modifiers. -/
def modifiedClasses (s : Span) : List Span :=
  ((s.value?.map Name.classTokens).getD []).filter (!·.names.isEmpty)

/-- What the span of a match gives for a kind that comes from it: its classes that have modifiers,
or the span itself. -/
def given (kind : SpanKind) (s : Span) : List Span :=
  if kind = .classToken then s.modifiedClasses else [s]

/-- The plain scan of a text for the spans of one kind. -/
def plainScan (text : String) (kind : SpanKind) : List Span :=
  (Head.plain (Rule.ofKind (source kind)) (Place.first text.toList)).flatMap fun h =>
    given kind h.span

variable {kinds : List SpanKind} {kind : SpanKind} {s : Span}

theorem kind_of_mem_modifiedClasses {t : Span} (h : t ∈ s.modifiedClasses) : t.kind = .classToken := by
  have h := (List.mem_filter.1 h).1
  cases hv : s.value? with
  | none => simp [hv] at h
  | some value =>
    rw [hv, Option.map_some, Option.getD_some] at h
    obtain ⟨token, -, rfl⟩ := List.mem_map.1 h
    rfl

theorem expand_of_split (asked : .classToken ∈ kinds) (h : s.kind = .classAttribute) :
    expand kinds s = (if .classAttribute ∈ kinds then [s] else []) ++ s.modifiedClasses := by
  rw [expand, if_pos (by simp [asked, h])]
  simp [modifiedClasses]

theorem expand_of_not_split (h : .classToken ∈ kinds → s.kind ≠ .classAttribute) :
    expand kinds s = [s] := by
  rw [expand, if_neg (by simpa using h)]

/-- Of what the span of a match is expanded to, the class tokens are its classes with modifiers. -/
theorem filter_expand_classToken (matched : s.kind ≠ .classToken) :
    (expand kinds s).filter (·.kind == .classToken) =
      if s.kind = .classAttribute ∧ .classToken ∈ kinds then s.modifiedClasses else [] := by
  have all : s.modifiedClasses.filter (·.kind == .classToken) = s.modifiedClasses :=
    List.filter_eq_self.2 fun t ht => by simp [kind_of_mem_modifiedClasses ht]
  by_cases split : s.kind = .classAttribute ∧ .classToken ∈ kinds
  · rw [if_pos split, expand_of_split split.2 split.1, List.filter_append, all]
    split <;> simp [matched]
  · rw [if_neg split, expand_of_not_split fun h h' => split ⟨h', h⟩]
    simp [matched]

/-- Of what the span of a match is expanded to, another kind has the span itself. -/
theorem filter_expand_of_ne (hk : kind ≠ .classToken) (served : s.kind ∈ kinds ∨
    .classToken ∈ kinds ∧ s.kind = .classAttribute) :
    (expand kinds s).filter (·.kind == kind) = if s.kind = kind ∧ kind ∈ kinds then [s] else [] := by
  have none : s.modifiedClasses.filter (·.kind == kind) = [] :=
    List.filter_eq_nil_iff.2 fun t ht => by simpa [kind_of_mem_modifiedClasses ht] using Ne.symm hk
  by_cases split : .classToken ∈ kinds ∧ s.kind = .classAttribute
  · rw [expand_of_split split.1 split.2, List.filter_append, none, List.append_nil]
    by_cases e : s.kind = kind
    · subst e
      rw [← split.2]
      split <;> simp_all
    · split <;> simp [e]
  · have served := served.resolve_right split
    rw [expand_of_not_split fun h h' => split ⟨h, h'⟩]
    by_cases e : s.kind = kind
    · simp [e, e ▸ served]
    · simp [e]

/-- Of what the span of a match is expanded to, the spans of one kind are those that it gives for
this kind, if it is the source of the kind and the kind is asked for. -/
theorem filter_expand (matched : s.kind ≠ .classToken) (served : s.kind ∈ kinds ∨
    .classToken ∈ kinds ∧ s.kind = .classAttribute) :
    (expand kinds s).filter (·.kind == kind) =
      if s.kind = source kind ∧ kind ∈ kinds then given kind s else [] := by
  by_cases hk : kind = .classToken
  · subst hk
    exact filter_expand_classToken matched
  · rw [filter_expand_of_ne hk served, source_of_ne hk, given, if_neg hk]

/-- No rule is for class tokens. -/
theorem kind_ne_classToken {rule : Rule} (h : rule ∈ Rule.table) : rule.kind ≠ .classToken := by
  have all : ∀ k ∈ Rule.table.map (·.kind), k ≠ .classToken := by decide
  exact all _ (List.mem_map_of_mem h)

theorem serves_iff {rule : Rule} : rule.serves kinds = true ↔
    rule.kind ∈ kinds ∨ .classToken ∈ kinds ∧ rule.kind = .classAttribute := by
  simp [Rule.serves]

/-- The rules of the source of a kind that is asked for are all run. -/
theorem filter_serves (asked : kind ∈ kinds) :
    (Rule.table.filter (·.serves kinds)).filter (·.kind == source kind) =
      Rule.ofKind (source kind) := by
  rw [List.filter_filter, Rule.ofKind]
  refine List.filter_congr fun rule _ => ?_
  by_cases e : rule.kind = source kind
  · have served : rule.serves kinds = true := serves_iff.2 (by
      rw [e]
      by_cases hk : kind = .classToken
      · exact .inr ⟨hk ▸ asked, by rw [hk, source]⟩
      · rw [source_of_ne hk]
        exact .inl asked)
    simp [served]
  · simp [e]

/-- Of what some matches are expanded to, the spans of one kind come from the matches of its
source. -/
theorem filter_flatMap_expand {text : List Char} {hs : List (Head text)}
    (run : ∀ h ∈ hs, h.rule ∈ Rule.table.filter (·.serves kinds)) :
    (hs.flatMap fun h => expand kinds h.span).filter (·.kind == kind) =
      if kind ∈ kinds then
        (hs.filter (·.rule.kind == source kind)).flatMap fun h => given kind h.span
      else [] := by
  induction hs with
  | nil => simp
  | cons h hs ih =>
    obtain ⟨first, run⟩ := List.forall_mem_cons.1 run
    obtain ⟨hr, served⟩ := List.mem_filter.1 first
    have expanded : (expand kinds h.span).filter (·.kind == kind) =
        if h.rule.kind = source kind ∧ kind ∈ kinds then given kind h.span else [] :=
      filter_expand (kind_ne_classToken hr) (serves_iff.1 served)
    rw [List.flatMap_cons, List.filter_append, expanded, ih run, List.filter_cons]
    by_cases asked : kind ∈ kinds
    · by_cases e : h.rule.kind = source kind <;> simp [asked, e]
    · simp [asked]

/-! ## The heads of a scan -/

variable (text : String) (kinds : List SpanKind)

/-- The heads that the scan of a text for some kinds takes. -/
def heads : List (Head text.toList) :=
  Head.merge ((Rule.table.filter (·.serves kinds)).filterMap
    (Head.seek · (Place.first text.toList)))

/-- The spans of a scan are expanded from its heads. -/
theorem scan_eq : scan text kinds = (heads text kinds).flatMap fun h => expand kinds h.span := by
  rw [scan, Head.readAll_eq _ CharCounter.start_isAt, List.flatMap_map]
  rfl

/-- What is looked ahead for in a scan is sought by a rule that serves it. -/
theorem sought_of_mem_filterMap_seek {h : Head text.toList}
    (mem : h ∈ (Rule.table.filter (·.serves kinds)).filterMap
      (Head.seek · (Place.first text.toList))) :
    h.rule ∈ Rule.table.filter (·.serves kinds) ∧ h.IsSought := by
  obtain ⟨rule, hr, hs⟩ := List.mem_filterMap.1 mem
  obtain ⟨same, hs⟩ := Head.seek_eq_some_iff.1 hs
  exact ⟨same ▸ hr, same ▸ (List.mem_filter.1 hr).1, _, hs⟩

variable {text kinds}

theorem isSought_of_mem_heads {h : Head text.toList} (mem : h ∈ heads text kinds) : h.IsSought :=
  Head.forall_mem_merge Head.IsSought.resume
    (fun _ hm => (sought_of_mem_filterMap_seek text kinds hm).2) h mem

theorem serves_of_mem_heads {h : Head text.toList} (mem : h ∈ heads text kinds) :
    h.rule ∈ Rule.table.filter (·.serves kinds) :=
  Head.rule_of_mem_merge (fun _ hm => (sought_of_mem_filterMap_seek text kinds hm).1) h mem

/-- The heads of the source of a kind that is asked for are those of the plain scan by its rules. -/
theorem filter_heads (asked : kind ∈ kinds) :
    (heads text kinds).filter (·.rule.kind == source kind) =
      Head.plain (Rule.ofKind (source kind)) (Place.first text.toList) := by
  refine Head.filter_merge (fun h hm => (sought_of_mem_filterMap_seek text kinds hm).2) ?_
  rw [Head.filter_filterMap_seek, filter_serves asked]

/-- The spans of a kind that is asked for are those of the plain scan for that kind. -/
theorem filter_scan (asked : kind ∈ kinds) :
    (scan text kinds).filter (·.kind == kind) = plainScan text kind := by
  rw [scan_eq, filter_flatMap_expand fun _ hm => serves_of_mem_heads hm, if_pos asked,
    filter_heads asked]
  rfl

/-- A scan gives only spans of the kinds that are asked for. -/
theorem kind_of_mem_scan (h : s ∈ scan text kinds) : s.kind ∈ kinds := by
  rw [scan_eq] at h
  obtain ⟨g, hm, hs⟩ := List.mem_flatMap.1 h
  have served := serves_iff.1 (List.mem_filter.1 (serves_of_mem_heads hm)).2
  by_cases split : .classToken ∈ kinds ∧ g.span.kind = .classAttribute
  · rw [expand_of_split split.1 split.2] at hs
    rcases List.mem_append.1 hs with hs | hs
    · split at hs
      · rename_i asked
        rw [List.mem_singleton.1 hs, split.2]
        exact asked
      · simp at hs
    · exact kind_of_mem_modifiedClasses hs ▸ split.1
  · rw [expand_of_not_split fun h h' => split ⟨h, h'⟩, List.mem_singleton] at hs
    exact hs ▸ served.resolve_right split

/-- The spans of a kind that is asked for are those of the scan for that kind alone. -/
theorem filter_scan_eq_scan (asked : kind ∈ kinds) :
    (scan text kinds).filter (·.kind == kind) = scan text [kind] := by
  have own : (scan text [kind]).filter (·.kind == kind) = scan text [kind] :=
    List.filter_eq_self.2 fun s hs => beq_iff_eq.2 (List.mem_singleton.1 (kind_of_mem_scan hs))
  rw [filter_scan asked, ← filter_scan (List.mem_singleton_self kind), own]

/-- The spans of one kind, in the scan of a text for several kinds, are those of the plain scan for
that kind; there are none of a kind that is not asked for. -/
theorem scan_filter_kind (text : String) (kinds : List SpanKind) (kind : SpanKind) :
    (scan text kinds).filter (·.kind == kind) =
      if kind ∈ kinds then plainScan text kind else [] := by
  by_cases asked : kind ∈ kinds
  · rw [if_pos asked, filter_scan asked]
  · rw [if_neg asked, scan_eq, filter_flatMap_expand fun _ hm => serves_of_mem_heads hm,
      if_neg asked]

end Span

end TemplatePaint
