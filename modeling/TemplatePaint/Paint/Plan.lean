import TemplatePaint.Links
import TemplatePaint.Paint.Group

/-!
# Plans

A plan lists the regions to be painted for a context and what is linked to
it. A finished plan is in the order of ranges and then groups, and paints no
range twice in one group; of two regions for one range and group, the earlier
one stands. Regions that come in order already stay as they are
(`Region.finish_of_pairwise`), and those of one group are put in order
(`Region.inGroup_finish`).
-/

namespace TemplatePaint

/-- A stretch of text to be painted. -/
structure Region where
  range : TextRange
  group : Group
  /-- What is shown in place of the text. -/
  replacement? : Option String
  /-- The text behind the replacement. -/
  detail? : Option String
  tooltip? : Option String
deriving DecidableEq

namespace Region

/-- A region without a replacement or a tooltip. -/
def plain (range : TextRange) (group : Group) : Region := ⟨range, group, none, none, none⟩

/-- What a folded range is replaced by. -/
def foldedGlyph : String := "⋯"

/-- A folded stretch of a text. -/
def folded (text : String) (range : TextRange) : Region :=
  ⟨range, .folded, foldedGlyph, slice text range, none⟩

/-- The lines of a frame. -/
def scope (range : TextRange) : Region := plain range .frameScope

/-- The order by range, and by group among regions of one range. -/
def le (r s : Region) : Bool :=
  if r.range = s.range then r.group.rank ≤ s.group.rank else r.range.le s.range

/-- The regions in order, and of each range and group the first. -/
def finish (regions : List Region) : List Region :=
  sortBy le (distinctBy (fun r => (r.group, r.range)) regions)

/-- The regions of one group. -/
def inGroup (regions : List Region) (group : Group) : List Region :=
  regions.filter (·.group == group)

/-- Regions are ordered by start, then by stop, then by group. -/
theorem le_iff {r s : Region} : r.le s = true ↔ r.range.start < s.range.start ∨
    r.range.start = s.range.start ∧ (r.range.stop < s.range.stop ∨
      r.range.stop = s.range.stop ∧ r.group.rank ≤ s.group.rank) := by
  rw [le]
  split
  · rename_i same
    simp [same]
  · rename_i other
    have apart : ¬ (r.range.start = s.range.start ∧ r.range.stop = s.range.stop) :=
      fun same => other (TextRange.eq_of_ends same.1 same.2)
    rw [TextRange.le_iff]
    omega

theorem le_trans (r s t : Region) (h : r.le s = true) (h' : s.le t = true) : r.le t = true := by
  rw [le_iff] at *
  omega

theorem le_total (r s : Region) : r.le s = true ∨ s.le r = true := by
  rw [le_iff, le_iff]
  omega

/-- Where a region is painted: no two regions of a finished plan are in one place. -/
def place (r : Region) : Group × TextRange := (r.group, r.range)

/-- The region stands before another in a finished plan. -/
def Before (r s : Region) : Prop :=
  r.range.start < s.range.start ∨ r.range.start = s.range.start ∧
    (r.range.stop < s.range.stop ∨ r.range.stop = s.range.stop ∧ r.group.rank < s.group.rank)

theorem Before.asymm (r s : Region) (h : r.Before s) : ¬ s.Before r := by
  unfold Before at *
  omega

theorem Before.le {r s : Region} (h : r.Before s) : r.le s = true := by
  rw [le_iff]
  unfold Before at h
  omega

theorem Before.place_ne {r s : Region} (h : r.Before s) : r.place ≠ s.place := by
  intro same
  obtain ⟨group, range⟩ := Prod.mk.inj same
  rw [Before, group, range] at h
  omega

/-- Of regions in order, those in different places stand before each other. -/
theorem before_of_le {r s : Region} (le : r.le s = true) (ne : r.place ≠ s.place) :
    r.Before s := by
  rw [le_iff] at le
  unfold Before
  by_cases range : r.range = s.range
  · have rank : r.group.rank ≠ s.group.rank := fun same =>
      ne (Prod.ext (Group.rank_injective same) range)
    rw [range] at le ⊢
    omega
  · have apart : ¬ (r.range.start = s.range.start ∧ r.range.stop = s.range.stop) :=
      fun same => range (TextRange.eq_of_ends same.1 same.2)
    omega

/-- Of each range and group, a finished plan has the first region. -/
theorem mem_finish {regions : List Region} {r : Region} : r ∈ finish regions ↔
    regions.find? (fun s => (s.group, s.range) = (r.group, r.range)) = some r :=
  (perm_sortBy _ _).mem_iff.trans mem_distinctBy

/-- A finished plan is in order, and has no place twice. -/
theorem pairwise_finish (regions : List Region) : (finish regions).Pairwise Before := by
  have distinct : ((finish regions).map place).Nodup :=
    ((perm_sortBy le _).map place).nodup_iff.2 (nodup_map_distinctBy place regions)
  exact ((pairwise_sortBy le_trans le_total _).and (List.pairwise_map.1 distinct)).imp
    fun ⟨le, ne⟩ => before_of_le le ne

/-- Regions that come in order, with no place twice, are finished as they are. -/
theorem finish_of_pairwise {regions : List Region} (ordered : regions.Pairwise Before) :
    finish regions = regions := by
  rw [finish, distinctBy_of_nodup, sortBy_of_pairwise]
  · exact ordered.imp Before.le
  · exact List.pairwise_map.2 (ordered.imp Before.place_ne)

/-- The regions of one group, if no two are in one place, are finished in their order. -/
theorem inGroup_finish {regions ordered : List Region} {group : Group}
    (members : ∀ r, r ∈ ordered ↔ r ∈ regions ∧ r.group = group)
    (sorted : ordered.Pairwise Before) : inGroup (finish regions) group = ordered := by
  refine eq_of_pairwise_of_mem_iff Before.asymm ((pairwise_finish regions).filter _) sorted
    fun r => ?_
  rw [inGroup, List.mem_filter, beq_iff_eq, mem_finish]
  constructor
  · rintro ⟨found, own⟩
    exact (members r).2 ⟨List.mem_of_find?_eq_some found, own⟩
  · intro hr
    obtain ⟨mem, own⟩ := (members r).1 hr
    refine ⟨?_, own⟩
    -- the regions of this place are of the group, so there is no other
    refine find?_eq_some_of_unique mem (decide_eq_true rfl) fun s hs here => ?_
    have same : s.place = r.place := of_decide_eq_true here
    have hs := (members s).2 ⟨hs, (Prod.mk.inj same).1.trans own⟩
    refine Classical.byContradiction fun other => ?_
    rcases rel_or_rel_of_ne sorted hs hr other with before | before
    · exact before.place_ne same
    · exact before.place_ne same.symm

theorem inGroup_eq_self {regions : List Region} {group : Group}
    (own : ∀ r ∈ regions, r.group = group) : inGroup regions group = regions :=
  List.filter_eq_self.2 fun r hr => beq_iff_eq.2 (own r hr)

end Region

/-- How what is linked becomes regions. -/
inductive Style where
  /-- Everything but the linked spans is dimmed. -/
  | dimOthers
  /-- The linked spans are painted in one group. -/
  | highlight (group : Group)
  /-- Each modifier is painted in its bucket, and exact matches in their group. -/
  | buckets
  /-- Class attributes are folded, except those that share a character with an expanded range
  or are one. -/
  | fold (expanded : List TextRange)

/-- The ranges from `pos` on up to `total` that lie between the given ones, which are sorted. -/
def gapsFrom (total : Nat) : (pos : Nat) → List TextRange → List TextRange
  | pos, [] => if pos < total then [⟨pos, total⟩] else []
  | pos, r :: rs =>
    let later := gapsFrom total (max pos r.stop) rs
    if pos < r.start then ⟨pos, r.start⟩ :: later else later

/-- The ranges up to `total` that no given range covers. -/
def complement (ranges : List TextRange) (total : Nat) : List TextRange :=
  gapsFrom total 0
    (sortBy TextRange.le (ranges.map fun r => ⟨min r.start total, min r.stop total⟩))

namespace Style

/-- The controllers of a span, for its tooltip. -/
def tooltip? (group : Group) (s : Span) : Option String :=
  if group = .controller ∧ s.names ≠ [] then
    let label := if s.kind = .controllerReference then "Controller" else "Controllers"
    some (label ++ ": " ++ ", ".intercalate (distinctIdentifiers s.names))
  else none

/-- A span painted in a group. -/
def highlighted (group : Group) (s : Span) : Region :=
  { Region.plain s.range group with tooltip? := tooltip? group s }

/-- The modifiers, each in its bucket. -/
def bucketed (byModifier : List (String × List TextRange)) : List Region :=
  byModifier.zipIdx.flatMap fun ((_, ranges), number) =>
    ranges.map (Region.plain · (.bucket number))

/-- The class attributes, folded unless they are expanded. -/
def foldedExcept (expanded : List TextRange) (text : String) (spans : List Span) : List Region :=
  let collapsed (s : Span) : Bool :=
    s.kind == .classAttribute && !expanded.any fun e => e.overlaps s.range || e == s.range
  (spans.filter collapsed).map fun s => .folded text s.range

/-- The regions that a style paints, in no particular order. -/
def regions (text : String) (links : Links) : Style → List Region
  | .fold expanded => foldedExcept expanded text links.spans
  | .dimOthers =>
    (complement (links.spans.map (·.range)) text.toList.length).map (Region.plain · .dim)
  | .highlight group => links.spans.map (highlighted group)
  | .buckets => bucketed links.byModifier ++ links.exact.map (Region.plain · .modifierExact)

/-- Folding goes on whatever the cursor stands on; the other styles need an active context. -/
def applies (context : Context) : Style → Bool
  | .fold _ => true
  | _ => context.isActive

/-- The regions to be painted for a context and what is linked to it. -/
def plan (text : String) (context : Context) (links : Links) (style : Style) : List Region :=
  if style.applies context then Region.finish (style.regions text links) else []

end Style

end TemplatePaint
