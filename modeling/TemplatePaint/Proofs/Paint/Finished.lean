import TemplatePaint.Paint.Edit
import Mathlib.Data.List.Basic

/-!
# Finished plans

A finished plan is a canonical form of the regions that were pushed: it stands
in the strict order of `Region.Before`, and has of each place the region that
was pushed there first.

* `Region.filter_place_finish`: what a finished plan has in a place;
* `Region.finish_eq_iff`: lists are finished alike just if they have the same
  first region in each place;
* `Region.finish_canonical`: the laws of finishing, and that the edits of a
  plan share out its regions by group.
-/

namespace TemplatePaint

namespace Region

/-- Regions of one place may stand in either order, so finishing keeps the order they have. -/
theorem le_of_place_eq {r s : Region} (same : r.place = s.place) : r.le s = true := by
  obtain ⟨group, range⟩ := Prod.mk.inj same
  rw [le_iff, group, range]
  omega

/-- Of each place, a finished plan has the region that was pushed there first, if one was. -/
theorem filter_place_finish (regions : List Region) (p : Group × TextRange) :
    (finish regions).filter (·.place = p) = (regions.find? (·.place = p)).toList := by
  have tied (r s : Region) (hr : decide (r.place = p) = true) (hs : decide (s.place = p) = true) :
      r.le s = true :=
    le_of_place_eq ((of_decide_eq_true hr).trans (of_decide_eq_true hs).symm)
  exact (filter_sortBy tied _).trans (filter_distinctBy place regions p)

/-- Lists are finished alike just if they have the same first region in each place. -/
theorem finish_eq_iff {others regions : List Region} : finish others = finish regions ↔
    ∀ p, others.find? (·.place = p) = regions.find? (·.place = p) := by
  constructor
  · intro same p
    have lists : (others.find? (·.place = p)).toList = (regions.find? (·.place = p)).toList := by
      rw [← filter_place_finish, ← filter_place_finish, same]
    rw [← Option.head?_toList (o := others.find? (·.place = p)), lists, Option.head?_toList]
  · intro first
    refine eq_of_pairwise_of_mem_iff Before.asymm (pairwise_finish _) (pairwise_finish _)
      fun r => ?_
    have same := first r.place
    exact mem_finish.trans ((Iff.of_eq (congrArg (· = some r) same)).trans mem_finish.symm)

/-- Both lists have the same regions, and in each place the same order among them. -/
def SameInPlaces (others regions : List Region) : Prop :=
  ∀ p, others.filter (·.place = p) = regions.filter (·.place = p)

theorem sameInPlaces_swap (before after : List Region) {r s : Region} (ne : r.place ≠ s.place) :
    SameInPlaces (before ++ s :: r :: after) (before ++ r :: s :: after) := by
  intro p
  have apart : ¬ (r.place = p ∧ s.place = p) := fun both => ne (both.1.trans both.2.symm)
  by_cases hr : r.place = p <;> by_cases hs : s.place = p
  · exact absurd ⟨hr, hs⟩ apart
  all_goals simp [hr, hs]

/-- Pushing regions of different places in another order makes no difference. -/
theorem finish_of_sameInPlaces {others regions : List Region} (same : SameInPlaces others regions) :
    finish others = finish regions :=
  finish_eq_iff.2 fun p => by rw [← List.head?_filter, ← List.head?_filter, same p]

/-- Taken group by group, the regions of a plan are those whose group is listed. -/
theorem perm_flatMap_inGroup (plan : List Region) {groups : List Group} (nodup : groups.Nodup) :
    (groups.flatMap (inGroup plan)).Perm (plan.filter (·.group ∈ groups)) := by
  induction groups with
  | nil => simp
  | cons g gs ih =>
    obtain ⟨first, rest⟩ := List.nodup_cons.1 nodup
    have own : (plan.filter (·.group ∈ g :: gs)).filter (·.group == g) = inGroup plan g := by
      rw [List.filter_filter, inGroup]
      refine List.filter_congr fun r _ => ?_
      by_cases here : r.group = g <;> simp [here]
    have others : (plan.filter (·.group ∈ g :: gs)).filter (fun r => !(r.group == g)) =
        plan.filter (·.group ∈ gs) := by
      rw [List.filter_filter]
      refine List.filter_congr fun r _ => ?_
      by_cases here : r.group = g <;> simp [here, first]
    have split := List.filter_append_perm (·.group == g) (plan.filter (·.group ∈ g :: gs))
    rw [own, others] at split
    exact ((ih rest).append_left _).trans split

end Region

/-- Together, the edits of a plan have its regions of the edited groups. -/
theorem Edit.perm_flatMap_ofPlan (plan : List Region) {groups : List Group}
    (nodup : groups.Nodup) :
    ((ofPlan plan groups).flatMap regions).Perm (plan.filter (·.group ∈ groups)) := by
  have held : (ofPlan plan groups).flatMap regions = groups.flatMap (Region.inGroup plan) :=
    calc (ofPlan plan groups).flatMap regions
      _ = (ofPlan plan groups).flatMap fun e => Region.inGroup plan e.group :=
        List.flatMap_congr fun e he => regions_of_mem_ofPlan he
      _ = ((ofPlan plan groups).map group).flatMap (Region.inGroup plan) :=
        (List.flatMap_map ..).symm
      _ = groups.flatMap (Region.inGroup plan) := by rw [map_group_ofPlan]
  rw [held]
  exact Region.perm_flatMap_inGroup plan nodup

namespace Region

/-- Finishing is a canonical form: it puts the pushed regions in their strict order, with the first
of each place and nothing else; a finished plan stays as it is; and regions of different places may
be pushed in any order. The edits of a plan for different groups are one for each group, in the
order of the groups, each with the regions of its group in the plan's order, and lose no region
of these groups. -/
theorem finish_canonical (pushed : List Region) :
    (finish pushed).Pairwise Before ∧
    (∀ p, (finish pushed).filter (·.place = p) = (pushed.find? (·.place = p)).toList) ∧
    finish (finish pushed) = finish pushed ∧
    (∀ others, SameInPlaces others pushed → finish others = finish pushed) ∧
    ∀ (plan : List Region) (groups : List Group), groups.Nodup →
      (Edit.ofPlan plan groups).map Edit.group = groups ∧
      (∀ e ∈ Edit.ofPlan plan groups, e.regions = plan.filter (·.group = e.group)) ∧
      ((Edit.ofPlan plan groups).flatMap Edit.regions).Perm (plan.filter (·.group ∈ groups)) := by
  refine ⟨pairwise_finish pushed, filter_place_finish pushed,
    finish_of_pairwise (pairwise_finish pushed), fun others => finish_of_sameInPlaces,
    fun plan groups nodup => ⟨Edit.map_group_ofPlan plan groups, fun e he => ?_,
      Edit.perm_flatMap_ofPlan plan nodup⟩⟩
  exact Edit.regions_of_mem_ofPlan he

/-- Of two regions in one place the earlier is kept, whether another is pushed between them or
behind them. -/
theorem finish_canonical_two_tooltips :
    let dim := plain ⟨0, 2⟩ .dim
    let tip (tooltip : String) : Region := ⟨⟨4, 6⟩, .controller, none, none, tooltip⟩
    let groups := [Group.controller, .frame, .dim]
    finish [tip "a", dim, tip "b"] = [dim, tip "a"] ∧
    finish [tip "a", tip "b", dim] = finish [tip "a", dim, tip "b"] ∧
    ((Edit.ofPlan [dim, tip "a"] groups).flatMap Edit.regions).Perm
      ([dim, tip "a"].filter (·.group ∈ groups)) := by
  intro dim tip groups
  refine ⟨by decide, ?_, ?_⟩
  · obtain ⟨-, -, -, reordered, -⟩ := finish_canonical [tip "a", dim, tip "b"]
    exact reordered _ (sameInPlaces_swap [_] [] (by decide))
  · obtain ⟨-, -, -, -, edits⟩ := finish_canonical []
    exact (edits _ _ (by decide)).2.2

end Region

end TemplatePaint
