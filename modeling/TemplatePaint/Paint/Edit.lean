import TemplatePaint.Paint.Plan

/-!
# Edits of groups

A pass replaces or clears each group that it owns: `map_group_ofPlan` and
`map_group_clearAll` say that there is one edit for each group, and
`regions_of_mem_ofPlan` what the group holds then.
-/

namespace TemplatePaint

/-- What a group holds from now on. -/
inductive Edit where
  | replace (group : Group) (regions : List Region)
  | clear (group : Group)
deriving DecidableEq

namespace Edit

/-- The group that is changed. -/
def group : Edit → Group
  | replace group _ | clear group => group

/-- The regions of the group from now on. -/
def regions : Edit → List Region
  | replace _ regions => regions
  | clear _ => []

/-- One edit for each group: a group that the plan leaves empty is cleared. -/
def ofPlan (plan : List Region) (groups : List Group) : List Edit :=
  groups.map fun group =>
    let regions := Region.inGroup plan group
    if regions.isEmpty then clear group else replace group regions

/-- Every group is cleared. -/
def clearAll (groups : List Group) : List Edit := groups.map clear

theorem map_group_ofPlan (plan : List Region) (groups : List Group) :
    (ofPlan plan groups).map group = groups := by
  rw [ofPlan, List.map_map]
  refine (List.map_congr_left fun g _ => ?_).trans (List.map_id _)
  show group (if _ then clear g else replace g _) = g
  split <;> rfl

/-- After the edits of a plan, each group holds the regions that the plan has for it. -/
theorem regions_of_mem_ofPlan {plan : List Region} {groups : List Group} {e : Edit}
    (h : e ∈ ofPlan plan groups) : e.regions = Region.inGroup plan e.group := by
  obtain ⟨g, -, rfl⟩ := List.mem_map.1 h
  dsimp only
  split
  · rename_i none
    exact (List.isEmpty_iff.1 none).symm
  · rfl

/-- An empty plan clears every group. -/
theorem ofPlan_nil (groups : List Group) : ofPlan [] groups = clearAll groups := rfl

theorem map_group_clearAll (groups : List Group) : (clearAll groups).map group = groups := by
  rw [clearAll, List.map_map]
  exact List.map_id _

end Edit

end TemplatePaint
