/-!
# Groups of painted regions

Each region belongs to a group, which the host draws in one style and
replaces as a whole. The modifiers of a class go round a few colors, its
buckets. `Group.rank` orders the groups as they are listed here, and
`Group.rank_injective` says that it tells them apart.
-/

namespace TemplatePaint

/-- The style of a painted region. -/
inductive Group where
  /-- Text outside the embedded tags. -/
  | dim
  /-- A folded class attribute. -/
  | folded
  /-- A modifier, in one of the colors. -/
  | modifierBucket (index : Fin 256)
  /-- A class with exactly the modifiers of the class at the cursor. -/
  | modifierExact
  /-- A span that names the controller at the cursor. -/
  | controller
  /-- A span that names the frame at the cursor. -/
  | frame
  /-- The lines of the frame around the cursor. -/
  | frameScope
deriving DecidableEq

namespace Group

/-- The place of the group in the order of groups. -/
def rank : Group → Nat
  | dim => 0
  | folded => 1
  | modifierBucket index => 2 + index
  | modifierExact => 258
  | controller => 259
  | frame => 260
  | frameScope => 261

/-- The order tells the groups apart. -/
theorem rank_injective {g h : Group} (e : g.rank = h.rank) : g = h := by
  cases g <;> cases h <;> grind [rank]

/-- The suggested colors of the modifier buckets. -/
def palette : List String :=
  ["rgba(255, 255, 0, 0.2)", "rgba(0, 255, 255, 0.2)", "rgba(255, 0, 255, 0.2)",
   "rgba(0, 255, 0, 0.2)", "rgba(255, 128, 0, 0.2)"]

/-- The bucket of the modifier with this number. -/
def bucket (number : Nat) : Group :=
  modifierBucket ⟨number % palette.length,
    Nat.lt_trans (Nat.mod_lt _ (by decide)) (by decide : palette.length < 256)⟩

/-- Numbers have one bucket if they leave the same remainder. -/
theorem bucket_eq_iff {i j : Nat} : bucket i = bucket j ↔ i % 5 = j % 5 := by
  simp [bucket, palette]

/-- All groups that modifiers are painted in. -/
def modifierGroups : List Group := (List.range palette.length).map bucket ++ [modifierExact]

/-- Regions of the group cover whole lines. -/
def isWholeLine (g : Group) : Bool := g == frameScope

/-- The suggested color of the group. -/
def color? : Group → Option String
  | modifierBucket index => palette[index.val]?
  | _ => none

end Group

end TemplatePaint
