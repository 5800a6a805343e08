import TemplatePaint.Span.Identifier

/-!
# Normal forms of identifiers

A normal form is empty or has a space only if the identifier is or has:
`normalize_eq_empty_iff`, `space_not_mem_normalize`.
-/

namespace TemplatePaint

variable {c : Char} {name : String}

theorem lowerCase_ne_nil (c : Char) : lowerCase c ≠ [] := by
  rw [lowerCase]
  split
  · exact List.cons_ne_nil _ _
  · split
    · exact List.cons_ne_nil _ _
    · split <;> exact List.cons_ne_nil _ _

theorem ofNat_ne_space {n : Nat} (h : n ≠ 0x20) : Char.ofNat n ≠ ' ' := by
  intro same
  by_cases valid : n.isValidChar
  · rw [Char.ofNat, dif_pos valid] at same
    exact h (congrArg Char.toNat same)
  · rw [Char.ofNat, dif_neg valid] at same
    exact absurd same (by decide)

theorem toLower_ne_space (ascii : c.toNat < 0x80) (h : c ≠ ' ') : c.toLower ≠ ' ' := by
  have all : ∀ n < 0x80, Char.ofNat n ≠ ' ' → (Char.ofNat n).toLower ≠ ' ' := by decide
  have at_c := all c.toNat ascii
  rw [Char.ofNat_toNat] at at_c
  exact at_c h

/-- The lower case of a character that is no space has none. -/
theorem space_not_mem_lowerCase (h : c ≠ ' ') : ' ' ∉ lowerCase c := by
  have table : ∀ b ∈ capitalBlocks, 0x20 < b.lower := by decide +kernel
  rw [lowerCase]
  split
  · rename_i ascii
    exact fun mem => toLower_ne_space ascii h (List.mem_singleton.1 mem).symm
  · split
    · decide
    · split
      · rename_i b found
        have := table b (List.mem_of_find?_eq_some found)
        exact fun mem => ofNat_ne_space (by omega) (List.mem_singleton.1 mem).symm
      · exact fun mem => h (List.mem_singleton.1 mem).symm

/-- Only the empty identifier has an empty normal form. -/
theorem normalize_eq_empty_iff : normalize name = "" ↔ name = "" := by
  rw [normalize, String.ofList_eq_empty_iff, List.flatMap_eq_nil_iff]
  constructor
  · intro h
    refine String.toList_eq_nil_iff.1 (List.eq_nil_iff_forall_not_mem.2 fun c hc => ?_)
    exact lowerCase_ne_nil _ (h c hc)
  · rintro rfl
    exact List.forall_mem_nil _

/-- The normal form of an identifier without spaces has none. -/
theorem space_not_mem_normalize (h : ' ' ∉ name.toList) : ' ' ∉ (normalize name).toList := by
  rw [normalize, String.toList_ofList, List.mem_flatMap]
  rintro ⟨c, hc, mem⟩
  refine space_not_mem_lowerCase ?_ mem
  split
  · decide
  · exact fun same => h (same ▸ hc)

end TemplatePaint
