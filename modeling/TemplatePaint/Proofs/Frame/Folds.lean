import TemplatePaint.Frame

/-!
# Folds around a line

Of the folds around a line that start with a declaration, the one that starts
last is taken, and of those that start together the one that ends first:
`enclosingFold_eq_some`. Of the folds that start on a line, the one that ends
last bounds its block: `foldEnd?_eq_some`.
-/

namespace TemplatePaint

namespace Outline

variable {o : Outline} {line : Nat}

/-- The fold `b` starts later than `a`, or with it and ends no later. -/
def IsInner (a b : LineRange) : Prop :=
  a.first < b.first ∨ a.first = b.first ∧ b.last ≤ a.last

theorem IsInner.refl (a : LineRange) : IsInner a a := .inr ⟨rfl, Nat.le_refl _⟩

theorem IsInner.trans {a b c : LineRange} (h : IsInner a b) (h' : IsInner b c) : IsInner a c := by
  unfold IsInner at *
  omega

theorem innerFold_cases (a b : LineRange × Span) :
    (innerFold a b = a ∨ innerFold a b = b) ∧ IsInner a.1 (innerFold a b).1 ∧
      IsInner b.1 (innerFold a b).1 := by
  rw [innerFold]
  split
  · rename_i h
    exact ⟨.inr rfl, h, .refl _⟩
  · rename_i h
    refine ⟨.inl rfl, .refl _, ?_⟩
    unfold IsInner
    omega

/-- One of the folds is taken, and it is inner to all of them. -/
theorem foldl_innerFold (a : LineRange × Span) (bs : List (LineRange × Span)) :
    bs.foldl innerFold a ∈ a :: bs ∧ ∀ b ∈ a :: bs, IsInner b.1 (bs.foldl innerFold a).1 := by
  induction bs generalizing a with
  | nil => simp [IsInner.refl]
  | cons b bs ih =>
    obtain ⟨cases, inner_a, inner_b⟩ := innerFold_cases a b
    obtain ⟨mem, inner⟩ := ih (innerFold a b)
    have taken := inner _ List.mem_cons_self
    rw [List.foldl_cons]
    constructor
    · rcases List.mem_cons.1 mem with h | h
      · rw [h]
        rcases cases with h | h <;> simp [h]
      · exact List.mem_cons_of_mem _ (List.mem_cons_of_mem _ h)
    · intro c hc
      rcases List.mem_cons.1 hc with rfl | hc
      · exact inner_a.trans taken
      rcases List.mem_cons.1 hc with rfl | hc
      · exact inner_b.trans taken
      · exact inner c (List.mem_cons_of_mem _ hc)

/-- The folds around a line, each with the declaration that it starts with. -/
theorem mem_around {fold : LineRange} {d : Span} :
    (fold, d) ∈ (o.folds.filter (·.contains line)).filterMap (fun fold =>
      (o.declarationOn fold.first).map (fold, ·)) ↔
    fold ∈ o.folds ∧ fold.contains line = true ∧ o.declarationOn fold.first = some d := by
  simp only [List.mem_filterMap, List.mem_filter, Option.map_eq_some_iff, Prod.mk.injEq]
  constructor
  · rintro ⟨fold', ⟨hm, hc⟩, d', hd, rfl, rfl⟩
    exact ⟨hm, hc, hd⟩
  · rintro ⟨hm, hc, hd⟩
    exact ⟨fold, ⟨hm, hc⟩, d, hd, rfl, rfl⟩

/-- No fold is taken if none around the line starts with a declaration. -/
theorem enclosingFold_eq_none (h : o.enclosingFold line = none) {fold : LineRange}
    (hm : fold ∈ o.folds) (hc : fold.contains line = true) : o.declarationOn fold.first = none := by
  refine Option.eq_none_iff_forall_ne_some.2 fun d hd => ?_
  have around := mem_around.2 ⟨hm, hc, hd⟩
  rw [enclosingFold] at h
  split at h
  · rename_i none
    rw [none] at around
    simp at around
  · simp at h

/-- The fold that is taken is around the line, starts with the declaration, and is inner to all
others like it. -/
theorem enclosingFold_eq_some {s : FrameScope} (h : o.enclosingFold line = some s) :
    s.lines ∈ o.folds ∧ s.lines.contains line = true ∧
      o.declarationOn s.lines.first = some s.declaration ∧
      ∀ fold ∈ o.folds, fold.contains line = true → (o.declarationOn fold.first).isSome = true →
        IsInner fold s.lines := by
  rw [enclosingFold] at h
  split at h
  · simp at h
  · rename_i a bs around
    obtain ⟨mem, inner⟩ := foldl_innerFold a bs
    obtain rfl := Option.some.inj h
    rw [← around] at mem inner
    obtain ⟨hm, hc, hd⟩ := mem_around.1 mem
    refine ⟨hm, hc, hd, fun fold hm hc hd => ?_⟩
    obtain ⟨d, hd⟩ := Option.isSome_iff_exists.1 hd
    exact inner _ (mem_around.2 ⟨hm, hc, hd⟩)

/-! ## The end of a fold -/

theorem foldEnd?_eq_none (h : o.foldEnd? line = none) : ∀ fold ∈ o.folds, fold.first ≠ line := by
  intro fold hm e
  rw [foldEnd?, List.max?_eq_none_iff] at h
  have : fold.last ∈ (o.folds.filter (·.first == line)).map (·.last) :=
    List.mem_map_of_mem (List.mem_filter.2 ⟨hm, by simpa using e⟩)
  simp [h] at this

/-- The end of the folds on a line is that of one of them, and none ends later. -/
theorem foldEnd?_eq_some {last : Nat} (h : o.foldEnd? line = some last) :
    (∃ fold ∈ o.folds, fold.first = line ∧ fold.last = last) ∧
      ∀ fold ∈ o.folds, fold.first = line → fold.last ≤ last := by
  rw [foldEnd?, List.max?_eq_some_iff] at h
  obtain ⟨mem, max⟩ := h
  obtain ⟨fold, hf, e⟩ := List.mem_map.1 mem
  obtain ⟨hm, hl⟩ := List.mem_filter.1 hf
  refine ⟨⟨fold, hm, by simpa using hl, e⟩, fun fold' hm' hl' => ?_⟩
  exact max _ (List.mem_map_of_mem (List.mem_filter.2 ⟨hm', by simpa using hl'⟩))

end Outline

end TemplatePaint
