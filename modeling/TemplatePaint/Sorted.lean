/-!
# Stable sorting

`sortBy` puts a list in order and keeps the given order among entries of the
same rank. An entry is inserted before the first that it may precede.

* `perm_sortBy`: sorting loses and invents nothing;
* `pairwise_sortBy`: the result is in order;
* `sortBy_of_pairwise`: what is in order already is left as it is;
* `filter_sortBy`: entries of one rank stay in their order;
* `sortBy_eq_iff_perm`: when two lists are sorted alike;
* `eq_of_pairwise_of_mem_iff`: in a strict order, a list is determined by its
  entries;
* `rel_or_rel_of_ne`, `rel_of_key_lt`: of two entries one stands before the
  other; in the order of a key, the one of the lesser key;
* `lt_countP_iff`: what holds of all before an entry where it holds, holds of as
  many first entries as are counted.
-/

namespace TemplatePaint

variable {α : Type}

/-- Puts `a` before the first entry that it may precede. -/
def insertBy (le : α → α → Bool) (a : α) : List α → List α
  | [] => [a]
  | b :: bs => if le a b then a :: b :: bs else b :: insertBy le a bs

/-- The list in the order `le`; entries of the same rank keep their order. -/
def sortBy (le : α → α → Bool) : List α → List α
  | [] => []
  | a :: as => insertBy le a (sortBy le as)

theorem perm_insertBy (le : α → α → Bool) (a : α) (as : List α) :
    (insertBy le a as).Perm (a :: as) := by
  induction as with
  | nil => exact .refl _
  | cons b bs ih =>
    rw [insertBy]
    split
    · exact .refl _
    · exact (ih.cons b).trans (.swap a b bs)

/-- Sorting loses and invents nothing. -/
theorem perm_sortBy (le : α → α → Bool) (as : List α) : (sortBy le as).Perm as := by
  induction as with
  | nil => exact .refl _
  | cons a as ih => exact (perm_insertBy le a _).trans (ih.cons a)

theorem pairwise_insertBy {le : α → α → Bool}
    (trans : ∀ a b c, le a b = true → le b c = true → le a c = true)
    (total : ∀ a b, le a b = true ∨ le b a = true) (a : α) {as : List α}
    (h : as.Pairwise (le · · = true)) : (insertBy le a as).Pairwise (le · · = true) := by
  induction as with
  | nil => simp [insertBy]
  | cons b bs ih =>
    obtain ⟨hb, hbs⟩ := List.pairwise_cons.1 h
    rw [insertBy]
    split
    · rename_i hab
      refine List.pairwise_cons.2 ⟨fun c hc => ?_, h⟩
      rcases List.mem_cons.1 hc with rfl | hc
      · exact hab
      · exact trans a b c hab (hb c hc)
    · rename_i hab
      refine List.pairwise_cons.2 ⟨fun c hc => ?_, ih hbs⟩
      rcases List.mem_cons.1 ((perm_insertBy le a bs).mem_iff.1 hc) with rfl | hc
      · exact (total c b).resolve_left hab
      · exact hb c hc

/-- The sorted list is in order. -/
theorem pairwise_sortBy {le : α → α → Bool}
    (trans : ∀ a b c, le a b = true → le b c = true → le a c = true)
    (total : ∀ a b, le a b = true ∨ le b a = true) (as : List α) :
    (sortBy le as).Pairwise (le · · = true) := by
  induction as with
  | nil => exact .nil
  | cons a as ih => exact pairwise_insertBy trans total a ih

/-- What is in order already is left as it is. -/
theorem sortBy_of_pairwise {le : α → α → Bool} {as : List α} (h : as.Pairwise (le · · = true)) :
    sortBy le as = as := by
  induction as with
  | nil => rfl
  | cons a as ih =>
    obtain ⟨first, rest⟩ := List.pairwise_cons.1 h
    rw [sortBy, ih rest]
    cases as with
    | nil => rfl
    | cons b bs => exact if_pos (first b List.mem_cons_self)

/-- Entries of one rank stay in their order. -/
theorem filter_sortBy {le : α → α → Bool} {p : α → Bool}
    (tied : ∀ a b, p a = true → p b = true → le a b = true) (as : List α) :
    (sortBy le as).filter p = as.filter p := by
  have insert (a : α) (bs : List α) : (insertBy le a bs).filter p = (a :: bs).filter p := by
    induction bs with
    | nil => rfl
    | cons b bs ih =>
      rw [insertBy]
      split
      · rfl
      · rename_i behind
        -- what `a` is put behind is not of its rank
        have apart : ¬ (p a = true ∧ p b = true) := fun both => behind (tied a b both.1 both.2)
        rw [List.filter_cons, ih, List.filter_cons, List.filter_cons, List.filter_cons]
        by_cases ha : p a = true
        · have hb : ¬ p b = true := fun hb => apart ⟨ha, hb⟩
          simp only [ha, if_true, if_neg hb]
        · simp only [if_neg ha]
  induction as with
  | nil => rfl
  | cons a as ih => rw [sortBy, insert, List.filter_cons, ih, List.filter_cons]

/-- In an order that tells entries apart, lists are sorted alike just if they have the same entries,
each as often. -/
theorem sortBy_eq_iff_perm {le : α → α → Bool}
    (trans : ∀ a b c, le a b = true → le b c = true → le a c = true)
    (total : ∀ a b, le a b = true ∨ le b a = true)
    (antisymm : ∀ a b, le a b = true → le b a = true → a = b) {as bs : List α} :
    sortBy le as = sortBy le bs ↔ as.Perm bs := by
  constructor
  · intro same
    exact (perm_sortBy le as).symm.trans (same ▸ perm_sortBy le bs)
  · intro perm
    exact List.Perm.eq_of_pairwise (fun a b _ _ => antisymm a b) (pairwise_sortBy trans total as)
      (pairwise_sortBy trans total bs)
      ((perm_sortBy le as).trans (perm.trans (perm_sortBy le bs).symm))

/-- Lists in a strict order are the same if they have the same entries. -/
theorem eq_of_pairwise_of_mem_iff {R : α → α → Prop} (asymm : ∀ a b, R a b → ¬ R b a)
    {as bs : List α} (ha : as.Pairwise R) (hb : bs.Pairwise R) (same : ∀ a, a ∈ as ↔ a ∈ bs) :
    as = bs := by
  have ne (a b : α) (before : R a b) : a ≠ b := fun e => asymm a b before (e ▸ e ▸ before)
  have perm : as.Perm bs :=
    (List.perm_ext_iff_of_nodup (ha.imp (ne _ _)) (hb.imp (ne _ _))).2 same
  exact List.Perm.eq_of_pairwise (fun a b _ _ h h' => absurd h' (asymm a b h)) ha hb perm

/-- Of two entries of a list, one stands before the other. -/
theorem rel_or_rel_of_ne {R : α → α → Prop} {as : List α} (h : as.Pairwise R) {a b : α} (ha : a ∈ as)
    (hb : b ∈ as) (ne : a ≠ b) : R a b ∨ R b a := by
  induction as with
  | nil => simp at ha
  | cons c cs ih =>
    obtain ⟨first, rest⟩ := List.pairwise_cons.1 h
    rcases List.mem_cons.1 ha with rfl | later <;> rcases List.mem_cons.1 hb with rfl | later'
    · exact absurd rfl ne
    · exact .inl (first b later')
    · exact .inr (first a later)
    · exact ih rest later later'

/-- In a list that is in the order of a key, an entry of a lesser key stands before one of a greater
key. -/
theorem rel_of_key_lt {key : α → Nat} {R : α → α → Prop} {as : List α}
    (sorted : as.Pairwise fun a b => key a ≤ key b) (h : as.Pairwise R) {a b : α} (ha : a ∈ as)
    (hb : b ∈ as) (lt : key a < key b) : R a b := by
  have ne : a ≠ b := fun same => Nat.lt_irrefl _ (same ▸ lt)
  rcases rel_or_rel_of_ne (sorted.and h) ha hb ne with ⟨-, before⟩ | ⟨le, -⟩
  · exact before
  · exact absurd lt (Nat.not_lt_of_le le)

/-- If a property holds of all before an entry where it holds, the entries where it holds are the
first ones, as many as are counted. -/
theorem lt_countP_iff {p : α → Bool} {as : List α}
    (before : as.Pairwise fun a b => p b = true → p a = true) {n : Nat} {a : α}
    (found : as[n]? = some a) : n < as.countP p ↔ p a = true := by
  induction as generalizing n with
  | nil => simp at found
  | cons b bs ih =>
    obtain ⟨first, rest⟩ := List.pairwise_cons.1 before
    by_cases hb : p b = true
    · rw [List.countP_cons_of_pos hb]
      cases n with
      | zero =>
        obtain rfl := Option.some.inj found
        exact iff_of_true (Nat.succ_pos _) hb
      | succ n => exact Nat.succ_lt_succ_iff.trans (ih rest found)
    · -- where it does not hold of the first, it holds of none
      have none : ∀ c ∈ b :: bs, ¬ p c = true :=
        List.forall_mem_cons.2 ⟨hb, fun c hc holds => hb (first c hc holds)⟩
      rw [List.countP_eq_zero.2 none]
      exact iff_of_false (Nat.not_lt_zero n) (none a (List.mem_of_getElem? found))

end TemplatePaint
