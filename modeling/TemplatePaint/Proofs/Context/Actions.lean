import TemplatePaint.Proofs.Context.Primary
import TemplatePaint.Proofs.Span.Actions

/-!
# The cursor on an action

A cursor on an action, from its first character to behind its number sign, is on
the controller of this action. Behind that it is on the controller of the next
action, as the next one begins where the number sign ends and not at its word;
behind the number sign of the last action it is on none of them
(`Context.atCursor_on_action`).
-/

namespace TemplatePaint

namespace WrittenAction

/-- The controller and its number sign stand in the word of the action, with the method behind. -/
theorem target_inside (a : WrittenAction) : a.word.range.start ≤ a.target.range.stop ∧
    a.target.range.stop + 1 < a.word.range.stop := by
  have method : 0 < a.method.text.toList.length := List.length_pos_of_ne_nil fun none =>
    a.method.nonempty (String.toList_eq_nil_iff.1 none)
  simp only [word, target, length_text]
  omega

end WrittenAction

namespace Context

/-- From where the actions start on, the cursor is on the first whose number sign it is not
behind. -/
theorem addressed_eq_find? {cursor start : Nat} (names : List Name) (le : start ≤ cursor) :
    addressed cursor start names = names.find? fun n => cursor ≤ n.range.stop + 1 := by
  induction names generalizing start with
  | nil => rfl
  | cons n later ih =>
    rw [addressed, List.find?_cons]
    by_cases here : cursor ≤ n.range.stop + 1
    · rw [if_pos ⟨le, here⟩, decide_eq_true here]
    · rw [if_neg fun both => here both.2, decide_eq_false here]
      exact ih (by omega)

/-- The cursor is on an action of a list in which every word is an action, and touches no comment
and no declaration of controllers. -/
structure OnAction (text : String) (cursor : Nat) (list : Span) (before : List WrittenAction)
    (action : WrittenAction) (after : List WrittenAction) : Prop where
  mem : list ∈ Span.scan text [.action]
  words : ∃ v, list.value? = some v ∧
    v.words = (before ++ action :: after).map WrittenAction.word
  touched : action.word.range.touches cursor = true
  noComment : ∀ s ∈ Span.scan text [.comment], ¬ s.range.touches cursor = true
  noDeclaration : ∀ s ∈ Span.scan text [.controllerDeclaration], ¬ s.range.touches cursor = true

variable {text : String} {cursor : Nat} {list : Span} {before after : List WrittenAction}
  {action : WrittenAction}

namespace OnAction

theorem kind (h : OnAction text cursor list before action after) : list.kind = .action :=
  List.mem_singleton.1 (Span.kind_of_mem_scan h.mem)

/-- The cursor is in the list, behind its start. -/
theorem inside (h : OnAction text cursor list before action after) :
    ∃ v, list.value? = some v ∧ list.range.start < v.range.start ∧ v.range.start ≤ cursor ∧
      cursor ≤ list.range.stop := by
  obtain ⟨v, hv, words⟩ := h.words
  obtain ⟨outer, written⟩ := (Span.located_of_mem_scan text _ h.mem).value v hv
  have mem : action.word ∈ v.words := by simp [words]
  have inner := TextRange.encloses_iff.1 ((Name.row_words written).inside _ mem)
  have outer := TextRange.encloses_iff.1 outer
  have touched := TextRange.touches_iff.1 h.touched
  exact ⟨v, hv, (Span.names_of_action h.mem h.kind hv).1, by omega, by omega⟩

/-- The controllers of the list that the cursor means: the first one whose number sign it is not
behind, of the action and the later ones. -/
theorem invoked_eq (h : OnAction text cursor list before action after) :
    invoked list cursor = (((action :: after).map WrittenAction.target).find? fun n =>
      cursor ≤ n.range.stop + 1).toList := by
  obtain ⟨v, hv, words⟩ := h.words
  obtain ⟨v', hv', -, le, -⟩ := h.inside
  obtain rfl := Option.some.inj (hv.symm.trans hv')
  have apart := v.pairwise_words
  rw [words, List.map_append, List.pairwise_append] at apart
  have touched := TextRange.touches_iff.1 h.touched
  have passed : (before.map WrittenAction.target).find?
      (fun n => cursor ≤ n.range.stop + 1) = Option.none := by
    refine List.find?_eq_none.2 (List.forall_mem_map.2 fun b hb => ?_)
    have := b.target_inside
    have := apart.2.2 b.word (List.mem_map_of_mem hb) action.word List.mem_cons_self
    simp only [decide_eq_true_eq]
    omega
  rw [invoked, hv, Option.map_some, Option.getD_some, if_neg (Nat.not_lt_of_le le),
    (Span.names_of_action h.mem h.kind hv).2, Rule.actionTargets_eq words, addressed_eq_find? _ le,
    List.map_append, List.find?_append, passed, Option.none_or]

/-- What the list does not decide is left to the references. -/
theorem atCursor_eq (h : OnAction text cursor list before action after) :
    atCursor (Span.scan text (Target.controllers.kinds ++ [.comment])) cursor .controllers =
      (controllersOn list (invoked list cursor)).getD
        (atCursor (Span.scan text [.controllerReference]) cursor .controllers) := by
  obtain ⟨v, -, behind, le, stop⟩ := h.inside
  have onList : Span.innermost (Span.scan text (Target.controllers.kinds ++ [.comment])) cursor
      .action = some list :=
    Span.innermost_scan_of_inside (by simp [Target.kinds]) h.mem (by omega) stop
  have noComment : Span.innermost (Span.scan text (Target.controllers.kinds ++ [.comment])) cursor
      .comment = Option.none := by
    rw [Span.innermost_scan (by simp), List.find?_eq_none.2 h.noComment]
  have noDeclaration : Span.innermost (Span.scan text (Target.controllers.kinds ++ [.comment]))
      cursor .controllerDeclaration = Option.none := by
    rw [Span.innermost_scan (by simp [Target.kinds]), List.find?_eq_none.2 h.noDeclaration]
  unfold atCursor ofControllers
  dsimp only
  rw [noComment, noDeclaration, onList, Span.innermost_scan (by simp [Target.kinds]),
    Span.innermost_scan_of_not_mem (by simp), Span.innermost_scan_of_not_mem (by simp),
    Span.innermost_scan_of_not_mem (by simp), Span.innermost_scan (by simp)]
  simp only [Option.isSome_none, Bool.false_eq_true, if_false, Option.bind_eq_bind,
    Option.bind_none, Option.bind_some, Option.none_or]
  cases controllersOn list (invoked list cursor) with
  | none => rfl
  | some context => rfl

/-- The list decides on the controller that is found. -/
theorem atCursor_of_find? (h : OnAction text cursor list before action after) {n : Name}
    (found : ((action :: after).map WrittenAction.target).find? (fun n =>
      cursor ≤ n.range.stop + 1) = some n) :
    atCursor (Span.scan text (Target.controllers.kinds ++ [.comment])) cursor .controllers =
      .controllers list [normalize n.text] := by
  rw [h.atCursor_eq, h.invoked_eq, found]
  rfl

/-- The actions that come later start behind the cursor. -/
theorem lt_of_mem_after (h : OnAction text cursor list before action after) {next : WrittenAction}
    (later : next ∈ after) : cursor < next.word.range.start := by
  obtain ⟨v, -, words⟩ := h.words
  have apart := v.pairwise_words
  rw [words, List.map_append, List.pairwise_append, List.map_cons, List.pairwise_cons] at apart
  have := apart.2.1.1 next.word (List.mem_map_of_mem later)
  have touched := TextRange.touches_iff.1 h.touched
  omega

/-- Up to behind its number sign, the action's own controller is meant. -/
theorem atCursor_of_le (h : OnAction text cursor list before action after)
    (le : cursor ≤ action.target.range.stop + 1) :
    atCursor (Span.scan text (Target.controllers.kinds ++ [.comment])) cursor .controllers =
      .controllers list [normalize action.controller.text] :=
  h.atCursor_of_find? (n := action.target) (List.find?_cons_of_pos (decide_eq_true le))

/-- Behind its number sign, only the later actions count. -/
theorem find?_of_lt (lt : action.target.range.stop + 1 < cursor) :
    ((action :: after).map WrittenAction.target).find? (fun n => cursor ≤ n.range.stop + 1) =
      (after.map WrittenAction.target).find? fun n => cursor ≤ n.range.stop + 1 :=
  List.find?_cons_of_neg (by simpa using lt)

/-- Behind its number sign, the next action's controller is meant. -/
theorem atCursor_of_next {next : WrittenAction} {later : List WrittenAction}
    (h : OnAction text cursor list before action (next :: later))
    (lt : action.target.range.stop + 1 < cursor) :
    atCursor (Span.scan text (Target.controllers.kinds ++ [.comment])) cursor .controllers =
      .controllers list [normalize next.controller.text] := by
  have behind := h.lt_of_mem_after List.mem_cons_self
  have inside := next.target_inside
  refine h.atCursor_of_find? (n := next.target) ((find?_of_lt lt).trans ?_)
  exact List.find?_cons_of_pos (decide_eq_true (by omega))

/-- Behind the number sign of the last action, at most a reference is meant. -/
theorem atCursor_of_last (h : OnAction text cursor list before action [])
    (lt : action.target.range.stop + 1 < cursor) :
    atCursor (Span.scan text (Target.controllers.kinds ++ [.comment])) cursor .controllers =
      atCursor (Span.scan text [.controllerReference]) cursor .controllers := by
  rw [h.atCursor_eq, h.invoked_eq, find?_of_lt lt]
  rfl

end OnAction

/-- An attribute with two actions, and a cursor on the first. -/
theorem exists_onAction_first_of_two : ∃ list first second,
    (∀ {cursor : Nat}, 13 ≤ cursor ∧ cursor ≤ 20 →
      OnAction "data-action=\"x->a#go y->b#n\"" cursor list [] first [second]) ∧
      first.controller.text = "a" ∧ second.controller.text = "b" ∧
        first.target.range.stop = 17 := by
  refine ⟨⟨.action, ⟨0, 28⟩, .names ⟨"x->a#go y->b#n", ⟨13, 27⟩⟩ [⟨"a", ⟨16, 17⟩⟩, ⟨"b", ⟨24, 25⟩⟩]⟩,
    ⟨13, ⟨"x", by decide, by decide⟩, ⟨"a", by decide, by decide⟩, ⟨"go", by decide, by decide⟩⟩,
    ⟨21, ⟨"y", by decide, by decide⟩, ⟨"b", by decide, by decide⟩, ⟨"n", by decide, by decide⟩⟩,
    fun on => ?_, rfl, rfl, rfl⟩
  refine ⟨?_, ⟨_, rfl, ?_⟩, TextRange.touches_iff.2 on, ?_, ?_⟩
  · decide +kernel
  · decide +kernel
  · have none : Span.scan "data-action=\"x->a#go y->b#n\"" [.comment] = [] := by decide +kernel
    simp [none]
  · have none : Span.scan "data-action=\"x->a#go y->b#n\"" [.controllerDeclaration] = [] := by
      decide +kernel
    simp [none]

/-- What a reference decides on does not come from an action list. -/
theorem atCursor_references_ne {names : List String} (kind : list.kind = .action) :
    atCursor (Span.scan text [.controllerReference]) cursor .controllers ≠
      .controllers list names := by
  intro same
  have out : Span.innermost (Span.scan text [.controllerReference]) cursor .comment =
    Option.none := Span.innermost_scan_of_not_mem (by simp)
  have resolved : Resolved (Span.scan text [.controllerReference]) cursor
      (.controllers list names) := same ▸ resolved_atCursor out
  cases resolved with
  | controllers _ on _ _ =>
    have reference := List.mem_singleton.1 (Span.kind_of_mem_scan (Span.mem_of_innermost on).1)
    exact absurd (kind.symm.trans reference) (by decide)

/-- The cursor on an action is on the controller of this action just if it is not behind the number
sign, or the next action has the same controller. Behind the number sign it is on the controller of
the next action, and in the last action only on a reference that may stand there. -/
theorem atCursor_on_action (h : OnAction text cursor list before action after) :
    let context := atCursor (Span.scan text (Target.controllers.kinds ++ [.comment])) cursor
      .controllers
    let behindSign := action.target.range.stop + 1
    (context = .controllers list [normalize action.controller.text] ↔
        cursor ≤ behindSign ∨ ∃ next later, after = next :: later ∧
          normalize next.controller.text = normalize action.controller.text) ∧
      (behindSign < cursor → ∀ next later, after = next :: later →
        context = .controllers list [normalize next.controller.text]) ∧
      (behindSign < cursor → after = [] →
        context = atCursor (Span.scan text [.controllerReference]) cursor .controllers) := by
  intro context behindSign
  refine ⟨⟨fun same => ?_, ?_⟩, fun lt next later split => ?_, fun lt last => ?_⟩
  · by_cases le : cursor ≤ behindSign
    · exact .inl le
    · have lt := Nat.lt_of_not_le le
      cases after with
      | nil => exact absurd ((h.atCursor_of_last lt).symm.trans same) (atCursor_references_ne h.kind)
      | cons next later =>
        have found := (h.atCursor_of_next lt).symm.trans same
        injection found with _ names
        exact .inr ⟨next, later, rfl, (List.cons.inj names).1⟩
  · rintro (le | ⟨next, later, rfl, same⟩)
    · exact h.atCursor_of_le le
    · by_cases le : cursor ≤ behindSign
      · exact h.atCursor_of_le le
      · rw [← same]
        exact h.atCursor_of_next (Nat.lt_of_not_le le)
  · subst split
    exact h.atCursor_of_next lt
  · subst last
    exact h.atCursor_of_last lt

/-- Of two actions, the first one's controller is meant at its name, and the second one's within the
method of the first. -/
theorem atCursor_on_first_of_two :
    let spans := Span.scan "data-action=\"x->a#go y->b#n\"" (Target.controllers.kinds ++ [.comment])
    ∃ list, atCursor spans 16 .controllers = .controllers list ["a"] ∧
      atCursor spans 19 .controllers = .controllers list ["b"] := by
  intro spans
  obtain ⟨list, first, second, on, isFirst, isSecond, stop⟩ := exists_onAction_first_of_two
  have own := (atCursor_on_action (on (by decide : 13 ≤ 16 ∧ 16 ≤ 20))).1.2 (.inl (by omega))
  have next := (atCursor_on_action (on (by decide : 13 ≤ 19 ∧ 19 ≤ 20))).2.1 (by omega) second [] rfl
  rw [isFirst] at own
  rw [isSecond] at next
  exact ⟨list, own, next⟩

/-- Not every cursor on an action is on its controller: it is not between the two characters of the
method `go`. -/
theorem atCursor_ne_in_method :
    ¬ ∀ (text : String) (cursor : Nat) (list : Span) (before after : List WrittenAction)
      (action : WrittenAction), OnAction text cursor list before action after →
        ∃ primary, atCursor (Span.scan text (Target.controllers.kinds ++ [.comment])) cursor
          .controllers = .controllers primary [normalize action.controller.text] := by
  intro all
  obtain ⟨list, first, second, on, isFirst, -⟩ := exists_onAction_first_of_two
  obtain ⟨primary, same⟩ := all _ 19 list [] [second] first (on (by decide))
  have found : atCursor (Span.scan "data-action=\"x->a#go y->b#n\""
      (Target.controllers.kinds ++ [.comment])) 19 .controllers =
        .controllers ⟨.action, ⟨0, 28⟩,
          .names ⟨"x->a#go y->b#n", ⟨13, 27⟩⟩ [⟨"a", ⟨16, 17⟩⟩, ⟨"b", ⟨24, 25⟩⟩]⟩ ["b"] := by
    decide +kernel
  rw [found, isFirst] at same
  injection same with _ names
  exact absurd (List.cons.inj names).1 (by decide)

end Context

end TemplatePaint
