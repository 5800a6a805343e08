import Mathlib.Data.List.Induction
import TemplatePaint.Host.Workspace
import TemplatePaint.Proofs.Session.Upkeep

/-!
# Flags and the active document

The host has one flag for each switch, and every document has switches of its
own. The flags are published when a template that is open becomes active, and
a flag is published when its switch is flipped, in whichever document. So a
flag need not show how the switch of the active document stands;
`flags_mirror_iff` says when it does.

* `published?_run`: while no document is activated, the last flip of a switch
  decides its flag;
* `stand?_run`: while a document is not closed, the last flip of its switch
  decides how the switch stands;
* `exists_enters`: the active document is the one that was activated last.
-/

namespace TemplatePaint

theorem Switch.flag_inj {a b : Switch} (h : a.flag = b.flag) : a = b := by
  revert h
  cases a <;> cases b <;> decide

theorem flag?_of_isQuiet {c : HostCall} (h : c.isQuiet = true) (flag : String) :
    c.flag? flag = none := by
  cases c with
  | setFlag => cases h
  | _ => rfl

theorem lastFlag?_append (new old : List HostCall) (flag : String) :
    lastFlag? (new ++ old) flag = (lastFlag? new flag).or (lastFlag? old flag) :=
  List.findSome?_append

theorem lastFlag?_of_isQuiet {calls : List HostCall} (h : ∀ c ∈ calls, c.isQuiet = true)
    (flag : String) : lastFlag? calls flag = none :=
  List.findSome?_eq_none_iff.2 fun c hc => flag?_of_isQuiet (h c hc) flag

namespace Session

variable {σ : Type} [Host σ]

/-- The last value that the host received for the flag of a switch. -/
def published? (s : Session (Recorded σ)) (switch : Switch) : Option Bool :=
  lastFlag? s.host.calls switch.flag

/-- How a switch of a document stands, if the document is tracked. -/
def stand? (s : Session σ) (doc : String) (switch : Switch) : Option Bool :=
  (s.toggles? doc).map (·.get switch)

/-- The document of which a step flips a switch, and how the switch stands then. -/
def switched? (s : Session (Recorded σ)) (switch : Switch) : Step σ → Option (String × Bool)
  | .event (.toggle doc flipped) =>
    if flipped = switch ∧ s.isLive doc = true then
      some (doc, !(s.togglesOnTrack doc).get switch)
    else none
  | _ => none

/-- The document of which some steps flip a switch last, and how the switch stands then. -/
def lastSwitched? (s : Session (Recorded σ)) (switch : Switch) :
    List (Step σ) → Option (String × Bool)
  | [] => none
  | a :: later => ((s.step a).lastSwitched? switch later).or (s.switched? switch a)

/-! ## Flags -/

theorem published?_tellAll (s : Session (Recorded σ)) (calls : List HostCall) (switch : Switch) :
    (s.tellAll calls).published? switch =
      (lastFlag? calls.reverse switch.flag).or (s.published? switch) := by
  rw [published?, calls_tellAll, lastFlag?_append]
  rfl

/-- Upkeep publishes no flag. -/
theorem Upkeep.published? {s s' : Session (Recorded σ)} (u : Upkeep s s') (switch : Switch) :
    s'.published? switch = s.published? switch := by
  cases u with
  | tell calls quiet =>
    rw [published?_tellAll, lastFlag?_of_isQuiet fun c hc => quiet c (List.mem_reverse.1 hc)]
    rfl
  | adjust => rfl
  | renew => rfl

theorem Upkeeps.published? {s s' : Session (Recorded σ)} (u : Upkeeps s s') (switch : Switch) :
    s'.published? switch = s.published? switch :=
  u.keeps_eq fun u => u.published? switch

theorem lastFlag?_flags (toggles : Toggles) (switch : Switch) :
    lastFlag? (flags toggles).reverse switch.flag = some (toggles.get switch) := by
  cases switch <;> rfl

theorem lastFlag?_flipped (s : Session σ) (doc : String) (flipped switch : Switch) :
    lastFlag? (s.flipped doc flipped).reverse switch.flag =
      if flipped = switch then some (!(s.togglesOnTrack doc).get switch) else none := by
  have stores : lastFlag? (if s.settings.persistence = .always then
      [HostCall.storeToggles doc ((s.togglesOnTrack doc).flip flipped).stored] else []).reverse
      switch.flag = none := by
    split <;> rfl
  rw [Session.flipped, List.reverse_cons, lastFlag?_append, stores, Option.none_or, lastFlag?,
    List.findSome?_singleton, HostCall.flag?]
  by_cases same : flipped = switch
  · rw [same, if_pos rfl, if_pos rfl, Toggles.get_flip, if_pos rfl]
  · rw [if_neg same, if_neg fun e => same (Switch.flag_inj e)]

theorem published?_onset (s : Session (Recorded σ)) {e : Event}
    (stays : ∀ next, e ≠ .activated next) (switch : Switch) :
    (s.onset e).published? switch =
      ((s.switched? switch (.event e)).map (·.2)).or (s.published? switch) := by
  cases e with
  | activated next => exact absurd rfl (stays next)
  | configured key =>
    rw [onset]
    split <;> rfl
  | toggle doc flipped =>
    rw [onset, switched?]
    cases live : s.isLive doc with
    | false => simp
    | true =>
      rw [if_pos rfl, published?_tellAll, lastFlag?_flipped]
      by_cases same : flipped = switch
      · simp [same]
      · simp [same]
        rfl
  | _ => rfl

/-- A step but an activation gives a flag the value of the switch that it flips. -/
theorem Coherent.published?_step {s : Session (Recorded σ)} (h : s.Coherent) {a : Step σ}
    (stays : ∀ next, a ≠ .event (.activated next)) (switch : Switch) :
    (s.step a).published? switch =
      ((s.switched? switch a).map (·.2)).or (s.published? switch) := by
  cases a with
  | change f => rfl
  | event e =>
    have onset := s.published?_onset (fun next same => stays next (congrArg Step.event same)) switch
    exact ((h.handle_upkeep e).published? switch).trans onset

/-- While no document is activated, the last flip of a switch decides its flag. -/
theorem Coherent.published?_run {s : Session (Recorded σ)} (h : s.Coherent) {steps : List (Step σ)}
    (stays : ∀ next, .event (.activated next) ∉ steps) (switch : Switch) :
    (s.run steps).published? switch =
      ((s.lastSwitched? switch steps).map (·.2)).or (s.published? switch) := by
  induction steps generalizing s with
  | nil => rfl
  | cons a later ih =>
    have first := h.published?_step (fun next same => stays next (same ▸ List.mem_cons_self)) switch
    have rest := ih (h.step a) fun next hm => stays next (List.mem_cons_of_mem a hm)
    show ((s.step a).run later).published? switch = _
    rw [rest, first, lastSwitched?]
    cases (s.step a).lastSwitched? switch later <;> rfl

/-! ## Switches -/

theorem toggles?_welcome {s : Session σ} {doc : String} {t : Toggles}
    (h : s.toggles? doc = some t) (next : Option String) :
    (s.welcome next).toggles? doc = some t := by
  obtain ⟨s', calls, u, -, e⟩ := s.welcome_upkeeps next
  rw [e]
  exact u.toggles? h

/-- The onset of an event leaves the toggles of a document that it neither closes nor switches. -/
theorem toggles?_onset {s : Session σ} {doc : String} {t : Toggles} (h : s.toggles? doc = some t)
    {e : Event} (stays : e ≠ .closed doc) (untoggled : ∀ switch, e ≠ .toggle doc switch) :
    (s.onset e).toggles? doc = some t := by
  cases e with
  | activated next =>
    have left : (s.leave next).toggles? doc = some t := (s.upkeeps_leave next).toggles? h
    exact toggles?_welcome (s := { s.leave next with active := next }) left next
  | configured key =>
    rw [onset]
    split <;> exact h
  | closed doc' =>
    have other : doc ≠ doc' := fun same => stays (same ▸ rfl)
    show ((s.store.erase doc').get? doc).map (·.toggles) = some t
    rw [KeyMap.get?_erase, if_neg other]
    exact h
  | toggle doc' flipped =>
    have other : doc ≠ doc' := fun same => untoggled flipped (same ▸ rfl)
    rw [onset]
    split
    · exact (s.toggles?_renew doc' doc _).trans ((if_neg other).trans h)
    · exact h
  | _ => exact h

theorem stand?_onset_toggle {s : Session σ} {doc : String} (live : s.isLive doc = true)
    (flipped switch : Switch) :
    (s.onset (.toggle doc flipped)).stand? doc switch =
      some (if switch = flipped then !(s.togglesOnTrack doc).get switch
        else (s.togglesOnTrack doc).get switch) := by
  rw [onset, if_pos live, stand?, ← Toggles.get_flip]
  exact congrArg (Option.map _) ((s.toggles?_renew doc doc _).trans (if_pos rfl))

/-- A switch of a document stands as an event flips it. -/
theorem stand?_onset_of_switched {s : Session (Recorded σ)} {doc : String} {switch : Switch}
    {value : Bool} {e : Event} (h : s.switched? switch (.event e) = some (doc, value)) :
    (s.onset e).stand? doc switch = some value := by
  cases e with
  | toggle doc' flipped =>
    rw [switched?] at h
    split at h
    · rename_i flips
      cases h
      rw [stand?_onset_toggle flips.2, if_pos flips.1.symm]
    · cases h
  | _ => cases h

/-- If an event does not flip a switch, and does not close the document, it stands as it stood. -/
theorem stand?_onset_of_not_switched {s : Session (Recorded σ)} {doc : String} {switch : Switch}
    {value : Bool} {e : Event} (stays : e ≠ .closed doc) (h : s.switched? switch (.event e) = none)
    (stood : s.stand? doc switch = some value) : (s.onset e).stand? doc switch = some value := by
  obtain ⟨t, ht, rfl⟩ := Option.map_eq_some_iff.1 stood
  by_cases toggled : ∃ flipped, e = .toggle doc flipped
  · obtain ⟨flipped, rfl⟩ := toggled
    cases live : s.isLive doc with
    | false => simpa [onset, live] using stood
    | true =>
      have other : ¬switch = flipped := fun same => by simp [switched?, same, live] at h
      rw [stand?_onset_toggle live, if_neg other, togglesOnTrack_of_toggles? ht]
  · rw [stand?, toggles?_onset ht stays fun flipped same => toggled ⟨flipped, same⟩]
    rfl

theorem Upkeeps.stand? {s s' : Session σ} (u : Upkeeps s s') {doc : String} {switch : Switch}
    {value : Bool} (h : s.stand? doc switch = some value) : s'.stand? doc switch = some value := by
  obtain ⟨t, ht, rfl⟩ := Option.map_eq_some_iff.1 h
  rw [Session.stand?, u.toggles? ht]
  rfl

/-- A switch of a document stands as a step flips it, or else as it stood. -/
theorem Coherent.stand?_step {s : Session (Recorded σ)} (h : s.Coherent) {a : Step σ} {doc : String}
    {switch : Switch} {value : Bool} (stays : a ≠ .event (.closed doc))
    (last : s.switched? switch a = some (doc, value) ∨
      s.switched? switch a = none ∧ s.stand? doc switch = some value) :
    (s.step a).stand? doc switch = some value := by
  cases a with
  | change f =>
    rcases last with flip | ⟨-, stood⟩
    · cases flip
    · exact stood
  | event e =>
    refine (h.handle_upkeep e).stand? ?_
    rcases last with flip | ⟨none, stood⟩
    · exact stand?_onset_of_switched flip
    · exact stand?_onset_of_not_switched (fun same => stays (congrArg _ same)) none stood

/-- While a document is not closed, the last flip of a switch decides how its switch stands, if the
flip is one of its own. -/
theorem Coherent.stand?_run {s : Session (Recorded σ)} (h : s.Coherent) {steps : List (Step σ)}
    {doc : String} {switch : Switch} {value : Bool} (stays : .event (.closed doc) ∉ steps)
    (last : s.lastSwitched? switch steps = some (doc, value) ∨
      s.lastSwitched? switch steps = none ∧ s.stand? doc switch = some value) :
    (s.run steps).stand? doc switch = some value := by
  induction steps generalizing s with
  | nil =>
    rcases last with last | ⟨-, stood⟩
    · cases last
    · exact stood
  | cons a later ih =>
    rw [lastSwitched?] at last
    refine ih (h.step a) (fun hm => stays (List.mem_cons_of_mem a hm)) ?_
    cases flips : (s.step a).lastSwitched? switch later with
    | some flip =>
      rw [flips, Option.some_or] at last
      rcases last with last | ⟨none, -⟩
      · exact .inl last
      · cases none
    | none =>
      rw [flips, Option.none_or] at last
      exact .inr ⟨rfl, h.stand?_step (fun same => stays (same ▸ List.mem_cons_self)) last⟩

/-! ## The active document -/

omit [Host σ] in
/-- A document is active after an event if it is activated, or if it was active and is not
closed. -/
theorem active_cases {s : Session σ} {e : Event} {doc : String}
    (active : s.activeAfter e = some doc) :
    e = .activated (some doc) ∨
      (s.active = some doc ∧ e ≠ .closed doc ∧ ∀ next, e ≠ .activated next) := by
  cases e with
  | activated next => exact .inl (congrArg _ active)
  | closed doc' =>
    rw [activeAfter] at active
    split at active
    · cases active
    · rename_i other
      refine .inr ⟨active, fun same => other ?_, by simp⟩
      cases same
      exact active
  | _ => exact .inr ⟨active, by simp⟩

theorem Coherent.active_step {s : Session (Recorded σ)} (h : s.Coherent) {a : Step σ} {doc : String}
    (active : (s.step a).active = some doc) :
    a = .event (.activated (some doc)) ∨
      (s.active = some doc ∧ a ≠ .event (.closed doc) ∧ ∀ next, a ≠ .event (.activated next)) := by
  cases a with
  | change f => exact .inr ⟨active, by simp⟩
  | event e =>
    rcases active_cases ((h.active_handle e).symm.trans active) with rfl | ⟨was, kept⟩
    · exact .inl rfl
    · exact .inr ⟨was, by simpa using kept⟩

/-- The steps are some steps, the activation of the document, and steps that activate none. -/
def Enters (steps before : List (Step σ)) (doc : String) (after : List (Step σ)) : Prop :=
  steps = before ++ .event (.activated (some doc)) :: after ∧
    ∀ next, .event (.activated next) ∉ after

/-- The active document is the one that was activated last. -/
theorem exists_enters {host : σ} {language : Language} {steps : List (Step σ)} {doc : String}
    (active : ((fresh host language).run steps).active = some doc) :
    ∃ before after, Enters steps before doc after := by
  induction steps using List.reverseRecOn with
  | nil => cases active
  | append_singleton steps a ih =>
    rw [run_append] at active
    rcases (run_coherent host language steps).active_step active with rfl | ⟨was, -, stays⟩
    · exact ⟨steps, [], rfl, by simp⟩
    · obtain ⟨before, after, rfl, none⟩ := ih was
      refine ⟨before, after ++ [a], by simp, fun next hm => ?_⟩
      rcases List.mem_append.1 hm with hm | hm
      · exact none next hm
      · exact stays next (List.mem_singleton.1 hm).symm

/-- A document that is active after some steps that activate none was not closed in them. -/
theorem Coherent.not_closed {s : Session (Recorded σ)} (h : s.Coherent) {steps : List (Step σ)}
    {doc : String} (stays : ∀ next, .event (.activated next) ∉ steps)
    (active : (s.run steps).active = some doc) :
    s.active = some doc ∧ .event (.closed doc) ∉ steps := by
  induction steps generalizing s with
  | nil => exact ⟨active, by simp⟩
  | cons a later ih =>
    obtain ⟨now, unclosed⟩ :=
      ih (h.step a) (fun next hm => stays next (List.mem_cons_of_mem a hm)) active
    rcases h.active_step now with rfl | ⟨was, kept, -⟩
    · exact absurd List.mem_cons_self (stays (some doc))
    · exact ⟨was, List.not_mem_cons_of_ne_of_not_mem kept.symm unclosed⟩

omit [Host σ] in
theorem host_leave (s : Session σ) (next : Option String) : (s.leave next).host = s.host := by
  rw [leave]
  split
  · split <;> rfl
  · rfl

theorem welcome_of_isOpen {s : Session σ} {doc : String} (template : s.isTemplate doc = true)
    (shown : Host.isOpen s.host doc = true) :
    s.welcome (some doc) =
      (s.renew doc (s.togglesOnTrack doc)).tellAll (flags (s.togglesOnTrack doc)) := by
  simp [welcome, template, shown]

theorem welcome_of_not_isOpen {s : Session σ} {doc : String} (template : s.isTemplate doc = true)
    (hidden : ¬Host.isOpen s.host doc = true) : s.welcome (some doc) = s := by
  simp [welcome, template, hidden]

/-- When a template that is open becomes active, the flags show how its switches stand. -/
theorem Coherent.activated_shown {s : Session (Recorded σ)} (h : s.Coherent) {doc : String}
    (template : s.isTemplate doc = true) (shown : Host.isOpen s.host doc = true) (switch : Switch) :
    ∃ value, (s.activated (some doc)).stand? doc switch = some value ∧
      (s.activated (some doc)).published? switch = some value := by
  let entered := { s.leave (some doc) with active := some doc }
  have rest : Upkeeps (entered.welcome (some doc)) (s.activated (some doc)) :=
    h.handle_upkeep (.activated (some doc))
  have template' : entered.isTemplate doc = true :=
    ((s.upkeeps_leave (some doc)).isTemplate doc).trans template
  have shown' : Host.isOpen entered.host doc = true := (s.host_leave (some doc)).symm ▸ shown
  rw [welcome_of_isOpen template' shown'] at rest
  refine ⟨(entered.togglesOnTrack doc).get switch, rest.stand? ?_,
    (rest.published? switch).trans ?_⟩
  · exact congrArg (Option.map _) ((entered.toggles?_renew doc doc _).trans (if_pos rfl))
  · rw [published?_tellAll, lastFlag?_flags, Option.some_or]

/-- When a template that is not open becomes active, no flag is published. -/
theorem Coherent.activated_hidden {s : Session (Recorded σ)} (h : s.Coherent) {doc : String}
    (template : s.isTemplate doc = true) (hidden : ¬Host.isOpen s.host doc = true)
    (switch : Switch) : (s.activated (some doc)).published? switch = s.published? switch := by
  let entered := { s.leave (some doc) with active := some doc }
  have left := s.upkeeps_leave (some doc)
  have rest : Upkeeps (entered.welcome (some doc)) (s.activated (some doc)) :=
    h.handle_upkeep (.activated (some doc))
  have template' : entered.isTemplate doc = true := (left.isTemplate doc).trans template
  have hidden' : ¬Host.isOpen entered.host doc = true := (s.host_leave (some doc)).symm ▸ hidden
  rw [welcome_of_not_isOpen template' hidden'] at rest
  exact (rest.published? switch).trans (left.published? switch)

/-! ## Runs -/

/-- The flag of a switch shows how the switch of a document stands. -/
def Mirrors (s : Session (Recorded σ)) (doc : String) (switch : Switch) : Prop :=
  s.published? switch = some ((s.store.togglesOf doc).get switch)

instance (s : Session (Recorded σ)) (doc : String) (switch : Switch) :
    Decidable (s.Mirrors doc switch) :=
  inferInstanceAs (Decidable (_ = _))

omit [Host σ] in
theorem get_of_stand? {s : Session σ} {doc : String} {switch : Switch} {value : Bool}
    (h : s.stand? doc switch = some value) : (s.store.togglesOf doc).get switch = value := by
  obtain ⟨t, ht, rfl⟩ := Option.map_eq_some_iff.1 h
  rw [togglesOf_of_toggles? ht]

/-- When the active document is tracked, a flag shows how its switch stands in these cases and no
others. If the switch was flipped since the document was activated, it was last flipped in this
document, or to how it stands here. If it was not, the document was open when it was activated, or
the flag showed before already how the switch stands now. -/
theorem flags_mirror_iff (host : σ) (language : Language) (steps : List (Step σ)) (doc : String)
    (active : ((fresh host language).run steps).active = some doc)
    (tracked : ((fresh host language).run steps).store.contains doc = true) :
    let s := (fresh host language).run steps
    (∃ before after, Enters steps before doc after) ∧
      ∀ before after, Enters steps before doc after → ∀ switch,
        let left := (fresh host language).run before
        let entered := left.activated (some doc)
        (∀ other value, entered.lastSwitched? switch after = some (other, value) →
          (s.Mirrors doc switch ↔
            other = doc ∨ value = (s.store.togglesOf doc).get switch)) ∧
        (entered.lastSwitched? switch after = none →
          (s.Mirrors doc switch ↔ Host.isOpen left.host doc = true ∨
            left.published? switch = some ((s.store.togglesOf doc).get switch))) := by
  refine ⟨exists_enters active, ?_⟩
  rintro before after ⟨rfl, stays⟩ switch
  have template : ((fresh host language).run before).isTemplate doc = true := by
    have now := (run_coherent host language _).templates doc tracked
    rwa [run_isTemplate] at now ⊢
  rw [run_append] at active ⊢
  intro left entered
  have first : left.Coherent := run_coherent host language before
  have next : entered.Coherent := first.handle (.activated (some doc))
  obtain ⟨-, unclosed⟩ := next.not_closed stays active
  -- all that came before the activation is in the flag of `entered`
  have flag : (left.run (.event (.activated (some doc)) :: after)).published? switch = _ :=
    next.published?_run stays switch
  constructor
  · intro other value flip
    rw [Mirrors, flag, flip, Option.map_some, Option.some_or, Option.some_inj]
    refine (or_iff_right_of_imp ?_).symm
    rintro rfl
    exact (get_of_stand? (next.stand?_run unclosed (.inl flip))).symm
  · intro none
    -- the flag is as the activation left it, and so is the switch if the activation tracked it
    rw [Mirrors, flag, none, Option.map_none, Option.none_or]
    by_cases shown : Host.isOpen left.host doc = true
    · obtain ⟨value, stood, shows⟩ := first.activated_shown template shown switch
      have stands := get_of_stand? (next.stand?_run unclosed (.inr ⟨none, stood⟩))
      exact iff_of_true (shows.trans (congrArg some stands.symm)) (.inl shown)
    · rw [first.activated_hidden template shown switch, or_iff_right shown]

/-- Two open templates. -/
def neighbors : Workspace :=
  .ofDocuments ((KeyMap.empty.insert "a.erb" ⟨some "", some 0, false⟩).insert "b.erb"
    ⟨some "", some 0, false⟩) false

/-- The folding is switched on in the active template, and then in its neighbor. The flags show how
the switches of the active one stand all the same. -/
theorem flags_mirror_both_switched :
    let s := (fresh neighbors .default).run
      [.event (.activated (some "b.erb")), .event (.toggle "b.erb" .dimming),
        .event (.activated (some "a.erb")), .event (.toggle "a.erb" .folding),
        .event (.toggle "b.erb" .folding)]
    s.active = some "a.erb" ∧ s.store.togglesOf "a.erb" = ⟨false, true, true⟩ ∧
      ∀ switch, s.Mirrors "a.erb" switch := by
  have active : ((fresh neighbors .default).run
      [.event (.activated (some "b.erb")), .event (.toggle "b.erb" .dimming),
        .event (.activated (some "a.erb")), .event (.toggle "a.erb" .folding),
        .event (.toggle "b.erb" .folding)]).active = some "a.erb" := by decide +kernel
  have mirrors := (flags_mirror_iff neighbors .default _ "a.erb" active (by decide +kernel)).2
    [.event (.activated (some "b.erb")), .event (.toggle "b.erb" .dimming)]
    [.event (.toggle "a.erb" .folding), .event (.toggle "b.erb" .folding)] ⟨rfl, by simp⟩
  refine ⟨active, by decide +kernel, fun switch => ?_⟩
  cases switch with
  | dimming => exact ((mirrors .dimming).2 (by decide +kernel)).2 (.inl (by decide +kernel))
  | folding =>
    exact ((mirrors .folding).1 "b.erb" true (by decide +kernel)).2 (.inr (by decide +kernel))
  | frames => exact ((mirrors .frames).2 (by decide +kernel)).2 (.inl (by decide +kernel))

/-- The dimming is switched on in a neighbor of the active template. The flag is on, while the
switch of the active template is off. -/
theorem flag_not_mirrored_neighbor_switched :
    let s := (fresh neighbors .default).run
      [.event (.activated (some "a.erb")), .event (.toggle "b.erb" .dimming)]
    s.active = some "a.erb" ∧ s.isTemplate "a.erb" = true ∧ s.store.contains "a.erb" = true ∧
      s.published? .dimming = some true ∧ (s.store.togglesOf "a.erb").get .dimming = false ∧
        ¬s.Mirrors "a.erb" .dimming := by
  decide +kernel

end Session

end TemplatePaint
