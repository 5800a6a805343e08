import TemplatePaint.Host.Archive
import TemplatePaint.Proofs.Session.Upkeep

/-!
# What is tracked is stored

While every configuration lets toggles outlive sessions, the toggles of a
tracked document are what the archive has stored for it, or those of a new
document (`toggles_stored`). One invariant carries this (`Lasting`): upkeep
keeps it, for it tracks a document with what is stored for it, and so does a
switch that is flipped, for the new toggles are stored at once, and their
stored form says them (`Toggles.ofStored_stored`).
-/

namespace TemplatePaint

/-- The toggles that a stored text says; those of a new document if there is none, or it is
faulty. -/
def Toggles.saved (raw? : Option String) : Toggles :=
  (raw?.bind fun raw => (ofStored raw).toOption).getD .default

theorem Toggles.saved_stored (t : Toggles) : saved (some t.stored) = t := by
  rw [saved, Option.bind_some, ofStored_stored]
  rfl

/-- The value gives settings, and with them toggles outlive sessions. -/
def Settings.Last (j : Json) : Prop :=
  ∃ settings, Settings.ofJson j = .ok settings ∧ settings.persistence = .always

/-- Wrong settings count as none, and with none toggles do not outlive sessions. -/
theorem Settings.last_iff {j : Json} : Last j ↔ (load j).persistence = .always := by
  rw [Last, load]
  cases ofJson j with
  | error fault => simp [default]
  | ok settings => simp

namespace Archive

variable {σ : Type} [Host σ]

/-- Calls that store nothing leave what is stored. -/
theorem stored_foldl {calls : List HostCall} (h : ∀ c ∈ calls, c.storesToggles = false)
    (a : Archive σ) : (calls.foldl Host.perform a).stored = a.stored := by
  refine Host.Steady.foldl_perform (f := stored) (fun c hc a => ?_) a
  have quiet := h c hc
  cases c with
  | storeToggles doc raw => cases quiet
  | _ => rfl

end Archive

namespace Session

variable {σ : Type} [Host σ]

/-- What is stored for a document. -/
def stored (s : Session (Recorded (Archive σ))) (doc : String) : Option String :=
  s.host.host.stored doc

variable {s s' : Session (Recorded (Archive σ))}

/-! ## What is stored -/

theorem stored_tellAll {calls : List HostCall} (h : ∀ c ∈ calls, c.storesToggles = false) :
    (s.tellAll calls).stored = s.stored := by
  funext doc
  rw [stored, host_tellAll, Archive.stored_foldl h]
  rfl

/-- Upkeep stores nothing. -/
theorem Upkeep.stored (u : Upkeep s s') : s'.stored = s.stored := by
  cases u with
  | tell calls quiet => exact stored_tellAll fun c hc => storesToggles_of_isQuiet (quiet c hc)
  | adjust => rfl
  | renew => rfl

theorem Upkeeps.stored (u : Upkeeps s s') : s'.stored = s.stored :=
  u.keeps_eq Upkeep.stored

theorem stored_welcome (s : Session (Recorded (Archive σ))) (doc : Option String) :
    (s.welcome doc).stored = s.stored := by
  obtain ⟨s', calls, u, quiet, e⟩ := s.welcome_upkeeps doc
  rw [e, stored_tellAll quiet, u.stored]

/-- The onset of an event stores nothing for a document of which it flips no switch. -/
theorem stored_onset (s : Session (Recorded (Archive σ))) {e : Event} {doc : String}
    (h : ∀ switch, e ≠ .toggle doc switch) : (s.onset e).stored doc = s.stored doc := by
  cases e with
  | activated next =>
    refine (congrFun (stored_welcome _ next) doc).trans ?_
    exact congrFun (s.upkeeps_leave next).stored doc
  | configured key =>
    dsimp only [onset]
    split <;> rfl
  | toggle doc' switch =>
    have other : doc ≠ doc' := fun same => h switch (same ▸ rfl)
    dsimp only [onset]
    split
    · rw [flipped]
      split
      · exact if_neg other
      · rfl
    · rfl
  | _ => rfl

/-! ## The invariant -/

/-- Toggles outlive the session, and the toggles of a tracked document are the stored ones. -/
structure Lasting (s : Session (Recorded (Archive σ))) : Prop where
  coherent : s.Coherent
  always : s.settings.persistence = .always
  saved : ∀ doc t, s.toggles? doc = some t → t = .saved (s.stored doc)

namespace Lasting

/-- A document that is to be tracked has the stored toggles. -/
theorem togglesOnTrack (h : s.Lasting) (doc : String) :
    s.togglesOnTrack doc = .saved (s.stored doc) := by
  cases tracked : s.toggles? doc with
  | some t => rw [togglesOnTrack_of_toggles? tracked, h.saved doc t tracked]
  | none =>
    have new : s.store.get? doc = none := Option.map_eq_none_iff.1 tracked
    rw [Session.togglesOnTrack, new, storedToggles?, if_pos h.always]
    rfl

omit [Host σ] in
/-- What changes neither what is stored nor what is tracked, nor its toggles, keeps the
invariant. -/
theorem of_eq (h : s.Lasting) (coherent : s'.Coherent) (always : s'.settings = s.settings)
    (toggles : s'.toggles? = s.toggles?) (stored : s'.stored = s.stored) : s'.Lasting :=
  ⟨coherent, always ▸ h.always, fun doc t ht => stored ▸ h.saved doc t (toggles ▸ ht)⟩

theorem upkeep (h : s.Lasting) (u : Upkeep s s') : s'.Lasting := by
  refine ⟨u.coherent h.coherent, u.settings ▸ h.always, fun doc t ht => ?_⟩
  rw [u.stored]
  cases u with
  | tell calls => exact h.saved doc t ht
  | adjust store debouncer toggles => exact h.saved doc t ((toggles doc).symm.trans ht)
  | renew template =>
    rw [toggles?_renew] at ht
    split at ht
    · rename_i same
      rw [← Option.some.inj ht, same, h.togglesOnTrack]
    · exact h.saved doc t ht

theorem upkeeps (h : s.Lasting) (u : Upkeeps s s') : s'.Lasting :=
  u.keeps (P := Lasting) (fun u h => h.upkeep u) h

theorem tellAll (h : s.Lasting) {calls : List HostCall}
    (quiet : ∀ c ∈ calls, c.storesToggles = false) : (s.tellAll calls).Lasting :=
  h.of_eq (h.coherent.tellAll calls) rfl rfl (stored_tellAll quiet)

theorem welcome (h : s.Lasting) (doc : Option String) : (s.welcome doc).Lasting := by
  obtain ⟨s', calls, u, quiet, e⟩ := s.welcome_upkeeps doc
  rw [e]
  exact (h.upkeeps u).tellAll quiet

/-- A flipped switch is stored at once. -/
theorem flip (h : s.Lasting) {doc : String} (live : s.isLive doc = true) (switch : Switch) :
    (s.onset (.toggle doc switch)).Lasting := by
  have coherent := h.coherent.onset (.toggle doc switch)
  rw [onset, if_pos live, flipped, if_pos h.always] at coherent ⊢
  generalize (s.togglesOnTrack doc).flip switch = toggles at coherent ⊢
  refine ⟨coherent, h.always, fun doc' t ht => ?_⟩
  change (s.renew doc toggles).toggles? doc' = some t at ht
  show t = .saved (if doc' = doc then some toggles.stored else s.stored doc')
  rw [toggles?_renew] at ht
  split at ht
  · rename_i same
    rw [if_pos same, Toggles.saved_stored, Option.some.inj ht]
  · rename_i other
    rw [if_neg other]
    exact h.saved doc' t ht

theorem onset (h : s.Lasting) (e : Event)
    (configured : ∀ key, e = .configured key → Settings.affectedBy key = true →
      Settings.Last (Host.settings s.host)) : (s.onset e).Lasting := by
  cases e with
  | activated doc =>
    have left := h.upkeeps (s.upkeeps_leave doc)
    exact welcome (s := { s.leave doc with active := doc })
      (left.of_eq ⟨left.coherent.scheduled, left.coherent.templates⟩ rfl rfl rfl) doc
  | configured key =>
    have coherent := h.coherent.onset (.configured key)
    dsimp only [Session.onset] at coherent ⊢
    split at coherent
    · rename_i affected
      rw [if_pos affected]
      exact ⟨coherent, Settings.last_iff.1 (configured key rfl affected), h.saved⟩
    · rename_i unaffected
      rwa [if_neg unaffected]
  | closed doc =>
    refine ⟨h.coherent.closed doc, h.always, fun doc' t ht => ?_⟩
    change ((s.store.erase doc).get? doc').map (·.toggles) = some t at ht
    rw [KeyMap.get?_erase] at ht
    split at ht
    · cases ht
    · exact h.saved doc' t ht
  | toggle doc switch =>
    cases live : s.isLive doc with
    | true => exact h.flip live switch
    | false =>
      rw [Session.onset, live]
      exact h
  | _ => exact h

end Lasting

/-! ## Runs -/

/-- The configuration that the host returns during a step, if the settings changed. -/
def configuration (s : Session (Recorded σ)) : Step σ → List Json
  | .event (.configured key) => if Settings.affectedBy key then [Host.settings s.host] else []
  | _ => []

/-- The configurations that the host returns during some steps. -/
def configurations (s : Session (Recorded σ)) : List (Step σ) → List Json
  | [] => []
  | a :: later => s.configuration a ++ (s.step a).configurations later

theorem configurations_append (s : Session (Recorded σ)) (xs ys : List (Step σ)) :
    s.configurations (xs ++ ys) = s.configurations xs ++ (s.run xs).configurations ys := by
  induction xs generalizing s with
  | nil => rfl
  | cons a xs ih =>
    rw [List.cons_append, configurations, configurations, ih, List.append_assoc]
    rfl

theorem Lasting.run (h : s.Lasting) {steps : List (Step (Archive σ))}
    (last : ∀ j ∈ s.configurations steps, Settings.Last j)
    (untouched : ∀ f, .change f ∈ steps → ∀ a : Archive σ, (f a).stored = a.stored) :
    (s.run steps).Lasting := by
  induction steps generalizing s with
  | nil => exact h
  | cons a later ih =>
    obtain ⟨asked, last⟩ := List.forall_mem_append.1 last
    refine ih ?_ last fun f hf => untouched f (List.mem_cons_of_mem _ hf)
    cases a with
    | change f =>
      exact h.of_eq (h.coherent.step (.change f)) rfl rfl (untouched f List.mem_cons_self _)
    | event e =>
      refine (h.onset e ?_).upkeeps (h.coherent.handle_upkeep e)
      rintro key rfl affected
      exact asked _ (by simp [configuration, affected])

/-- What is stored for a document stays while no switch of it is flipped. -/
theorem stored_run (h : s.Coherent) {steps : List (Step (Archive σ))} {doc : String}
    (untoggled : ∀ switch, .event (.toggle doc switch) ∉ steps)
    (untouched : ∀ f, .change f ∈ steps → ∀ a : Archive σ, (f a).stored = a.stored) :
    (s.run steps).stored doc = s.stored doc := by
  induction steps generalizing s with
  | nil => rfl
  | cons a later ih =>
    have rest := ih (h.step a) (fun switch hm => untoggled switch (List.mem_cons_of_mem a hm))
      fun f hf => untouched f (List.mem_cons_of_mem a hf)
    refine rest.trans ?_
    cases a with
    | change f => exact congrFun (untouched f List.mem_cons_self _) doc
    | event e =>
      refine (congrFun (h.handle_upkeep e).stored doc).trans (s.stored_onset fun switch same => ?_)
      exact untoggled switch (same ▸ List.mem_cons_self)

theorem lasting_fresh {archive : Archive σ} (last : Settings.Last (Host.settings archive))
    (language : Language) : (fresh archive language).Lasting :=
  ⟨coherent_fresh archive language, Settings.last_iff.1 last,
    fun _ _ (ht : none = some _) => nomatch ht⟩

/-- While every configuration that the host returns lets toggles outlive sessions, and nothing but
the session changes what is stored, the toggles of every tracked document are what is stored for it,
or those of a new document. So a document that was closed and is tracked again has the toggles that
it had when it was closed, unless a switch of it is flipped in between. -/
theorem toggles_stored (archive : Archive σ) (language : Language) (steps : List (Step (Archive σ)))
    (last : ∀ j ∈ Host.settings archive :: (fresh archive language).configurations steps,
      Settings.Last j)
    (untouched : ∀ f, .change f ∈ steps → ∀ a : Archive σ, (f a).stored = a.stored) :
    let s := (fresh archive language).run steps
    (∀ doc, s.store.contains doc = true → s.store.togglesOf doc = .saved (s.stored doc)) ∧
      ∀ before after doc, steps = before ++ .event (.closed doc) :: after →
        (∀ switch, .event (.toggle doc switch) ∉ after) →
          let closed := (fresh archive language).run before
          closed.store.contains doc = true → s.store.contains doc = true →
            s.store.togglesOf doc = closed.store.togglesOf doc := by
  obtain ⟨first, last⟩ := List.forall_mem_cons.1 last
  have new := lasting_fresh first language
  have saved {s : Session (Recorded (Archive σ))} (h : s.Lasting) (doc : String)
      (tracked : s.store.contains doc = true) : s.store.togglesOf doc = .saved (s.stored doc) :=
    h.saved doc _ (toggles?_of_contains tracked)
  have lasting := new.run last untouched
  refine ⟨saved lasting, ?_⟩
  rintro before after doc rfl untoggled closed was tracked
  rw [configurations_append] at last
  have lastingThen : closed.Lasting := new.run (List.forall_mem_append.1 last).1
    fun f hf => untouched f (List.mem_append_left _ hf)
  rw [saved lasting doc tracked, saved lastingThen doc was, run_append]
  refine congrArg _ (stored_run lastingThen.coherent (fun switch hm => ?_) fun f hf =>
    untouched f (List.mem_append_right _ hf))
  rcases List.mem_cons.1 hm with same | hm
  · cases same
  · exact untoggled switch hm

/-- Stored toggles of one template are faulty, and nothing is stored for the other. -/
def faulty : Archive Workspace where
  host := { Workspace.ofDocuments ((KeyMap.empty.insert "a.erb" ⟨some "", some 0, false⟩).insert
      "b.erb" ⟨some "", some 0, false⟩) false with
    settings := .object [("togglePersistence", .text "Always")] }
  stored doc := if doc = "a.erb" then some "[1]" else none

/-- A template whose folding was switched on is closed and opened again. -/
def reopened : List (Step (Archive Workspace)) :=
  [.event (.activated (some "a.erb")), .event (.toggle "a.erb" .folding), .event (.closed "a.erb"),
    .event (.configured "erbalist"), .event (.toggle "b.erb" .dimming),
    .event (.activated (some "a.erb"))]

/-- The folding of the template is on when it is opened again, as it was when it was closed. -/
theorem toggles_stored_reopened :
    let s := (fresh faulty .default).run reopened
    s.store.togglesOf "a.erb" = ⟨false, true, true⟩ ∧
      s.store.togglesOf "a.erb" = .saved (s.stored "a.erb") := by
  have last : ∀ j ∈ Host.settings faulty :: (fresh faulty .default).configurations reopened,
      Settings.Last j := by
    have all : ((Host.settings faulty :: (fresh faulty .default).configurations reopened).all
        fun j => (Settings.load j).persistence = .always) = true := by decide +kernel
    exact fun j hj => Settings.last_iff.2 (of_decide_eq_true (List.all_eq_true.1 all j hj))
  have kept := toggles_stored faulty .default reopened last (by simp [reopened])
  refine ⟨(kept.2 [.event (.activated (some "a.erb")), .event (.toggle "a.erb" .folding)] _ "a.erb"
    rfl (by simp) (by decide +kernel) (by decide +kernel)).trans (by decide +kernel), ?_⟩
  exact kept.1 "a.erb" (by decide +kernel)

end Session

end TemplatePaint
