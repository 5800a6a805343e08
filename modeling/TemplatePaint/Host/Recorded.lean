import TemplatePaint.Host.Basic

/-!
# Recorded hosts

A host beside the list of the calls made to it, and the answers that it gave
to the requests for folds among them. It shows and answers what the host does,
so a session with a recorded host acts as with the host itself. The record
tells what was painted last in a group, `lastPainted?`, which value a flag was
given last, `lastFlag?`, and which request was made last for a document,
`lastAnswer?`.

* `callsSince_eq`, `answersSince_eq`: what was added to a record;
* `callsSince_of_append`, `answersSince_of_append`: it was added in parts.
-/

namespace TemplatePaint

namespace HostCall

/-- The request for folds that a call makes. -/
def request? : HostCall → Option FoldRequest
  | .requestFolds request => some request
  | _ => none

/-- What a call paints in a group of a document. -/
def painting? (doc : String) (group : Group) : HostCall → Option (List Region)
  | .paint d g regions => if d = doc ∧ g = group then some regions else none
  | _ => none

/-- The value that a call gives to a flag. -/
def flag? (flag : String) : HostCall → Option Bool
  | .setFlag key value => if key = flag then some value else none
  | _ => none

end HostCall

/-- What the calls of a list, the latest first, leave painted in a group of a document. -/
def lastPainted? (calls : List HostCall) (doc : String) (group : Group) : Option (List Region) :=
  calls.findSome? (·.painting? doc group)

/-- The last value that the calls of a list, the latest first, give to a flag. -/
def lastFlag? (calls : List HostCall) (flag : String) : Option Bool :=
  calls.findSome? (·.flag? flag)

/-- The latest request for the folds of a document, and its answer. -/
def lastAnswer? (answers : List (FoldRequest × FoldAnswer)) (doc : String) :
    Option (FoldRequest × FoldAnswer) :=
  answers.find? (·.1.document = doc)

/-- A host, and the calls made to it, the latest first. -/
structure Recorded (σ : Type) where
  host : σ
  calls : List HostCall
  /-- The requests for folds among the calls, each with the answer that the host gave at once. -/
  answers : List (FoldRequest × FoldAnswer)
  answers_eq : answers.map (·.1) = calls.filterMap (·.request?)

namespace Recorded

variable {σ : Type}

/-- A host to which no call has been made. -/
def ofHost (host : σ) : Recorded σ := ⟨host, [], [], rfl⟩

/-- The host changes by itself. -/
def change (r : Recorded σ) (f : σ → σ) : Recorded σ := { r with host := f r.host }

/-- The calls that were made after those of an earlier record. -/
def callsSince (r earlier : Recorded σ) : List HostCall :=
  r.calls.take (r.calls.length - earlier.calls.length)

/-- The answers that were given after those of an earlier record. -/
def answersSince (r earlier : Recorded σ) : List (FoldRequest × FoldAnswer) :=
  r.answers.take (r.answers.length - earlier.answers.length)

theorem callsSince_eq {r earlier : Recorded σ} {calls : List HostCall}
    (h : r.calls = calls ++ earlier.calls) : r.callsSince earlier = calls := by
  rw [callsSince, h, List.length_append, Nat.add_sub_cancel, List.take_left]

theorem answersSince_eq {r earlier : Recorded σ} {answers : List (FoldRequest × FoldAnswer)}
    (h : r.answers = answers ++ earlier.answers) : r.answersSince earlier = answers := by
  rw [answersSince, h, List.length_append, Nat.add_sub_cancel, List.take_left]

/-- What was added since an earlier record was added before a later one or after it. -/
theorem callsSince_of_append {r mid earlier : Recorded σ} {calls : List HostCall}
    (h : r.calls = calls ++ mid.calls) (hm : earlier.calls <:+ mid.calls) :
    r.callsSince earlier = calls ++ mid.callsSince earlier := by
  obtain ⟨old, ho⟩ := hm
  rw [callsSince_eq (h.trans (ho ▸ (List.append_assoc ..).symm)), callsSince_eq ho.symm]

theorem answersSince_of_append {r mid earlier : Recorded σ}
    {answers : List (FoldRequest × FoldAnswer)} (h : r.answers = answers ++ mid.answers)
    (hm : earlier.answers <:+ mid.answers) :
    r.answersSince earlier = answers ++ mid.answersSince earlier := by
  obtain ⟨old, ho⟩ := hm
  rw [answersSince_eq (h.trans (ho ▸ (List.append_assoc ..).symm)), answersSince_eq ho.symm]

/-- The answers after a call: those before, and the one to the request that it makes. -/
def answersAfter [Host σ] (r : Recorded σ) (call : HostCall) : List (FoldRequest × FoldAnswer) :=
  (call.request?.toList.map fun request => (request, Host.answer r.host request)) ++ r.answers

theorem answersAfter_eq [Host σ] (r : Recorded σ) (call : HostCall) :
    (r.answersAfter call).map (·.1) = (call :: r.calls).filterMap (·.request?) := by
  rw [answersAfter, List.map_append, List.map_map, r.answers_eq, List.filterMap_cons]
  cases call.request? <;> rfl

instance [Host σ] : Host (Recorded σ) where
  isOpen r doc := Host.isOpen r.host doc
  text? r doc := Host.text? r.host doc
  cursor? r doc := Host.cursor? r.host doc
  hasSelection r doc := Host.hasSelection r.host doc
  settings r := Host.settings r.host
  visible r := Host.visible r.host
  stored? r doc := Host.stored? r.host doc
  answer r request := Host.answer r.host request
  perform r call :=
    ⟨Host.perform r.host call, call :: r.calls, r.answersAfter call, r.answersAfter_eq call⟩

end Recorded

end TemplatePaint
