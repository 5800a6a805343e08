import Mathlib.Data.List.SplitOn

/-!
# Listings

A listing is a label, a colon, and entries with commas between them. If neither
the label nor the entries have spaces, the entries are all that it lists
(`lists_listing_iff`): cut at its spaces, and with a comma put behind the last
entry, it has each entry with its comma as a piece.
-/

namespace TemplatePaint

/-- Some entries behind a label, with commas between them. -/
def listing (label : String) (entries : List String) : String :=
  label ++ ": " ++ ", ".intercalate entries

/-- The text can be read as a listing that has this entry. -/
def Lists (text entry : String) : Prop :=
  ∃ label before after, text = listing label (before ++ entry :: after)

variable {label entry : String} {entries : List String}

/-- The entries, each with a comma and a space behind it. -/
def withCommas (entries : List String) : List Char :=
  entries.flatMap fun e => e.toList ++ [',', ' ']

theorem withCommas_cons (e : String) (entries : List String) :
    withCommas (e :: entries) = (e.toList ++ [',']) ++ ' ' :: withCommas entries := by
  rw [withCommas, withCommas, List.flatMap_cons, List.append_assoc, List.append_assoc]
  rfl

theorem toList_intercalate_append (some : entries ≠ []) :
    (", ".intercalate entries).toList ++ [',', ' '] = withCommas entries := by
  rw [String.toList_intercalate]
  show [',', ' '].intercalate (entries.map String.toList) ++ [',', ' '] = withCommas entries
  induction entries with
  | nil => exact absurd rfl some
  | cons e entries ih =>
    cases entries with
    | nil => simp [withCommas]
    | cons f entries =>
      rw [List.map_cons, List.map_cons, List.intercalate_cons_cons, List.append_assoc,
        ← List.map_cons, ih (List.cons_ne_nil f entries)]
      rfl

/-- A listing with a comma behind its last entry. -/
theorem toList_listing_append (some : entries ≠ []) :
    (listing label entries).toList ++ [',', ' '] =
      (label.toList ++ [':']) ++ ' ' :: withCommas entries := by
  rw [listing, String.toList_append, String.toList_append, List.append_assoc,
    toList_intercalate_append some, show ": ".toList = [':', ' '] from rfl]
  simp

/-- Characters without a space, cut at the space that follows them. -/
theorem splitOn_append_space {cs rest : List Char} (whole : ' ' ∉ cs) :
    (cs ++ ' ' :: rest).splitOn ' ' = cs :: rest.splitOn ' ' :=
  List.splitOnP_append_cons_of_forall_mem
    (fun c hc => beq_false_of_ne fun (same : c = ' ') => whole (same ▸ hc)) ' ' rfl rest

/-- Entries without spaces, cut at the spaces behind them. -/
theorem splitOn_withCommas (whole : ∀ e ∈ entries, ' ' ∉ e.toList) :
    (withCommas entries).splitOn ' ' = entries.map (fun e => e.toList ++ [',']) ++ [[]] := by
  induction entries with
  | nil => rfl
  | cons e entries ih =>
    obtain ⟨first, whole⟩ := List.forall_mem_cons.1 whole
    rw [withCommas_cons, splitOn_append_space (by simpa using first), ih whole]
    rfl

/-- An entry without spaces is a piece, whatever the others are. -/
theorem mem_splitOn_withCommas (mem : entry ∈ entries) (single : ' ' ∉ entry.toList) :
    entry.toList ++ [','] ∈ (withCommas entries).splitOn ' ' := by
  induction entries with
  | nil => simp at mem
  | cons e entries ih =>
    rw [withCommas_cons]
    rcases List.mem_cons.1 mem with rfl | later
    · rw [splitOn_append_space (by simpa using single)]
      exact List.mem_cons_self
    · rw [List.splitOn, List.splitOnP_append_cons _ _ rfl]
      exact List.mem_append_right _ (ih later)

/-- A listing without spaces in its label and its entries has just its entries. -/
theorem lists_listing_iff (some : entries ≠ []) (named : ' ' ∉ label.toList)
    (whole : ∀ e ∈ entries, ' ' ∉ e.toList) (single : ' ' ∉ entry.toList) :
    Lists (listing label entries) entry ↔ entry ∈ entries := by
  constructor
  · rintro ⟨label', before, after, same⟩
    have texts : (listing label entries).toList ++ [',', ' '] =
        (listing label' (before ++ entry :: after)).toList ++ [',', ' '] := by rw [same]
    rw [toList_listing_append some, toList_listing_append (by simp)] at texts
    -- the entry is a piece of the second reading, so one of the first
    have piece : entry.toList ++ [','] ∈
        ((label.toList ++ [':']) ++ ' ' :: withCommas entries).splitOn ' ' := by
      rw [texts, List.splitOn, List.splitOnP_append_cons _ _ rfl]
      exact List.mem_append_right _ (mem_splitOn_withCommas (by simp) single)
    rw [splitOn_append_space (by simpa using named), splitOn_withCommas whole] at piece
    rcases List.mem_cons.1 piece with first | later
    · exact absurd (List.append_inj_right' first rfl) (by decide)
    · rcases List.mem_append.1 later with mem | last
      · obtain ⟨e, he, same⟩ := List.mem_map.1 mem
        exact String.toList_injective (List.append_cancel_right same) ▸ he
      · exact absurd (List.mem_singleton.1 last) (by simp)
  · intro mem
    obtain ⟨before, after, rfl⟩ := List.append_of_mem mem
    exact ⟨label, before, after, rfl⟩

end TemplatePaint
