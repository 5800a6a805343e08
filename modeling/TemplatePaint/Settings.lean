import TemplatePaint.Context
import TemplatePaint.Json.FloatText
import TemplatePaint.Json.Value
import TemplatePaint.Text.Quoted

/-!
# Settings

What the user chooses, read from a JSON value of the host: an object with the
settings as members, or an array with the settings in order, by itself or as
the section of a larger object. A setting that is left out has its default.
Members are read in the order of their keys and the first that is wrong is
reported, as a cause; `SettingsError.message` words it.
-/

namespace TemplatePaint

/-- Whether toggles outlive a session. -/
inductive Persistence where
  | always
  | never
deriving DecidableEq

/-- What the user chooses. -/
structure Settings where
  emphasis : Emphasis
  persistence : Persistence
  /-- Soft wrap is switched together with folding. -/
  wrapsWithFolding : Bool
  /-- How long a document is left alone after an edit, in milliseconds. -/
  editQuiet : Nat
deriving DecidableEq

/-- One of the settings. -/
inductive Setting where
  | emphasis
  | persistence
  | wrapsWithFolding
  | editQuiet
deriving DecidableEq

namespace Setting

/-- All settings, in the order in which an array gives them. -/
def all : List Setting := [emphasis, persistence, wrapsWithFolding, editQuiet]

/-- The key of the setting. -/
def key : Setting → String
  | emphasis => "highlightMode"
  | persistence => "togglePersistence"
  | wrapsWithFolding => "toggleWordWrapWithFolding"
  | editQuiet => "editDebounceMs"

/-- The setting with a key. -/
def ofKey? (key : String) : Option Setting := all.find? (·.key == key)

theorem ofKey?_eq_some_iff {key : String} {k : Setting} : ofKey? key = some k ↔ k.key = key := by
  constructor
  · intro found
    simpa using List.find?_some found
  · rintro rfl
    cases k <;> rfl

end Setting

/-- What a value was expected to be. -/
inductive Expectation where
  /-- The name of a choice, or an object with the name as its only key. -/
  | choice
  /-- Nothing, as the value of such an object. -/
  | nothing
  | truth
  | natural
  | settings
deriving DecidableEq

/-- The name of the expectation. -/
def Expectation.text : Expectation → String
  | choice => "string or map"
  | nothing => "unit"
  | truth => "a boolean"
  | natural => "u64"
  | settings => "struct Settings"

/-- What is wrong with a settings value. -/
inductive SettingsError where
  /-- A choice that is none of the two possible ones. -/
  | unknownChoice (name first second : String)
  /-- A value of the wrong type. -/
  | wrongType (found : Json) (expected : Expectation)
  /-- The number `-n` where a natural number is needed. -/
  | negative (n : Nat)
  /-- A choice given as an object with no key or with several. -/
  | notOneKey
  /-- An array with more values than there are settings. -/
  | tooMany (count : Nat)

/-- The text between backticks. -/
def ticked (s : String) : String := "\x60" ++ s ++ "\x60"

/-- What a value is, for a message. -/
def Json.describe : Json → String
  | null => "null"
  | bool b => "boolean " ++ ticked (if b then "true" else "false")
  | number (.natural n) => "integer " ++ ticked (toString n)
  | number (.negative n) => "integer " ++ ticked ("-" ++ toString n)
  | number (.real isNegative value) => "floating point " ++ ticked (FloatText.text isNegative value)
  | text s => "string " ++ quoteText s
  | list _ => "sequence"
  | object _ => "map"

namespace SettingsError

/-- The wording of the cause. -/
def cause : SettingsError → String
  | unknownChoice name first second =>
    "unknown variant " ++ ticked name ++ ", expected " ++ ticked first ++ " or " ++ ticked second
  | wrongType found expected =>
    "invalid type: " ++ found.describe ++ ", expected " ++ expected.text
  | negative n => "invalid value: integer " ++ ticked ("-" ++ toString n) ++ ", expected u64"
  | notOneKey => "invalid value: map, expected map with a single key"
  | tooMany count =>
    "invalid length " ++ toString count ++ ", expected fewer elements in array"

/-- The message for the host. -/
def message (e : SettingsError) : String := "invalid erbalist settings: " ++ e.cause

end SettingsError

namespace Settings

/-- The settings of a user who chooses nothing. -/
def default : Settings := ⟨.whenInside, .never, false, 150⟩

/-- The key of the section with the settings. -/
def sectionKey : String := "erbalist"

/-! ## Values -/

/-- One of two choices by name. -/
def choiceNamed {α : Type} (first second : String × α) (name : String) : Except SettingsError α :=
  if name = first.1 then .ok first.2
  else if name = second.1 then .ok second.2
  else .error (.unknownChoice name first.1 second.1)

/-- One of two choices, by name or as the only key of an object. -/
def choice {α : Type} (first second : String × α) : Json → Except SettingsError α
  | .text name => choiceNamed first second name
  | .object [(name, value)] => do
    let chosen ← choiceNamed first second name
    match value with
    | .null => return chosen
    | found => throw (.wrongType found .nothing)
  | .object _ => .error .notOneKey
  | found => .error (.wrongType found .choice)

/-- A choice of emphasis. -/
def emphasisOf : Json → Except SettingsError Emphasis :=
  choice ("always", .always) ("whenInBlock", .whenInside)

/-- A choice of persistence. -/
def persistenceOf : Json → Except SettingsError Persistence :=
  choice ("Always", .always) ("Never", .never)

/-- A truth value. -/
def truthOf : Json → Except SettingsError Bool
  | .bool b => .ok b
  | found => .error (.wrongType found .truth)

/-- A natural number. -/
def naturalOf : Json → Except SettingsError Nat
  | .number (.natural n) => .ok n
  | .number (.negative n) => .error (.negative n)
  | found => .error (.wrongType found .natural)

/-! ## Sections -/

/-- The settings with one of them read from a value. -/
def take (s : Settings) (j : Json) : Setting → Except SettingsError Settings
  | .emphasis => do return { s with emphasis := ← emphasisOf j }
  | .persistence => do return { s with persistence := ← persistenceOf j }
  | .wrapsWithFolding => do return { s with wrapsWithFolding := ← truthOf j }
  | .editQuiet => do return { s with editQuiet := ← naturalOf j }

/-- The settings after a member of an object. What has another key is passed over; a key that was
read before does not come again. -/
def takeMember (s : Settings) (m : String × Json) : Except SettingsError Settings :=
  match Setting.ofKey? m.1 with
  | some k => s.take m.2 k
  | none => .ok s

/-- The settings that an object gives as members. -/
def ofMembers (members : List (String × Json)) : Except SettingsError Settings :=
  (Json.inKeyOrder members).foldlM takeMember default

/-- The settings that an array gives in order. -/
def ofList (items : List Json) : Except SettingsError Settings := do
  let settings ← (items.zip Setting.all).foldlM (fun s (j, k) => s.take j k) default
  if items.length > Setting.all.length then throw (.tooMany items.length)
  return settings

/-- The settings of a section. -/
def ofSection : Json → Except SettingsError Settings
  | .null => .ok default
  | .object members => ofMembers members
  | .list items => ofList items
  | found => .error (.wrongType found .settings)

/-- The settings in a value of the host: in its section, or in the value itself if it has none. -/
def ofJson (j : Json) : Except SettingsError Settings := ofSection ((j.member? sectionKey).getD j)

/-- The settings in a value of the host; wrong settings count as none. -/
def load (j : Json) : Settings :=
  match ofJson j with
  | .ok settings => settings
  | .error _ => default

/-- A change under this key concerns the settings. -/
def affectedBy (key : String) : Bool :=
  key == sectionKey || (sectionKey ++ ".").toList.isPrefixOf key.toList

end Settings

end TemplatePaint
