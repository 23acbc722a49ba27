import RecordAudit.Settings.Validation
import RecordAudit.Text.Lowercase
import RecordAudit.Value.Json

/-!
# Settings from the environment

Environment variables whose names start with `FIELDCHECK_` hold settings: a section as JSON under
its name, or a single setting under the section's name and its own, with two low lines between them.
Settings that are given directly go before those of the environment, key by key. The case of letters
in the names of variables and sections does not matter.
-/

namespace RecordAudit

open Text

/-- The entries of one mapping laid over those of another; where both have a mapping under a key,
these are laid over each other in turn. -/
def overlay (base : List (String × Value)) : List (String × Value) → List (String × Value)
  | [] => base
  | (key, .mapping upper) :: rest =>
    match base.lookup key with
    | some (.mapping entries) => overlay (upsert key (.mapping (overlay entries upper)) base) rest
    | _ => overlay (upsert key (.mapping upper) base) rest
  | (key, v) :: rest => overlay (upsert key v base) rest

namespace Environment

/-- Environment variables in their order. -/
abbrev Variables := Assoc String

def startOfNames : String := "fieldcheck_"

/-- The lower-case form of a name. -/
def foldName (s : String) : String :=
  String.ofList (s.toList.flatMap fun c => if c == 'İ' then ['i', '\u0307'] else [toLowercase c])

/-- The environment with all names in lower case; of names that become the same the last one
counts. -/
def folded (env : Variables) : Variables :=
  .ofList (env.entries.map fun (name, v) => (foldName name, v))

/-- The parts of a name between double low lines. -/
def splitName : List Char → List (List Char)
  | '_' :: '_' :: rest => [] :: splitName rest
  | c :: rest =>
    match splitName rest with
    | part :: parts => (c :: part) :: parts
    | [] => [[c]]
  | [] => [[]]

/-- Puts a text at the end of a path of keys, unless something that is no mapping stands in the
way. -/
def place (text : String) : (path : List String) → List (String × Value) → List (String × Value)
  | [], entries => entries
  | [key], entries => upsert key (.text text) entries
  | key :: path, entries =>
    match entries.lookup key with
    | none => upsert key (.mapping (place text path [])) entries
    | some (.mapping inner) => upsert key (.mapping (place text path inner)) entries
    | some _ => entries

/-- The entries of a section that have variables of their own. -/
def singles (env : Variables) (name : String) : List (String × Value) :=
  let start := (startOfNames ++ name ++ "__").toList
  env.entries.foldl (fun entries (key, text) =>
    if start.isPrefixOf key.toList then
      place text ((splitName (key.toList.drop start.length)).map String.ofList) entries
    else entries) []

/-- The entries with the keys that the section knows in its own spelling. -/
def respell (known : List String) (entries : List (String × Value)) : List (String × Value) :=
  entries.foldl (fun found (key, v) =>
    upsert ((known.find? fun k => foldName k == foldName key).getD key) v found) []

/-- What the environment gives for a section, or `none` inside when it gives nothing. A text that is
no JSON makes the whole section unreadable. -/
def given? (env : Variables) (name : String) (known : List String) : Option (Option Value) :=
  let singles := singles env name
  match env.get? (startOfNames ++ name) with
  | none => some (if singles.isEmpty then none else some (.mapping (respell known singles)))
  | some text =>
    match Json.read? text with
    | none => none
    | some .null => some none
    | some (.mapping entries) => some (some (.mapping (respell known (overlay entries singles))))
    | some v => some (some v)

end Environment

/-- Why there are no settings. -/
inductive SettingsFault where
  /-- The text for a section is no JSON. -/
  | unreadable (group : String)
  | refused (objections : List Objection)

def SettingsFault.unreadableMessage (group : String) : String :=
  "error parsing value for field \"" ++ group ++ "\" from source \"EnvSettingsSource\""

/-- The sections with the keys that they know. -/
def settingsSections : List (String × List String) :=
  [("solver", ["timeout_ms", "witness_on_violation"]), ("logging", ["level", "format"])]

/-- The given sections under the names by which they are known; of several that become the same the
first one counts. -/
def respellSections (given : List (String × Value)) : List (String × Value) :=
  settingsSections.filterMap fun (name, _) =>
    (given.find? fun (key, _) => Environment.foldName key == name).map fun (_, v) => (name, v)

/-- The settings of the environment, with others laid over them. -/
def Settings.load (env : Environment.Variables) (upper : List (String × Value)) :
    Except SettingsFault Settings := do
  let env := Environment.folded env
  let given ← settingsSections.mapM fun (name, known) =>
    match Environment.given? env name known with
    | some v => .ok (name, v)
    | none => .error (.unreadable name)
  let entries := given.filterMap fun (name, v) => v.map fun v => (name, v)
  (Settings.ofEntries (overlay entries (respellSections upper))).mapError .refused

end RecordAudit
