import TableReplica.Session.Environment
import TableReplica.Session.Path
import TableReplica.Session.Settings
import TableReplica.Session.Toml.Document

/-!
# Sources of settings

A session takes its settings from a document, if there is one, and from the environment, which
overrides the document. Names that are no settings are ignored.
-/

namespace TableReplica.Settings

/-- The settings after a name has been set. The case of names does not matter. -/
def define (settings : List (String × Setting)) (entry : String × Setting) :
    Except SettingsFault (List (String × Setting)) :=
  let path := Path.ofName entry.1.toLower
  match Path.setWithin? entry.2 path.steps (settings.lookup path.root) with
  | some setting => .ok (Setting.put settings path.root setting)
  | none => .error .noSuchPlace

/-- What can be made of a setting, if anything can. -/
def orUnreadable {α : Type} : Option α → Except SettingsFault α
  | some a => .ok a
  | none => .error .unreadable

/-- What is said about a name, or else a default. -/
def lookupD {α : Type} (settings : List (String × Setting)) (name : String)
    (convert? : Setting → Option α) (default : α) : Except SettingsFault α :=
  match settings.lookup name with
  | some setting => orUnreadable (convert? setting)
  | none => .ok default

/-- The settings that named values stand for. -/
def ofNamed (settings : List (String × Setting)) : Except SettingsFault Settings := do
  let database ← orUnreadable ((settings.lookup "database").bind Setting.toText?)
  let loaded : Settings := { database }
  return { loaded with
    eventBuffer := ← lookupD settings "event_buffer" Setting.toUnsigned? loaded.eventBuffer
    validateModel := ← lookupD settings "validate_model" Setting.toTruth? loaded.validateModel }

/-- The settings of a session, from a document, if there is one, and the variables of its
environment. -/
def load (document : Option String) (environment : List (String × String)) :
    Except SettingsFault Settings := do
  let inDocument ←
    match document.map Toml.settings? with
    | none => pure []
    | some none => .error .unreadable
    | some (some settings) => pure settings
  let settings ← ofNamed (← (inDocument ++ Environment.settings environment).foldlM define [])
  settings.check
  return settings

end TableReplica.Settings
