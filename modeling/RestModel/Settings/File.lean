import RestModel.Settings.Basic
import RestModel.Toml.Reader
import RestModel.Files
import RestModel.Traced

/-!
# Settings files — settings as TOML

In a file, too, every setting may be left out and no other key may stand. The
policy is a text, or a table with the policy's name as its only key over
something empty. Settings that were read from a text are checked before they
are used.
-/

namespace RestModel

namespace Settings

/-- The one key under which a moment stands as a table. -/
def momentKey : String := "$__toml_private_datetime"

/-- A value with nothing in it. -/
def isEmptyToml : Toml.Value → Bool
  | .emptyList => true
  | .table _ fields => fields.isEmpty
  | _ => false

def textOfToml? : Toml.Value → Option String
  | .text content => some content
  | _ => none

def policyOfToml? : Toml.Value → Option ParameterPolicy
  | .text word => ParameterPolicy.ofToken? word
  | .table _ [(word, value)] => if isEmptyToml value then ParameterPolicy.ofToken? word else none
  | _ => none

def namesOfToml? : Toml.Value → Option (List (String × String))
  | .table _ fields => fields.mapM fun (key, value) => (textOfToml? value).map (key, ·)
  | .moment written => some [(momentKey, written)]
  | _ => none

/-- The settings after one field of a file. -/
def setOfToml? (settings : Settings) : String × Toml.Value → Option Settings
  | ("interface_prefix", value) =>
    (textOfToml? value).map fun mark => { settings with interfaceMark := mark }
  | ("fallback_class_name", value) =>
    (textOfToml? value).map fun name => { settings with fallback := some name }
  | ("parameters", value) =>
    (policyOfToml? value).map fun policy => { settings with policy := policy }
  | ("method_names", value) =>
    (namesOfToml? value).map fun names => { settings with methodNames := names }
  | _ => none

/-- The settings that a file's fields set. -/
def ofToml? (fields : Toml.Fields) : Option Settings := fields.foldlM setOfToml? stock

/-- The checked settings of a text. -/
def ofText (text : String) : Except Failure Settings :=
  match (Toml.read? text).bind ofToml? with
  | none => .error .notToml
  | some settings =>
    match settings.check with
    | .ok () => .ok settings
    | .error fault => .error (.invalidSettings fault)

/-- The checked settings of a file. -/
def ofFile (files : Files) (name : String) : Traced Settings := do
  let text ← Traced.silent ((files.read name).mapError .unreadable)
  Traced.log (.settingsRead name)
  Traced.silent (ofText text)

end Settings

end RestModel
