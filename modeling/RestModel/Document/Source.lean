import RestModel.Json.Reader
import RestModel.Yaml.Reader
import RestModel.Files
import RestModel.Traced

/-!
# Sources — documents in files

The end of a file's name says whether it holds JSON or YAML. If it says
neither, JSON is tried first and then YAML.
-/

namespace RestModel

/-- A name ends in the given way. -/
def hasEnding (name ending : String) : Bool := ending.toList.isSuffixOf name.toList

/-- The document that a JSON text spells. -/
def Json.ofJsonText (text : String) : Except Failure Json :=
  (Json.read? text).elim (.error .notJson) .ok

/-- The document that a YAML text spells. -/
def Json.ofYamlText (text : String) : Except Failure Json :=
  (Yaml.read? text).elim (.error .notYaml) .ok

/-- The document that a text spells, for a file of the given name. -/
def Json.ofSource (name text : String) : Except Failure Json :=
  if hasEnding name ".json" then ofJsonText text
  else if hasEnding name ".yaml" || hasEnding name ".yml" then ofYamlText text
  else
    match Json.read? text with
    | some document => .ok document
    | none => ofYamlText text

/-- The document in a file. -/
def Json.ofFile (files : Files) (name : String) : Traced Json := do
  let text ← Traced.silent ((files.read name).mapError .unreadable)
  let document ← Traced.silent (Json.ofSource name text)
  Traced.log (.documentRead name)
  return document

end RestModel
