import RestModel.Verb

/-!
# Failures — why an entry, a setting or a file was refused

Each failure names its cause and carries what its message mentions;
`Failure.message` is the one place that words them. What a JSON, YAML or
TOML text gets wrong is not kept, only that it is not such a text.
-/

namespace RestModel

/-- What is wrong with an operation or with the entry around it. -/
inductive OperationFault where
  | entryNotObject
  | operationNotObject (verb : Verb)
  | parametersNotArray
  deriving DecidableEq, Repr

def OperationFault.detail : OperationFault → String
  | .entryNotObject => "path item is not an object"
  | .operationNotObject verb => s!"{verb.name} operation is not an object"
  | .parametersNotArray => "'parameters' is not an array"

/-- What is wrong with a parameter. -/
inductive ParameterFault where
  | notObject
  | noName
  | noLocation (name : String)
  | unsupportedType (name type : String)
  | noUsableType (name : String)
  | typeNotText (name : String)
  | noType (name : String)
  deriving DecidableEq, Repr

def ParameterFault.detail : ParameterFault → String
  | .notObject => "parameter is not an object"
  | .noName => "parameter missing name"
  | .noLocation name => s!"parameter '{name}' missing 'in'"
  | .unsupportedType name type => s!"parameter '{name}' has unsupported type '{type}'"
  | .noUsableType name => s!"parameter '{name}' has no usable type"
  | .typeNotText name => s!"parameter '{name}' has a non-string type"
  | .noType name => s!"parameter '{name}' has no schema or type"

/-- Why a chain of references leads nowhere. -/
inductive ReferenceFault where
  /-- A reference of the chain has no target. -/
  | missing (reference : String)
  /-- The chain that starts with the given reference has more than `limit` links. -/
  | tooDeep (limit : Nat) (first : String)
  deriving DecidableEq, Repr

def ReferenceFault.detail : ReferenceFault → String
  | .missing reference => reference
  | .tooDeep limit first => s!"reference chain deeper than {limit} starting at {first}"

/-- What is wrong with the settings. -/
inductive SettingsFault where
  | unsupportedVerb (key : String)
  | repeatedVerb (verb : Verb)
  | blankMethodName (key : String)
  | blankFallback
  deriving DecidableEq, Repr

def SettingsFault.detail : SettingsFault → String
  | .unsupportedVerb key => s!"method_names has an unsupported verb key '{key}'"
  | .repeatedVerb verb => s!"method_names sets {verb.name} more than once"
  | .blankMethodName key => s!"method_names.{key} cannot be empty"
  | .blankFallback => "fallback_class_name cannot be empty"

/-- Why a file could not be read as text. -/
inductive FileFault where
  | notFound
  | notUtf8
  deriving DecidableEq, Repr

def FileFault.detail : FileFault → String
  | .notFound => "No such file or directory (os error 2)"
  | .notUtf8 => "stream did not contain valid UTF-8"

/-- Everything that can go wrong on the way from a document to its resources. -/
inductive Failure where
  | unsupportedVerb (path verb : String)
  | unknownLocation (path name location : String)
  | malformedOperation (path : String) (fault : OperationFault)
  | malformedParameter (path : String) (fault : ParameterFault)
  /-- The document has no object `paths`. -/
  | noPaths
  | unresolvedReference (fault : ReferenceFault)
  | unnameablePath (path : String)
  | invalidSettings (fault : SettingsFault)
  | unreadable (fault : FileFault)
  | notJson
  | notYaml
  | notToml
  deriving DecidableEq, Repr

/-- The text of a failure. -/
def Failure.message : Failure → String
  | .unsupportedVerb path verb => s!"Unsupported verb '{verb}' on path {path}"
  | .unknownLocation path name location =>
    s!"Unknown parameter location '{location}' for parameter '{name}' on {path}"
  | .malformedOperation path fault => s!"Malformed operation on {path}: {fault.detail}"
  | .malformedParameter path fault => s!"Malformed parameter on {path}: {fault.detail}"
  | .noPaths => "Malformed document: missing 'paths' object"
  | .unresolvedReference fault => s!"Unable to resolve reference: {fault.detail}"
  | .unnameablePath path => s!"Path {path} has no literal segments to derive a name from"
  | .invalidSettings fault => s!"Invalid configuration: {fault.detail}"
  | .unreadable fault => s!"IO error: {fault.detail}"
  | .notJson => "Serialization error:"
  | .notYaml => "YAML parsing error:"
  | .notToml => "TOML parsing error:"

end RestModel
