/-!
# Arguments — what a command line asks for

A command is followed by options with a value each, which may also stand
after an equals sign. A value that stands by itself must not look like an
option. No option may be given twice, and nothing else may stand beside them.
-/

namespace RestModel

/-- What a command works on. -/
structure Input where
  /-- The file of the document. -/
  schema : String
  /-- The only path to look at. -/
  path : Option String
  deriving DecidableEq, Repr

/-- The two commands. -/
inductive Command where
  /-- Print the resource of each path. -/
  | resources (input : Input) (config : Option String)
  /-- Print the entry of each path. -/
  | paths (input : Input)
  deriving DecidableEq, Repr

/-- What a command works on. -/
def Command.input : Command → Input
  | .resources input _ => input
  | .paths input => input

/-- The settings file that a command names. -/
def Command.config : Command → Option String
  | .resources _ config => config
  | .paths _ => none

/-- What a command line asks for. -/
inductive Invocation where
  | run (command : Command)
  | version
  | help
  /-- The arguments make no sense. -/
  | misused
  deriving DecidableEq, Repr

namespace Invocation

/-- The options given so far, by name. -/
abbrev Options := List (String × String)

/-- A text begins in the given way. -/
def begins (text beginning : String) : Bool := beginning.toList.isPrefixOf text.toList

/-- A value that stands by itself. A lone dash is one. -/
def isValue (text : String) : Bool := text == "-" || !begins text "-"

/-- Adds an option, unless it is given already or needs a value and has none. -/
def addOption? (options : Options) (name value : String) : Option Options :=
  if (options.lookup name).isSome || (name == "config" && value == "") then none
  else some (options ++ [(name, value)])

/-- An option of the given names in one argument: its name, and its value if
an equals sign follows. -/
def option? (names : List String) (argument : String) : Option (String × Option String) :=
  names.findSome? fun name =>
    if argument = "--" ++ name then some (name, none)
    else if begins argument ("--" ++ name ++ "=") then
      some (name, some (String.ofList (argument.toList.drop (name.length + 3))))
    else none

/-- The options of a command that knows the given names. -/
def readOptions (names : List String) (options : Options) :
    List String → Except Invocation Options
  | [] => .ok options
  | ["--"] => .ok options
  | argument :: rest =>
    if argument = "--help" || begins argument "-h" then .error .help
    else
      match option? names argument, rest with
      | some (name, some value), rest =>
        match addOption? options name value with
        | some options => readOptions names options rest
        | none => .error .misused
      | some (name, none), value :: rest =>
        if isValue value then
          match addOption? options name value with
          | some options => readOptions names options rest
          | none => .error .misused
        else .error .misused
      | _, _ => .error .misused

/-- What the arguments of a command ask for. -/
def readCommand (names : List String) (make : Input → Options → Command)
    (arguments : List String) : Invocation :=
  match readOptions names [] arguments with
  | .error invocation => invocation
  | .ok options =>
    match options.lookup "schema" with
    | none => .misused
    | some schema => .run (make ⟨schema, options.lookup "path"⟩ options)

/-- What the arguments of the program ask for. -/
def ofArguments : List String → Invocation
  | [] => .misused
  | first :: rest =>
    if first = "resources" then
      readCommand ["schema", "path", "config"]
        (fun input options => .resources input (options.lookup "config")) rest
    else if first = "paths" then readCommand ["schema", "path"] (fun input _ => .paths input) rest
    else if first = "--version" || begins first "-V" then .version
    else if first = "--help" || begins first "-h" then .help
    else if first = "help" then
      match rest with
      | [] => .help
      | [topic] => if ["resources", "paths", "help"].contains topic then .help else .misused
      | _ => .misused
    else .misused

end Invocation

end RestModel
