import RestModel.Verb

/-!
# Events — what is logged on the way to a resource

An event is the fact that it reports. Its level, its message and its named
fields, all that a log shows, are functions of it.
-/

namespace RestModel

/-- How important an event is. -/
inductive Level where
  | trace
  | debug
  | warn
  deriving DecidableEq, Repr

/-- The word for a level. -/
def Level.name : Level → String
  | .trace => "TRACE"
  | .debug => "DEBUG"
  | .warn => "WARN"

/-- The content of an event's field. -/
inductive Detail where
  | text (value : String)
  | count (value : Nat)
  deriving DecidableEq, Repr

/-- Something worth logging. -/
inductive Event where
  /-- An operation was read, with so many parameters after merging. -/
  | verbRead (path : String) (verb : Verb) (parameters : Nat)
  /-- A path entry was read, with so many verbs. -/
  | pathRead (path : String) (verbs : Nat)
  /-- A pipeline got a stage at the given place, counted from one. -/
  | stageRegistered (position : Nat)
  /-- A pipeline with so many stages begins on a path. -/
  | buildStarted (path : String) (stages : Nat)
  /-- The stage at the given place, counted from zero, begins on a path. -/
  | stageStarted (path : String) (stage : Nat)
  /-- A method was derived from a verb, with so many parameters. -/
  | methodDerived (path : String) (verb : Verb) (method : String) (parameters : Nat)
  /-- A path without a name of its own got the configured one. -/
  | fallbackUsed (path fallback : String)
  /-- The class name of an earlier stage was replaced by another. -/
  | classNameReplaced (path previous className : String)
  /-- A settings file was read. -/
  | settingsRead (path : String)
  /-- A document was read. -/
  | documentRead (source : String)
  deriving DecidableEq, Repr

namespace Event

def level : Event → Level
  | .stageStarted .. => .trace
  | .classNameReplaced .. => .warn
  | _ => .debug

def message : Event → String
  | .verbRead .. => "Parsed verb"
  | .pathRead .. => "Processed path entry"
  | .stageRegistered .. => "Registered builder stage"
  | .buildStarted .. => "Building client resource"
  | .stageStarted .. => "Applying stage"
  | .methodDerived .. => "Derived method"
  | .fallbackUsed .. => "Using fallback class name"
  | .classNameReplaced .. => "Overwriting class name set by an earlier stage"
  | .settingsRead .. => "Loaded generator config"
  | .documentRead .. => "Loaded spec document"

def fields : Event → List (String × Detail)
  | .verbRead path verb parameters =>
    [("path", .text path), ("verb", .text verb.name), ("parameters", .count parameters)]
  | .pathRead path verbs => [("path", .text path), ("verbs", .count verbs)]
  | .stageRegistered position => [("position", .count position)]
  | .buildStarted path stages => [("path", .text path), ("stages", .count stages)]
  | .stageStarted path stage => [("path", .text path), ("stage", .count stage)]
  | .methodDerived path verb method parameters =>
    [("path", .text path), ("verb", .text verb.name), ("method", .text method),
      ("parameters", .count parameters)]
  | .fallbackUsed path fallback => [("path", .text path), ("fallback", .text fallback)]
  | .classNameReplaced path previous className =>
    [("path", .text path), ("previous", .text previous), ("class_name", .text className)]
  | .settingsRead path => [("path", .text path)]
  | .documentRead source => [("source", .text source)]

/-- An event as a log shows it: its level, its message and its fields. -/
def shown (event : Event) : Level × String × List (String × Detail) :=
  (event.level, event.message, event.fields)

end Event

end RestModel
