import RestModel.Fields

/-!
# TOML values — the tables of a settings file

A settings file holds texts, tables and, where a table may be empty, empty
lists; moments in time are told apart because a table may be written as one.
No setting is a number or a boolean, so there is no value for them. Tables
remember how they came about: whether a table may be defined or extended
later depends on it (`define?`, `assign?`).
-/

namespace RestModel

namespace Toml

/-- How a table came about. -/
inductive Origin where
  /-- Written in braces: complete from the start. -/
  | inline
  /-- By a header of its own. -/
  | header
  /-- By a header for a table below it. -/
  | implied
  /-- By a dotted key. -/
  | dotted
  deriving DecidableEq, Repr

/-- A value of a settings file. -/
inductive Value where
  | text (content : String)
  | moment (written : String)
  | emptyList
  | table (origin : Origin) (fields : List (String × Value))
  deriving Inhabited

/-- The fields of a table. -/
abbrev Fields := List (String × Value)

/-- Adds a field that must not be there yet. -/
def addField? (fields : Fields) (key : String) (value : Value) : Option Fields :=
  if (fields.lookup key).isSome then none else some (fields ++ [(key, value)])

/-- Sets a value at a dotted key below a table. Tables on the way are made by
need, or must have been made by dotted keys or implied; the last one must
have been made by dotted keys unless the key has no dot. -/
def assign? (fields : Fields) : List String → Value → Option Fields
  | [], _ => none
  | [key], value => addField? fields key value
  | key :: rest@(next :: more), value =>
    match fields.lookup key with
    | none => do return setField fields key (.table .dotted (← assign? [] rest value))
    | some (.table origin below) =>
      if origin = .dotted || (origin = .implied && !more.isEmpty) then do
        return setField fields key (.table origin (← assign? below (next :: more) value))
      else none
    | some _ => none

/-- Defines the table of a header: a new one, or one that so far is only
implied. -/
def define? (fields : Fields) : List String → Option Fields
  | [] => none
  | [key] =>
    match fields.lookup key with
    | none => some (setField fields key (.table .header []))
    | some (.table .implied below) => some (setField fields key (.table .header below))
    | some _ => none
  | key :: rest@(_ :: _) =>
    match fields.lookup key with
    | none => do return setField fields key (.table .implied (← define? [] rest))
    | some (.table origin below) =>
      if origin = .inline then none
      else do return setField fields key (.table origin (← define? below rest))
    | some _ => none

/-- Sets a value at a dotted key below the table of a header. -/
def assignUnder? (fields : Fields) (header : List String) (key : List String) (value : Value) :
    Option Fields :=
  match header with
  | [] => assign? fields key value
  | name :: rest =>
    match fields.lookup name with
    | some (.table origin below) => do
      return setField fields name (.table origin (← assignUnder? below rest key value))
    | _ => none

end Toml

end RestModel
