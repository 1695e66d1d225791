import RestModel.Spelling
import RestModel.Unicode.CaseMapping

/-!
# Verbs — the operations that a path can offer

Five verbs give a client method each. A path entry names them by their
lowercase `token`, spelled exactly; everywhere else a verb is recognised in
any mixture of cases (`Verb.ofName?`).
-/

namespace RestModel

/-- An operation of a path that a client method is derived from. -/
inductive Verb where
  | get
  | post
  | put
  | patch
  | delete
  deriving DecidableEq, Repr, Inhabited

namespace Verb

/-- All verbs, in the order in which they are listed to the user. -/
def all : List Verb := [.get, .post, .put, .patch, .delete]

theorem mem_all (verb : Verb) : verb ∈ all := by
  cases verb <;> decide

/-- The key of the verb in a path entry. -/
def token : Verb → String
  | .get => "get"
  | .post => "post"
  | .put => "put"
  | .patch => "patch"
  | .delete => "delete"

/-- The verb as it is shown and stored. -/
def name : Verb → String
  | .get => "GET"
  | .post => "POST"
  | .put => "PUT"
  | .patch => "PATCH"
  | .delete => "DELETE"

/-- The method name that a verb has unless it is configured otherwise. A put
creates what it does not find, hence `GetOrCreate`. -/
def stockMethodName : Verb → String
  | .get => "Get"
  | .post => "Create"
  | .put => "GetOrCreate"
  | .patch => "Update"
  | .delete => "Delete"

/-- The verb of a path entry's key. -/
def ofToken? (token : String) : Option Verb := all.find? (·.token == token)

theorem token_injective (v w : Verb) (h : v.token = w.token) : v = w := by
  cases v <;> cases w <;> first | rfl | exact absurd h (by decide)

/-- A key is a verb's if it is the verb's token, letter by letter. -/
theorem ofToken?_eq_some_iff {key : String} {verb : Verb} :
    ofToken? key = some verb ↔ key = verb.token :=
  find?_spelling_eq_some_iff mem_all token_injective

/-- A key is no verb's if it differs from every token. -/
theorem ofToken?_eq_none_iff {key : String} :
    ofToken? key = none ↔ ∀ verb : Verb, key ≠ verb.token :=
  find?_spelling_eq_none_iff mem_all

/-- The verb that a text names in whatever case. -/
def ofName? (text : String) : Option Verb :=
  ofToken? (String.ofList (text.toList.flatMap Unicode.lower))

/-- What is said of a text that names no verb. -/
def unknownMessage (text : String) : String := s!"Unsupported HTTP method: {text}"

end Verb

end RestModel
