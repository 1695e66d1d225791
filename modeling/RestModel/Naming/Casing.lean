import RestModel.Naming.Words

/-!
# Casings — the words of a token put together again

Two casings are used for what is generated: every word capitalised
(`pascal`, for classes), and every word but the first (`camel`, for
parameters). Both are made of the token's words alone, so two tokens with
the same words have the same casings.
-/

namespace RestModel

namespace Naming

open Unicode

/-- The first character in its uppercase form, the rest unchanged. -/
def capitalize : List Char → List Char
  | [] => []
  | c :: rest => upper c ++ rest

/-- All words capitalised and joined. -/
def joinPascal (ws : List (List Char)) : List Char := (ws.map capitalize).flatten

theorem joinPascal_cons (w : List Char) (ws : List (List Char)) :
    joinPascal (w :: ws) = capitalize w ++ joinPascal ws := rfl

/-- The first word as it is, the others capitalised, all joined. -/
def joinCamel : List (List Char) → List Char
  | [] => []
  | first :: others => first ++ joinPascal others

/-- `marketplace_listing` as `MarketplaceListing`. -/
def pascal (token : List Char) : List Char := joinPascal (words token)

/-- `account_id` as `accountId`. -/
def camel (token : List Char) : List Char := joinCamel (words token)

/-- The lowercase words of a token. -/
def splitWords (token : String) : List String := (words token.toList).map String.ofList

/-- A token in the casing of classes. -/
def pascalCase (token : String) : String := String.ofList (pascal token.toList)

/-- A token in the casing of parameters. -/
def camelCase (token : String) : String := String.ofList (camel token.toList)

end Naming

end RestModel
