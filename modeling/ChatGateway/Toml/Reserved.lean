import ChatGateway.Toml.Scalar

/-!
Tables that stand for moments. A table whose first key is the reserved one is no table: the text
under that key is a moment, and the other keys do not count. Once a document is read to its end, the
ways in which its other tables came about do not matter any more.
-/

namespace ChatGateway.Toml

/-- The key that makes a table stand for a moment. -/
def reservedKey : String := "$__toml_private_datetime"

/-- The moment that a value under the reserved key tells. -/
def reservedMoment? : Toml → Option Toml
  | .string s => (moment? s.toList).map .moment
  | _ => none

mutual

/-- Puts moments in the place of the tables that stand for them, all through a value. -/
def resolve? : Toml → Option Toml
  | .array items => (resolveItems? items).map .array
  | .inlineTable entries => resolveTable? entries
  | .table _ _ entries => resolveTable? entries
  | .tables elements => (resolveTables? elements).map .array
  | value => some value

def resolveItems? : List Toml → Option (List Toml)
  | [] => some []
  | item :: rest => do
    let item ← resolve? item
    let rest ← resolveItems? rest
    return item :: rest

/-- What a table stands for. -/
def resolveTable? : List (String × Toml) → Option Toml
  | [] => some (.inlineTable [])
  | (key, value) :: rest =>
    if key == reservedKey then reservedMoment? value
    else do
      let value ← resolve? value
      let rest ← resolveEntries? rest
      return .inlineTable ((key, value) :: rest)

def resolveEntries? : List (String × Toml) → Option (List (String × Toml))
  | [] => some []
  | (key, value) :: rest => do
    let value ← resolve? value
    let rest ← resolveEntries? rest
    return (key, value) :: rest

def resolveTables? : List (List (String × Toml)) → Option (List Toml)
  | [] => some []
  | entries :: rest => do
    let table ← resolveTable? entries
    let rest ← resolveTables? rest
    return table :: rest

end

end ChatGateway.Toml
