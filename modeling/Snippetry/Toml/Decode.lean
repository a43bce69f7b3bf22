import Snippetry.Toml.Parse
import Snippetry.Table

/-! # What a TOML value is taken for -/
namespace Snippetry.Toml

namespace Value

def text? : Value → Option Text
  | string t => some t
  | _ => none

def boolean? : Value → Option Bool
  | boolean b => some b
  | _ => none

def nat? : Value → Option Nat
  | integer (.ofNat n) => some n
  | _ => none

def items? : Value → Option (List Value)
  | array items => some items
  | tables elements => some (elements.map (table .header))
  | _ => none

def isEmpty : Value → Bool
  | array items => items.isEmpty
  | table _ fields => fields.isEmpty
  | tables elements => elements.isEmpty
  | _ => false

/-- One of some words, given as a string or as the only key of a table, with nothing below it. -/
def choice? {α : Type} (choices : List (Text × α)) : Value → Option α
  | string word => choices.lookup word
  | table _ [(word, v)] => if v.isEmpty then choices.lookup word else none
  | _ => none

/-- The key under which a date appears where a table is expected. -/
def dateKey : Text := "$__toml_private_datetime"

def textTable? : Value → Option Table
  | table _ fields => do
    let entries ← fields.mapM fun (key, v) => do pure (key, ← v.text?)
    some (Table.insertAll [] entries)
  | datetime t => some [(dateKey, t)]
  | _ => none

/-- The fields of a record: those of a table without other names, or values in the order of the
names. -/
def record? (names : List Text) : Value → Option Fields
  | table _ fields => if fields.all fun (key, _) => names.contains key then some fields else none
  | v => v.items?.map names.zip

end Value

def Fields.get? {α : Type} (fields : Fields) (name : Text) (decode : Value → Option α)
    (default : α) : Option α :=
  match fields.lookup name with
  | some v => decode v
  | none => some default

end Snippetry.Toml
