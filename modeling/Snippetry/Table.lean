import Snippetry.Text.Basic

/-! # Tables of texts sorted by key, with one value for each key

Environments are such tables: what an interpreter sees are the inherited variables, and over them
those of its job. -/
namespace Snippetry

abbrev Table := List (Text × Text)

namespace Table

/-- A key that is there gets the new value. -/
def insert (key value : Text) : Table → Table
  | [] => [(key, value)]
  | (k, v) :: table =>
    if k = key then (key, value) :: table
    else if key < k then (key, value) :: (k, v) :: table
    else (k, v) :: insert key value table

/-- Of several values for a key the last one stays. -/
def insertAll (table : Table) (entries : List (Text × Text)) : Table :=
  entries.foldl (fun table (key, value) => table.insert key value) table

end Table

/-- A variable and its value, as given on the command line. -/
structure Assignment where
  key : Text
  value : Text
deriving DecidableEq, Repr

namespace Assignment

/-- The key ends at the first `=` and is not empty. -/
def parse? (t : Text) : Option Assignment :=
  match Text.splitFirst? "=" t with
  | some ([], _) => none
  | some (key, value) => some ⟨key, value⟩
  | none => none

def malformedMessage (t : Text) : Text := "`" ++ t ++ "` doesn't look like KEY=VAL"

def parse (t : Text) : Except Text Assignment :=
  match parse? t with
  | some a => .ok a
  | none => .error (malformedMessage t)

end Assignment

def childEnvironment (inherited : Table) (job : List (Text × Text)) : Table :=
  inherited.insertAll job

end Snippetry
