import Snippetry.Text.Basic

/-! # TOML values and the tables they are put together in

A value remembers how it was written where that decides what may be added to it later. -/
namespace Snippetry.Toml

inductive Origin
  /-- By a header of its own. -/
  | header
  /-- As the parent of a table with a header. -/
  | implied
  /-- By a dotted key. -/
  | dotted
  /-- Between braces. Nothing can be added to it. -/
  | inline
deriving DecidableEq, Repr

inductive Value
  | string (t : Text)
  | integer (n : Int)
  | boolean (b : Bool)
  | float
  /-- Its canonical text. -/
  | datetime (t : Text)
  | array (items : List Value)
  | table (origin : Origin) (fields : List (Text × Value))
  /-- The tables of repeated headers. -/
  | tables (elements : List (List (Text × Value)))

abbrev Fields := List (Text × Value)

namespace Fields

def put (key : Text) (v : Value) : Fields → Fields
  | [] => [(key, v)]
  | (k, w) :: fields => if k = key then (key, v) :: fields else (k, w) :: put key v fields

/-- Change the table at the end of a path. Tables that are missing on the way are made, by a dotted
key or as parents of a header; a dotted key does not enter a table that has a header, and what is no
table is entered by neither. -/
def changeAt (byDots : Bool) (change : Origin → Fields → Option Fields) :
    List Text → Origin → Fields → Option Fields
  | [], origin, fields => change origin fields
  | key :: path, _, fields =>
    let enter (origin : Origin) (inner : Fields) := changeAt byDots change path origin inner
    match fields.lookup key with
    | none => do
      let origin : Origin := if byDots then .dotted else .implied
      some (fields.put key (.table origin (← enter origin [])))
    | some (.table origin inner) => do
      if origin = .inline || (byDots && origin = .header) then none
      else some (fields.put key (.table origin (← enter origin inner)))
    | some (.tables elements) => do
      let inner ← enter .header (← elements.getLast?)
      some (fields.put key (.tables (elements.dropLast ++ [inner])))
    | some _ => none

end Fields

/-- A key with the dots before its last part, and a value. -/
structure Entry where
  path : List Text
  key : Text
  value : Value

/-- Add an entry to a table. Dotted keys may add to the tables that dotted keys made, and to no
others; no key is given twice. -/
def Entry.addTo (e : Entry) (fields : Fields) : Option Fields :=
  fields.changeAt true (fun origin inner =>
    if (origin == .dotted) == e.path.isEmpty || (inner.lookup e.key).isSome then none
    else some (inner.put e.key e.value)) e.path .header

def addAll (entries : List Entry) (fields : Fields) : Option Fields :=
  entries.foldlM (fun fields e => e.addTo fields) fields

/-- What a header opens: the table of that name, or one more of the tables of that name. -/
structure Header where
  path : List Text
  key : Text
  repeated : Bool

namespace Header

/-- Put the entries below a header in their place. A table that was only implied may get its
header later, any other only once. -/
def place (h : Header) (entries : List Entry) (root : Fields) : Option Fields :=
  root.changeAt false (fun _ fields =>
    match h.repeated, fields.lookup h.key with
    | true, none => do some (fields.put h.key (.tables [← addAll entries []]))
    | true, some (.tables elements) => do
      some (fields.put h.key (.tables (elements ++ [← addAll entries []])))
    | false, none => do some (fields.put h.key (.table .header (← addAll entries [])))
    | false, some (.table .implied inner) => do
      some (fields.put h.key (.table .header (← addAll entries inner)))
    | _, some _ => none) h.path .header

end Header

/-- The entries before the first header, and the headers with the entries that follow each. -/
structure Source where
  top : List Entry
  sections : List (Header × List Entry)

def Source.build? (s : Source) : Option Fields := do
  s.sections.foldlM (fun root (header, entries) => header.place entries root) (← addAll s.top [])

end Snippetry.Toml
