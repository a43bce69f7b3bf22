import Snippetry.Text.Basic

/-! # Tables: values by key

The entries lie in chains, and the order of the chains is the order in which a loop meets the keys. A
key that is a whole number lies in the chain of its last bits, until a key is looked up as a text; from
then on each key lies in the chain of its text. An entry that is found comes to the front. -/
namespace Snippetry.Awk

/-- A key; its number comes along if it was given as one. -/
structure Key where
  text : Text
  number : Option Int
deriving DecidableEq, Repr

structure Entry (α : Type) where
  text : Text
  /-- The number it was looked up by. -/
  number : Option Int
  value : α

structure Table (α : Type) where
  size : Nat
  /-- Whether the chains are those of the texts. -/
  byText : Bool
  /-- Whether the keys are the numbers up to the size, in their order. -/
  isList : Bool
  chains : Array (List (Entry α))

namespace Table

variable {α : Type}

def firstChains : Nat := 64

/-- How many entries a chain may have in the mean. -/
def longestChain : Nat := 12

def empty : Table α := ⟨0, false, false, Array.replicate firstChains []⟩

/-- A number for a text that depends on all its characters. -/
def hash (t : Text) : Nat :=
  (t.foldl (fun (h : UInt32) c => (h ^^^ c.toNat.toUInt32) * 16777619) 2166136261).toNat

def place (t : Table α) (text : Text) (number : Option Int) : Nat :=
  if t.byText then hash text % t.chains.size
  else (number.getD 0 % (t.chains.size : Int)).toNat

def toFront (t : Table α) (e : Entry α) : Table α :=
  { t with chains := t.chains.modify (t.place e.text e.number) (e :: ·) }

def entries (t : Table α) : List (Entry α) := t.chains.toList.flatten

/-- Put entries one after the other into empty chains. -/
def spread (t : Table α) (count : Nat) (es : List (Entry α)) : Table α :=
  es.foldl toFront { t with chains := Array.replicate count [] }

/-- The chains become those of the texts. -/
def asTexts (t : Table α) : Table α :=
  if t.byText then t
  else { t with byText := true, isList := false }.spread t.chains.size t.entries

/-- Twice as many chains; the order within each stays. -/
def grow (t : Table α) : Table α := t.spread (2 * t.chains.size) t.entries.reverse

def add (t : Table α) (e : Entry α) : Table α :=
  let t := { t with size := t.size + 1, isList := false }
  (if longestChain * t.chains.size < t.size then t.grow else t).toFront e

/-- Whether an entry is found by a key without a look at the chains of the texts. -/
def isKnown (key : Key) (e : Entry α) : Bool := key.number.isSome && e.number = key.number

def isFound (t : Table α) (key : Key) (e : Entry α) : Bool :=
  if t.byText then e.text = key.text else isKnown key e

/-- Look up a key, with what is put in if there is nothing yet. -/
def access (t : Table α) (key : Key) (fresh : Option α) : Option α × Table α :=
  let t := if key.number.isNone then t.asTexts else t
  let chain := t.place key.text key.number
  let es := t.chains.getD chain []
  match es.find? (isFound t key), fresh with
  | some e, _ =>
    if t.isList || t.byText && isKnown key e then (some e.value, t)
    else
      let others := es.filter fun e => !isFound t key e
      let e := { e with number := e.number <|> key.number }
      (some e.value, { t with chains := t.chains.set! chain (e :: others) })
  | none, some value => (some value, t.add ⟨key.text, key.number, value⟩)
  | none, none => (none, t)

/-- Replace the value of a key where it lies. -/
def set (t : Table α) (key : Key) (value : α) : Table α :=
  let t := if key.number.isNone then t.asTexts else t
  let chain := t.place key.text key.number
  let es := t.chains.getD chain []
  if es.any (isFound t key) then
    let es := es.map fun e => if isFound t key e then { e with value } else e
    { t with chains := t.chains.set! chain es }
  else t.add ⟨key.text, key.number, value⟩

def erase (t : Table α) (key : Key) : Table α :=
  let t := if key.number.isNone then t.asTexts else t
  let chain := t.place key.text key.number
  let es := t.chains.getD chain []
  if es.any (isFound t key) then
    if t.size ≤ 1 then empty
    else
      let es := es.filter fun e => !isFound t key e
      { t with size := t.size - 1, isList := false, chains := t.chains.set! chain es }
  else t

def keys (t : Table α) : List Text × Table α :=
  let t := t.asTexts
  (t.entries.map Entry.text, t)

/-- Double a number of chains until they hold so many entries. -/
def chainsFor (size : Nat) : Nat → Nat → Nat
  | 0, count => count
  | fuel + 1, count =>
    if longestChain * count < size then chainsFor size fuel (2 * count) else count

/-- A list, with the numbers from 1 as its keys. -/
def ofList (shown : Nat → Text) (values : List α) : Table α :=
  let es : List (Entry α) :=
    values.zipIdx.map fun (value, n) => ⟨shown (n + 1), some (n + 1 : Nat), value⟩
  let t : Table α := ⟨es.length, false, !es.isEmpty, #[]⟩
  t.spread (chainsFor es.length es.length firstChains) es

end Table
end Snippetry.Awk
