import Snippetry.Awk.Stream

/-! # Functions that are there from the start -/
namespace Snippetry.Awk

/-! ## Random numbers

Each number is the sum of two that came before it. The latest one comes first. -/

namespace Random

def kept : Nat := 31

def next (numbers : List Nat) : List Nat :=
  (((numbers.getD 2 0) + (numbers.getD (kept - 1) 0)) % 4294967296) :: numbers.take (kept - 1)

def repeated {α : Type} (f : α → α) : Nat → α → α
  | 0, a => a
  | n + 1, a => repeated f n (f a)

/-- Each of the first numbers comes from the one before; then many are passed over. -/
def seeded (seed : Nat) : List Nat :=
  let first := if seed = 0 then 1 else seed % 4294967296
  let start := (List.range (kept - 1)).foldl
    (fun numbers _ => (16807 * numbers.headD 0) % 2147483647 :: numbers) [first]
  let oldest := start.reverse.take 3
  repeated next 310 ((oldest.reverse ++ start).take kept)

def fraction (numbers : List Nat) : Float := Float.ofNat (numbers.headD 0 / 2) / 2147483647

end Random

/-! ## Functions of texts and numbers -/

/-- A part of a text, from a place counted from 1. A place before the text is taken off the length. -/
def substring (t : Text) (place : Float) (length : Option Float) : Text :=
  let start := truncated place
  let before := (max start 1).toNat - 1
  match length with
  | none => t.drop before
  | some length =>
    let count := truncated length - (if start < 1 then start else 0)
    (t.drop before).take count.toNat

/-- Where a text begins in another one, counted from 1. -/
def indexOf (t part : Text) : Nat :=
  match Text.splitFirst? part t with
  | some (before, _) => before.length + 1
  | none => 0

def toWhole (x : Float) : Float := if x < 0 then x.ceil else x.floor

/-! ## Replacing -/

/-- What stands for a match. A sign for the match may be escaped. -/
def replacementFor (found : Text) : Nat → Text → Text
  | 0, t => t
  | fuel + 1, t =>
    match t with
    | [] => []
    | '&' :: rest => found ++ replacementFor found fuel rest
    | '\\' :: _ =>
      let slashes := t.takeWhile (· = '\\')
      match t.drop slashes.length with
      | '&' :: rest =>
        let left := List.replicate (slashes.length / 2) '\\'
        let sign := if slashes.length % 2 = 1 then ['&'] else found
        left ++ sign ++ replacementFor found fuel rest
      | rest => slashes ++ replacementFor found fuel rest
    | c :: rest => c :: replacementFor found fuel rest

def replaced (replacement found : Text) : Text :=
  replacementFor found (replacement.length + 1) replacement

def replaceFirst (r : Regex) (replacement t : Text) : Option Text :=
  (r.find? t).map fun (place, length) =>
    t.take place ++ replaced replacement ((t.drop place).take length) ++ t.drop (place + length)

/-- Replace all matches and count them. An empty match does not follow another match at once. -/
def replaceAll (r : Regex) (replacement : Text) : Nat → Bool → Bool → Text → Nat × Text
  | 0, _, _, t => (0, t)
  | fuel + 1, atStart, afterMatch, t =>
    match r.longest? atStart t with
    | some (length + 1) =>
      let (n, rest) := replaceAll r replacement fuel false true (t.drop (length + 1))
      (n + 1, replaced replacement (t.take (length + 1)) ++ rest)
    | found =>
      let isReplaced := found = some 0 && !afterMatch
      let (n, rest) : Nat × Text := match t with
        | [] => (0, [])
        | c :: rest =>
          let (n, rest) := replaceAll r replacement fuel false false rest
          (n, c :: rest)
      if isReplaced then (n + 1, replaced replacement [] ++ rest) else (n, rest)

/-! ## Formats -/

/-- What a format makes of values. What comes before a fault is handed on. -/
def formattedBy (caller : Text) (before : Text → Action Unit) (values : List Value) : Action Text := do
  let s ← get
  match values with
  | [] => pure []
  | format :: values =>
    let format := s.toText format
    match formatted s.numbers (format.length + 1) 1 format values with
    | (t, none) => pure t
    | (t, some .tooFewValues) =>
      before t
      fail ("not enough arguments passed to " ++ caller ++ "(\"" ++ format ++ "\")")
    | (t, some (.improper n)) =>
      before t
      fail ("improper conversion(number " ++ Text.ofNat n ++ ") in " ++ caller ++ "(\"" ++ format
        ++ "\")")

/-! ## Calls -/

/-- Seed the random numbers; the value is the seed before. -/
def seedWith (seed : Value) : Action Value := do
  let s ← get
  let n := (truncated seed.toNumber % 4294967296).toNat
  set { s with seed, random := Random.seeded n }
  pure s.seed

def nextRandom : Action Value := do
  let s ← get
  let random := Random.next s.random
  set { s with random }
  pure (.number (Random.fraction random))

variable (launch : Process.Launch)

def applyBuiltin (f : Builtin) (values : List Value) : Action Value := do
  let s ← get
  let first := values.headD .unset
  let second := values.tail.headD .unset
  let x := first.toNumber
  match f with
  | .atan2 => pure (.number (Float.atan2 x second.toNumber))
  | .cos => pure (.number x.cos)
  | .exp => pure (.number x.exp)
  | .int => pure (.number (toWhole x))
  | .log => pure (.number x.log)
  | .sin => pure (.number x.sin)
  | .sqrt => pure (.number x.sqrt)
  | .rand => nextRandom
  | .srand => seedWith (if values.isEmpty then .number 0 else first)
  | .length =>
    let t := s.toText (if values.isEmpty then s.record else first)
    pure (.number (Float.ofNat t.length))
  | .index => pure (.number (Float.ofNat (indexOf (s.toText first) (s.toText second))))
  | .matchPlace => pure .unset
  | .substr =>
    let length := (values[2]?).map Value.toNumber
    pure (.text (substring (s.toText first) second.toNumber length))
  | .tolower => pure (.text ((s.toText first).map Char.toLower))
  | .toupper => pure (.text ((s.toText first).map Char.toUpper))
  | .sprintf => do pure (.text (← formattedBy "sprintf" (fun _ => pure ()) values))
  | .system => do pure (.number (Float.ofNat (← system launch (s.toText first))))
  | .close => do pure (.number (Float.ofInt (← close launch (s.toText first))))
  | .fflush => do
    if values.isEmpty then
      flushStandard
      pure (.number 0)
    else do pure (.number (Float.ofInt (← flushNamed (s.toText first))))

end Snippetry.Awk
