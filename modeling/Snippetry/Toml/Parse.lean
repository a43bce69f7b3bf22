import Snippetry.Toml.Number

/-! # Reading TOML -/
namespace Snippetry.Toml

/-- The values of an array, after the opening bracket. `value` reads one of them. -/
def items (value : Scanner Value) : Nat → Scanner (List Value)
  | 0, _ => none
  | limit + 1, t => do
    match ← skipLines? false t with
    | ']' :: t => some ([], t)
    | t =>
      let (v, t) ← value t
      match ← skipLines? false t with
      | ',' :: t =>
        let (vs, t) ← items value limit t
        some (v :: vs, t)
      | ']' :: t => some ([v], t)
      | _ => none

def keyValue? (value : Scanner Value) : Scanner Entry := fun t => do
  let ((path, key), t) ← key? t
  let (v, t) ← value (skipSpaces (← expect? '=' t))
  some (⟨path, key, v⟩, t)

/-- The entries of an inline table, after a comma or the opening brace. -/
def inlineEntries (value : Scanner Value) : Nat → Scanner (List Entry)
  | 0, _ => none
  | limit + 1, t => do
    let (e, t) ← keyValue? value t
    match skipSpaces t with
    | ',' :: t =>
      let (es, t) ← inlineEntries value limit t
      some (e :: es, t)
    | '\x7d' :: t => some ([e], t)
    | _ => none

def inlineTable? (value : Scanner Value) : Scanner Value := fun t =>
  match skipSpaces t with
  | '\x7d' :: t => some (.table .inline [], t)
  | _ => do
    let (entries, rest) ← inlineEntries value t.length t
    some (.table .inline (← addAll entries []), rest)

/-- A value whose arrays and inline tables lie at most `depth` deep in each other. -/
def value? : Nat → Scanner Value
  | depth, t =>
    match t with
    | '[' :: rest =>
      match depth with
      | 0 => none
      | depth + 1 => (items (value? depth) t.length rest).map fun (vs, t) => (.array vs, t)
    | '\x7b' :: rest =>
      match depth with
      | 0 => none
      | depth + 1 => inlineTable? (value? depth) rest
    | 't' :: 'r' :: 'u' :: 'e' :: t => some (.boolean true, t)
    | 'f' :: 'a' :: 'l' :: 's' :: 'e' :: t => some (.boolean false, t)
    | t =>
      match string? t with
      | some (s, t) => some (.string s, t)
      | none => number? t

/-- How deep arrays and inline tables may lie in each other. -/
def depthLimit : Nat := 79

def header? (repeated : Bool) : Scanner Header := fun t => do
  let ((path, key), t) ← key? t
  let t ← expect? ']' t
  let t ← if repeated then expect? ']' t else some t
  some (⟨path, key, repeated⟩, t)

/-- A line that says something: a header, or an entry. -/
inductive Statement
  | header (h : Header)
  | entry (e : Entry)

def statement? : Scanner Statement
  | '[' :: '[' :: t => (header? true t).map fun (h, t) => (.header h, t)
  | '[' :: t => (header? false t).map fun (h, t) => (.header h, t)
  | t => (keyValue? (value? depthLimit) t).map fun (e, t) => (.entry e, t)

/-- Every statement ends with its line. -/
def statements : Nat → Text → Option (List Statement)
  | 0, _ => none
  | limit + 1, t =>
    match skipSpaces t with
    | [] => some []
    | '\n' :: t => statements limit t
    | '\r' :: '\n' :: t => statements limit t
    | '#' :: rest => do statements limit (← lineEnd? ('#' :: rest))
    | t => do
      let (s, t) ← statement? t
      some (s :: (← statements limit (← lineEnd? t)))

/-- The entries up to the first header, and the sections. -/
def Source.ofStatements : List Statement → Source
  | [] => ⟨[], []⟩
  | .entry e :: rest => let source := ofStatements rest; { source with top := e :: source.top }
  | .header h :: rest => let source := ofStatements rest; ⟨[], (h, source.top) :: source.sections⟩

/-- The fields of a document, which may begin with a byte order mark. -/
def parse? (t : Text) : Option Fields := do
  let t := ((['\ufeff'] : Text).isPrefixOf? t).getD t
  (Source.ofStatements (← statements (t.length + 1) t)).build?

end Snippetry.Toml
