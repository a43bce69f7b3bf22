import Snippetry.Markdown.Continuation

/-! # Link reference definitions

`[label]: destination "title"`. Only where a definition ends matters here: the text after it is read
as blocks again. -/
namespace Snippetry.Markdown

/-- After `[`: past the closing bracket of a label that is not blank. A run of blanks holds at most
one line end. -/
def labelEnd? (containers : List Container) (count : Nat) (blank broken : Bool) (p : Place) :
    Option Place :=
  if 1000 ≤ count then none
  else match p.rest with
  | [] => none
  | '[' :: _ => none
  | ']' :: _ => if blank then none else some (p.advance 1)
  | c :: t =>
    let step : Option (Place × Bool × Bool) :=
      if c == '\\' then some (p.advance 2, false, false)
      else if c == '\n' || c == '\r' then
        if broken then none
        else (resumeParagraph? containers (p.advance ((lineEnd? (c :: t)).getD 1))).map (·, blank, true)
      else if isInlineBlank c then some (p.advance 1, blank, broken)
      else some (p.advance 1, false, false)
    match step with
    | none => none
    | some (q, blank, broken) =>
      if _shorter : q.rest.length < p.rest.length then
        labelEnd? containers (count + 1) blank broken q
      else none
termination_by p.rest.length

/-- Blanks with at most one line end; returns the number of line ends passed. -/
def referenceSpace? (containers : List Container) (p : Place) : Option (Place × Nat) :=
  let p := p.advance (run isInlineBlank p.rest)
  match lineEnd? p.rest with
  | none => some (p, 0)
  | some n =>
    match resumeParagraph? containers (p.advance n) with
    | none => none
    | some q =>
      let q := q.advance (run isInlineBlank q.rest)
      if (lineEnd? q.rest).isSome then none else some (q, 1)

/-- After `<`: up to and with `>`, on one line. -/
def pointyEnd? : Text → Option Nat
  | [] => none
  | '>' :: _ => some 1
  | '\\' :: c :: t =>
    if isPunctuation c then (pointyEnd? t).map (2 + ·) else (pointyEnd? (c :: t)).map (1 + ·)
  | c :: t => if c == '\n' || c == '\r' || c == '<' then none else (pointyEnd? t).map (1 + ·)

/-- Up to the first blank or control character; parentheses are balanced. -/
def bareEnd? (depth : Nat) : Text → Option Nat
  | [] => if depth = 0 then some 0 else none
  | '\\' :: c :: t =>
    if isPunctuation c then (bareEnd? depth t).map (2 + ·) else (bareEnd? depth (c :: t)).map (1 + ·)
  | c :: t =>
    if c.toNat ≤ 0x20 then if depth = 0 then some 0 else none
    else if c == '(' then if 32 < depth then none else (bareEnd? (depth + 1) t).map (1 + ·)
    else if c == ')' then if depth = 0 then some 0 else (bareEnd? (depth - 1) t).map (1 + ·)
    else (bareEnd? depth t).map (1 + ·)

def destinationEnd? : Text → Option Nat
  | '<' :: t => (pointyEnd? t).map (1 + ·)
  | t => match bareEnd? 0 t with
    | some 0 => none
    | n => n

/-- Past the delimiter that closes a title. -/
def titleEnd? (containers : List Container) (closing : Char) (p : Place) : Option Place :=
  match p.rest with
  | [] => none
  | c :: t =>
    if c == closing then some (p.advance 1)
    else if closing == ')' && c == '(' then none
    else
      let step : Option Place :=
        if c == '\n' || c == '\r' then
          (resumeParagraph? containers (p.advance ((lineEnd? (c :: t)).getD 1))).map fun q =>
            q.advance (run (fun d => d == ' ' || d == '\t') q.rest)
        else if c == '\\' then some (p.advance 2)
        else some (p.advance 1)
      match step with
      | none => none
      | some q =>
        if _shorter : q.rest.length < p.rest.length then titleEnd? containers closing q else none
termination_by p.rest.length

def title? (containers : List Container) (p : Place) : Option Place :=
  match p.rest with
  | '"' :: _ => titleEnd? containers '"' (p.advance 1)
  | '\'' :: _ => titleEnd? containers '\'' (p.advance 1)
  | '(' :: _ => titleEnd? containers ')' (p.advance 1)
  | _ => none

/-- After the colon. A title that does not end its line is no title, and then the destination has to
be the last thing on its line. -/
def definitionBody? (containers : List Container) (p : Place) : Option Place := do
  let (p, _) ← referenceSpace? containers p
  let n ← destinationEnd? p.rest
  let bare := p.advance n
  match referenceSpace? containers bare with
  | none => some bare
  | some (q, breaks) =>
    if q.offset = bare.offset && breaks = 0 then none
    else match title? containers q with
      | some titled =>
        if (blankLine? titled.rest).isSome then some titled
        else if 0 < breaks then some bare else none
      | none => if 0 < breaks then some bare else none

/-- Where a definition that starts here ends, before the end of its last line. -/
def definitionEnd? (containers : List Container) (p : Place) : Option Place :=
  match p.rest with
  | '[' :: _ =>
    match labelEnd? containers 0 true false (p.advance 1) with
    | some q =>
      match q.rest with
      | ':' :: _ => definitionBody? containers (q.advance 1)
      | _ => none
    | none => none
  | _ => none

end Snippetry.Markdown
