import Snippetry.Markdown.Scan

/-! # Starts of HTML blocks -/
namespace Snippetry.Markdown

def equalFold (s t : Text) : Bool := s.map Char.toLower == t.map Char.toLower

/-- Elements whose block runs to their end tag. -/
def verbatimElements : List (Text × Text) :=
  [("pre", "</pre>"), ("style", "</style>"), ("script", "</script>"), ("textarea", "</textarea>")]

def declarations : List (Text × Text) := [("!--", "-->"), ("?", "?>"), ("![CDATA[", "]]>")]

/-- After `<`: what ends a block that may hold blank lines. -/
def htmlTerminator? (t : Text) : Option Text :=
  let starts := verbatimElements.find? fun (name, _) =>
    equalFold (t.take name.length) name && match t.drop name.length with
      | [] => true
      | c :: _ => isAsciiBlank c || c == '>'
  match starts with
  | some (_, terminator) => some terminator
  | none =>
    match declarations.find? fun (opening, _) => (opening.isPrefixOf? t).isSome with
    | some (_, terminator) => some terminator
    | none =>
      match t with
      | '!' :: c :: _ => if c.isAlpha then some ">" else none
      | _ => none

/-- Elements that begin a block wherever a line begins with their tag. -/
def blockElements : List Text :=
  Text.splitOn ' ' ("address article aside base basefont blockquote body caption center col colgroup dd "
    ++ "details dialog dir div dl dt fieldset figcaption figure footer form frame frameset h1 h2 h3 h4 h5 "
    ++ "h6 head header hr html iframe legend li link main menu menuitem nav noframes ol optgroup option p "
    ++ "param search section summary table tbody td tfoot th thead title tr track ul")

/-- After `<`. -/
def startsBlockElement (t : Text) : Bool :=
  let tail := match t with
    | '/' :: rest => rest
    | _ => t
  let name := tail.takeWhile Char.isAlphanum
  let ends := match tail.drop name.length with
    | [] => true
    | '/' :: '>' :: _ => true
    | c :: _ => c == ' ' || c == '\t' || c == '\r' || c == '\n' || c == '>'
  ends && blockElements.any (equalFold name)

def isNameStart (c : Char) : Bool := c.isAlpha || c == '_' || c == ':'

def isNamePart (c : Char) : Bool := c.isAlphanum || c == '_' || c == '.' || c == ':' || c == '-'

def isBareValue (c : Char) : Bool :=
  !("'\" =><\x60\n\r".toList.contains c)

/-- A value after the equals sign of an attribute; it stays on its line. -/
def attributeValue? : Text → Option Nat
  | [] => none
  | c :: t =>
    if c == '"' || c == '\'' then
      let inner := run (fun d => d != c && d != '\n' && d != '\r') t
      match t.drop inner with
      | d :: _ => if d == c then some (inner + 2) else none
      | [] => none
    else if isBareValue c then some (1 + run isBareValue t)
    else none

/-- A name, and a value if an equals sign follows it. -/
def attribute? : Text → Option Nat
  | [] => none
  | c :: t =>
    if isNameStart c then
      let name := 1 + run isNamePart t
      let blanks := run isInlineBlank ((c :: t).drop name)
      match (c :: t).drop (name + blanks) with
      | '=' :: rest =>
        let gap := run isInlineBlank rest
        match attributeValue? (rest.drop gap) with
        | some n => some (name + blanks + 1 + gap + n)
        | none => none
      | [] => none
      | d :: _ => if d == '\n' || d == '\r' then none else some name
    else none

/-- Attributes up to the end of the tag; blanks stand before each. -/
def attributes? (t : Text) : Option Nat :=
  let blanks := run isInlineBlank t
  match t.drop blanks with
  | [] => none
  | c :: rest =>
    if c == '/' || c == '>' then some blanks
    else if blanks = 0 then none
    else match attribute? (c :: rest) with
      | none => none
      | some n =>
        if _shorter : (t.drop (blanks + n)).length < t.length then
          (attributes? (t.drop (blanks + n))).map (blanks + n + ·)
        else none
termination_by t.length

/-- After `<`: a complete tag that is alone on its line. -/
def startsLoneTag (t : Text) : Bool :=
  let closing := match t with
    | '/' :: _ => true
    | _ => false
  let tail := if closing then t.drop 1 else t
  let letters := run Char.isAlpha tail
  let name := letters + run (fun c => c.isAlphanum || c == '-') (tail.drop letters)
  if letters = 0 then false
  else
    let inside := if closing then some 0 else attributes? (tail.drop name)
    match inside with
    | none => false
    | some n =>
      let rest := (tail.drop (name + n)).dropWhile isInlineBlank
      let rest := match closing, rest with
        | false, '/' :: r => r
        | _, r => r
      match rest with
      | '>' :: r => (blankLine? r).isSome
      | _ => false

end Snippetry.Markdown
