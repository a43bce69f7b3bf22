import Snippetry.Shell.Arithmetic
import Snippetry.Shell.Field
import Snippetry.Shell.Glob

/-! # Expansion of words

`run` carries out the script of a command substitution and returns what it writes. -/
namespace Snippetry.Shell

namespace Expansion

structure Context where
  quoted : Bool
  /-- Whether the word is split into fields. -/
  splits : Bool
  /-- Whether bare text is split as well, in the word of an operation. -/
  isOperand : Bool

def separators? (sh : State) : Option Text := sh.value? "IFS"

def separators (sh : State) : Text := (separators? sh).getD " \t\n"

/-- The first separator, which joins arguments. -/
def joint (sh : State) : Text := ((separators? sh).getD [' ']).take 1

def isArguments (name : Text) : Bool := name = ['@'] || name = ['*']

def value? (sh : State) (name : Text) : Option Text :=
  match name with
  | ['?'] => some (Text.ofNat sh.status)
  | ['#'] => some (Text.ofNat sh.arguments.length)
  | ['$'] => some (Text.ofNat sh.mainProcess)
  | ['-'] => some sh.letters
  | ['!'] => sh.lastJob.map Text.ofNat
  | ['@'] | ['*'] => some (Text.join (joint sh) sh.arguments)
  | _ =>
    match Text.toNat? name with
    | some 0 => some sh.name
    | some n => sh.arguments[n - 1]?
    | none => sh.value? name

def pieces (context : Context) (t : Text) : List Piece :=
  [⟨if context.quoted then .nowhere else .atSeparators, Glyph.ofText context.quoted t⟩]

def argumentPieces (sh : State) (context : Context) (name : Text) : List Piece :=
  if context.splits && context.quoted && name = ['@'] then
    if sh.arguments = [] then []
    else [⟨.atGaps, Glyph.ofText true (Text.join [gap] sh.arguments)⟩]
  else if context.splits && !context.quoted then
    let joint := if (separators? sh).isSome then [gap] else [' ']
    [⟨.atSeparators, Glyph.ofText false (Text.join joint sh.arguments)⟩]
  else pieces context (Text.join (joint sh) sh.arguments)

def valuePieces (sh : State) (context : Context) (name : Text) : List Piece :=
  if isArguments name then argumentPieces sh context name
  else pieces context ((value? sh name).getD [])

def glyphsOf (ps : List Piece) : List Glyph := ps.flatMap Piece.glyphs

def textOf (ps : List Piece) : Text := Glyph.text (glyphsOf ps)

def patternOf (ps : List Piece) : Pattern := Glyph.pattern (glyphsOf ps)

/-! ## Tildes -/

/-- The directory of a user; the nameless one is the current one. -/
def home? (sh : State) (user : Text) : Option Text :=
  if user = [] then sh.value? "HOME" else if user = ("root" : Text) then some "/root" else none

/-- Put directories in the places of tildes. A tilde may stand at the start, and with `assigned` after
the first equals sign and after colons. -/
def tildes (sh : State) (assigned isLast : Bool) : Nat → Bool → Bool → Text → Text → Word
  | 0, _, _, _, _ => []
  | _, _, _, [], done => [.text done.reverse]
  | fuel + 1, mayStart, afterEquals, c :: t, done =>
    let name := t.takeWhile fun c => c ≠ '/' && !(assigned && c = ':')
    let rest := t.drop name.length
    match if c = '~' && mayStart && (rest ≠ [] || isLast) then home? sh name else none with
    | some home =>
      .text done.reverse :: .escaped home :: tildes sh assigned isLast fuel false afterEquals rest []
    | none =>
      let starts := assigned && (c = ':' && afterEquals || c = '=' && !afterEquals)
      tildes sh assigned isLast fuel starts (afterEquals || assigned && c = '=') t (c :: done)

def expandTildes (sh : State) (assigned start afterEquals : Bool) : Word → Word
  | [] => []
  | .text t :: parts =>
    let after := afterEquals || assigned && '=' ∈ t
    tildes sh assigned parts.isEmpty (t.length + 1) start afterEquals t []
      ++ expandTildes sh assigned false after parts
  | part :: parts => part :: expandTildes sh assigned false afterEquals parts

section

variable (run : Command → Sh Text)

def unsetMessage (name : Text) (orEmpty : Bool) (word : Option Text) : Text :=
  name ++ ": " ++ match word with
    | some t => t
    | none => if orEmpty then "parameter not set or null" else "parameter not set"

mutual

def expandParts : Nat → Context → Word → Sh (List Piece)
  | _, _, [] => pure []
  | 0, _, _ => pure []
  | fuel + 1, context, part :: parts => do
    let first ← expandPart fuel context part
    pure (first ++ (← expandParts fuel context parts))

def expandOperand : Nat → Context → Word → Sh (List Piece)
  | 0, _, _ => pure []
  | fuel + 1, context, w => do
    let sh ← get
    let w := if context.quoted then w else expandTildes sh false true false w
    expandParts fuel { context with isOperand := true } w

def expandPlain : Nat → Word → Sh (List Piece)
  | 0, _ => pure []
  | fuel + 1, w => do
    expandParts fuel ⟨false, false, false⟩ (expandTildes (← get) false true false w)

def expandPart : Nat → Context → Part → Sh (List Piece)
  | 0, _, _ => pure []
  | fuel + 1, context, part => do
    match part with
    | .text t =>
      let cut := if context.isOperand && !context.quoted && t ≠ [] then .atSeparators else .nowhere
      pure [⟨cut, Glyph.ofText context.quoted t⟩]
    | .escaped t => pure [⟨.nowhere, Glyph.ofText true t⟩]
    | .quotes [.parameter ['@'] .value] => do
      pure (valuePieces (← get) { context with quoted := true } ['@'])
    | .quotes inner => do
      let ps ← expandParts fuel { context with quoted := true } inner
      pure (⟨.nowhere, [.mark]⟩ :: ps ++ [⟨.nowhere, [.mark]⟩])
    | .command script => do pure (pieces context ((← run script).filter (· ≠ gap)))
    | .arithmetic expression => do
      let t := textOf (← expandParts fuel ⟨false, false, false⟩ expression)
      match compute t (← get) with
      | .ok (n, sh) =>
        set sh
        pure (pieces context (Integer.toText n))
      | .error e => giveUp (e.message t)
    | .parameter name operation => expandParameter fuel context name operation

def expandParameter : Nat → Context → Text → Operation → Sh (List Piece)
  | 0, _, _, _ => pure []
  | fuel + 1, context, name, operation => do
    let sh ← get
    let value := value? sh name
    let lacks (orEmpty : Bool) : Bool := match value with
      | none => true
      | some v => orEmpty && v = []
    let checked : Sh Unit :=
      if value.isNone && sh.has .nounset then giveUp (unsetMessage name false none) else pure ()
    match operation with
    | .malformed => giveUp "Bad substitution"
    | .value => do
      checked
      pure (valuePieces sh context name)
    | .followed w => do
      checked
      pure (valuePieces sh context name ++ (← expandOperand fuel context w))
    | .length => do
      checked
      pure (pieces context (Text.ofNat (value.getD []).length))
    | .fallback orEmpty w =>
      if lacks orEmpty then expandOperand fuel context w else pure (valuePieces sh context name)
    | .replace orEmpty w => if lacks orEmpty then pure [] else expandOperand fuel context w
    | .assign orEmpty w =>
      if lacks orEmpty then do
        let t := textOf (← expandPlain fuel w)
        if isName name then
          assignVariable name t
          pure (pieces context t)
        else giveUp (name ++ ": bad variable name")
      else pure (valuePieces sh context name)
    | .require orEmpty w =>
      if lacks orEmpty then do
        let t := textOf (← expandPlain fuel w)
        giveUp (unsetMessage name orEmpty (if w.isEmpty then none else some t))
      else pure (valuePieces sh context name)
    | .trim fromStart longest pattern => do
      checked
      let p := patternOf (← expandPlain fuel pattern)
      pure (pieces context (p.trim fromStart longest (value.getD [])))

end

/-- How deep words may lie in each other. -/
def wordDepth : Nat := 100000

def expandText (w : Word) : Sh Text := do pure (textOf (← expandPlain run wordDepth w))

def expandPattern (w : Word) : Sh Pattern := do pure (patternOf (← expandPlain run wordDepth w))

/-- The text of a here-document, an arithmetic expression or a prompt. -/
def expandDocument (w : Word) : Sh Text := do
  pure (textOf (← expandParts run wordDepth ⟨true, false, false⟩ w))

/-- An assignment, as name and value with an equals sign between them. -/
def expandAssignment (w : Word) : Sh Text := do
  let w := expandTildes (← get) true false false w
  pure (textOf (← expandParts run wordDepth ⟨false, false, false⟩ w))

def expandWord (w : Word) : Sh (List Text) := do
  let w := expandTildes (← get) false true false w
  let ps ← expandParts run wordDepth ⟨false, true, false⟩ w
  let sh ← get
  pure ((fieldsOf (separators sh) none ps).flatMap fun gs =>
    let p := Glyph.pattern gs
    let found :=
      if !sh.has .noglob && p.hasWildcard then p.paths sh.files else []
    if found = [] then [p.plain] else found)

def expandWords : List Word → Sh (List Text)
  | [] => pure []
  | w :: ws => do
    let first ← expandWord run w
    pure (first ++ (← expandWords ws))

end

end Expansion
end Snippetry.Shell
