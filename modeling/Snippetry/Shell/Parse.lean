import Snippetry.Shell.Reader

/-! # Reading words and commands

Each function is bounded by a count that its calls reduce; `longest` of them is more than any script
needs. -/
namespace Snippetry.Shell

/-- Where the parts of a word are read. -/
inductive Place
  /-- A word, which ends before a blank or an operator. -/
  | word
  /-- The word of an operation, up to the closing brace. -/
  | operand
  | quotes (inBraces : Bool)
  /-- The word of an operation between double quotes or in a document. -/
  | quotedOperand (inDocument : Bool)
  /-- Between double quotes in such a word. -/
  | innerQuotes (inDocument : Bool)
  | arithmetic (inDocument : Bool) (depth : Nat)
  /-- A text up to its delimiter, or to its end if it has none. -/
  | document (delimiter : Option (Bool × Text))
deriving DecidableEq

namespace Place

def isQuoted : Place → Bool
  | word | operand => false
  | _ => true

def isInDocument : Place → Bool
  | document _ => true
  | quotedOperand d | innerQuotes d | arithmetic d _ => d
  | _ => false

/-- Whether a backslash takes the meaning from a character and goes away. -/
def protects (p : Place) (c : Char) : Bool :=
  !p.isQuoted || c = '\\' || c = '\x60' || c = '$' || c = '"' && !p.isInDocument
    || c = '\x7d' && match p with
      | quotes inBraces => inBraces
      | quotedOperand _ | innerQuotes _ => true
      | _ => false

def endsWord (p : Place) (c : Char) : Bool :=
  p = word && (['\n', ' ', '\t', '&', '|', ';', '<', '>', '(', ')'] : Text).contains c

end Place

/-! ## Parts, the latest first, with their texts reversed -/

def addText (c : Char) : Word → Word
  | .text t :: parts => .text (c :: t) :: parts
  | parts => .text [c] :: parts

def addEscaped (c : Char) : Word → Word
  | .escaped t :: parts => .escaped (c :: t) :: parts
  | parts => .escaped [c] :: parts

def inOrder (parts : Word) : Word :=
  parts.reverse.map fun part => match part with
    | .text t => .text t.reverse
    | .escaped t => .escaped t.reverse
    | part => part

def singleQuoted : Nat → Text → Read Text
  | 0, t => pure t.reverse
  | fuel + 1, t => do
    match ← peek with
    | none => misread "Unterminated quoted string"
    | some c =>
      pass
      if c = '\'' then pure t.reverse else singleQuoted fuel (c :: t)

def backquotedText (quoted : Bool) : Nat → Text → Read Text
  | 0, t => pure t.reverse
  | fuel + 1, t => do
    match ← peekJoined with
    | none => misread "EOF in backquote substitution"
    | some '\\' =>
      pass
      match ← peek with
      | none => misread "EOF in backquote substitution"
      | some c =>
        pass
        let protects := c = '\\' || c = '\x60' || c = '$' || quoted && c = '"'
        backquotedText quoted fuel (if protects then c :: t else c :: '\\' :: t)
    | some c =>
      pass
      if c = '\x60' then pure t.reverse else backquotedText quoted fuel (c :: t)

def plainDocument (stripTabs : Bool) (delimiter : Text) : Nat → Text → Read Text
  | 0, t => pure t.reverse
  | fuel + 1, t => do
    let start := match t.head? with
      | none => true
      | some c => c = '\n'
    if ← (if start then passDelimiter stripTabs delimiter else pure false) then pure t.reverse
    else
      match ← peek with
      | none => pure t.reverse
      | some c =>
        pass
        plainDocument stripTabs delimiter fuel (c :: t)

/-- Pass over a comment, up to the end of the line. -/
def skipComment : Nat → Read Unit
  | 0 => pure ()
  | fuel + 1 => do
    match ← peek with
    | none => pure ()
    | some c =>
      if c = '\n' then pure ()
      else
        pass
        skipComment fuel

def readArrow (descriptor : Option Nat) : Read Token := do
  if ← passIf '>' then
    let arrow ←
      if ← passIf '>' then pure Arrow.append
      else if ← passIf '|' then pure .clobber
      else if ← passIf '&' then pure .copy
      else pure .write
    pure (.redirection (descriptor.getD 1) arrow)
  else
    pass
    let arrow ←
      if ← passIf '<' then pure (Arrow.document (← passIf '-'))
      else if ← passIf '&' then pure .copy
      else if ← passIf '>' then pure .readWrite
      else pure .read
    pure (.redirection (descriptor.getD 0) arrow)

inductive Listing
  /-- The commands of a line. -/
  | line
  /-- The commands of a body, of which there is at least one. -/
  | body
  /-- The commands of a script, of which there may be none. -/
  | script
deriving DecidableEq

def sequenceOf (first : Option Command) (second : Command) : Command :=
  match first with
  | none => second
  | some c => .sequence c second

def inBackground : Command → Command
  | .pipeline _ commands => .pipeline true commands
  | .redirected line body redirections => .background line body redirections
  | c => .background 0 c []

/-- Whether a word gives a variable a value. -/
def isAssignment : Word → Bool
  | .text t :: _ =>
    let name := t.takeWhile isNameChar
    isName name && (t.drop name.length).head? = some '='
  | _ => false

def copyTarget (w : Word) : Target :=
  match Word.bare? w with
  | some ['-'] => .copy none
  | some [c] => if c.isDigit then .copy (some (c.toNat - '0'.toNat)) else .copyNamed w
  | _ => .copyNamed w

def allArguments : Word := [.quotes [.parameter ['@'] .value]]

/-- Where the parts of the word of an operation are read. -/
def operandPlace (p : Place) : Place :=
  if p.isQuoted then .quotedOperand p.isInDocument else .operand

mutual

def readParts : Nat → Place → Word → Read Word
  | 0, _, parts => pure (inOrder parts)
  | fuel + 1, place, parts => do
    match ← peekJoined with
    | none =>
      match place with
      | .word | .document _ => pure (inOrder parts)
      | .operand | .quotedOperand true | .innerQuotes true => misread "Missing '\x7d'"
      | .arithmetic _ _ => misread "Missing '))'"
      | _ => misread "Unterminated quoted string"
    | some c =>
      if place.endsWord c then pure (inOrder parts)
      else
        pass
        match c, place with
        | '\n', .document (some (stripTabs, delimiter)) =>
          let parts := addText c parts
          if ← passDelimiter stripTabs delimiter then pure (inOrder parts)
          else readParts fuel place parts
        | '\\', place => do
          match ← peek with
          | none => readParts fuel place (addEscaped c parts)
          | some d =>
            pass
            let parts := if place.protects d then parts else addEscaped c parts
            readParts fuel place (addEscaped d parts)
        | '\'', .word => do
          let t ← singleQuoted longest []
          readParts fuel place (.quotes [.escaped t] :: parts)
        | '\'', .operand => do
          let t ← singleQuoted longest []
          readParts fuel place (.quotes [.escaped t] :: parts)
        | '"', .word => do
          let inner ← readParts fuel (.quotes false) []
          readParts fuel place (.quotes inner :: parts)
        | '"', .operand => do
          let inner ← readParts fuel (.quotes true) []
          readParts fuel place (.quotes inner :: parts)
        | '"', .quotedOperand inDocument => do
          let inner ← readParts fuel (.innerQuotes inDocument) []
          readParts fuel place (.quotes inner :: parts)
        | '"', .quotes _ => pure (inOrder parts)
        | '"', .innerQuotes _ => pure (inOrder parts)
        | '\x7d', .operand => pure (inOrder parts)
        | '\x7d', .quotedOperand _ => pure (inOrder parts)
        | '(', .arithmetic inDocument depth =>
          readParts fuel (.arithmetic inDocument (depth + 1)) (addText c parts)
        | ')', .arithmetic inDocument (depth + 1) =>
          readParts fuel (.arithmetic inDocument depth) (addText c parts)
        | ')', .arithmetic _ 0 => do
          if ← passIf ')' then pure (inOrder parts)
          else readParts fuel place (addText c parts)
        | '\x60', place => do
          if (← get).checks.delimiter then readParts fuel place (addEscaped c parts)
          else
            let t ← backquotedText place.isQuoted longest []
            let script ← readScript fuel (some t)
            readParts fuel place (.command script :: parts)
        | '$', place => do
          match ← readDollar fuel place with
          | some part => readParts fuel place (part :: parts)
          | none => readParts fuel place (addText c parts)
        | c, place => readParts fuel place (addText c parts)

/-- What a dollar sign begins, if it begins anything. -/
def readDollar : Nat → Place → Read (Option Part)
  | 0, _ => pure none
  | fuel + 1, place => do
    match ← peekJoined with
    | none => pure none
    | some c =>
      if (← get).checks.delimiter then pure none
      else if c = '(' then
        pass
        if ← passIf '(' then
          let expression ← readParts fuel (.arithmetic place.isInDocument 0) []
          pure (some (.arithmetic expression))
        else do pure (some (.command (← readScript fuel none)))
      else if c = '\x7b' then
        pass
        let (name, operation) ← readBraced fuel place
        pure (some (.parameter name operation))
      else if isNameStart c then do
        pure (some (.parameter (← takeJoined isNameChar longest []) .value))
      else if c.isDigit || isSpecialParameter c then
        pass
        pure (some (.parameter [c] .value))
      else pure none

/-- A parameter and its operation, after the opening brace. -/
def readBraced : Nat → Place → Read (Text × Operation)
  | 0, _ => pure ([], .malformed)
  | fuel + 1, place => do
    match ← peekJoined with
    | none => readMalformed fuel place
    | some c =>
      if isNameStart c then do
        let name ← takeJoined isNameChar longest []
        pure (name, ← readOperation fuel place)
      else if c.isDigit then do
        let name ← takeJoined Char.isDigit longest []
        pure (name, ← readOperation fuel place)
      else if c = '\x7d' then readMalformed fuel place
      else
        pass
        if c = '#' then readLength fuel place
        else if isSpecialParameter c then do pure ([c], ← readOperation fuel place)
        else readMalformed fuel place

/-- What follows a number sign after the opening brace. -/
def readLength : Nat → Place → Read (Text × Operation)
  | 0, _ => pure ([], .malformed)
  | fuel + 1, place => do
    match ← peekJoined with
    | none => pure (['#'], ← readOperation fuel place)
    | some c =>
      if isNameChar c then do
        let name ← takeJoined (if c.isDigit then Char.isDigit else isNameChar) longest []
        if ← passIf '\x7d' then pure (name, .length) else readMalformed fuel place
      else
        let r ← get
        pass
        if c ≠ '\x7d' && (← peekJoined) = some '\x7d' then
          if isSpecialParameter c then
            pass
            pure ([c], .length)
          else readMalformed fuel place
        else
          set r
          pure (['#'], ← readOperation fuel place)

/-- Read on to the closing brace of what makes no sense. -/
def readMalformed : Nat → Place → Read (Text × Operation)
  | 0, _ => pure ([], .malformed)
  | fuel + 1, place => do
    let _ ← readParts fuel (operandPlace place) []
    pure ([], .malformed)

/-- The operation after the name of a parameter in braces. -/
def readOperation : Nat → Place → Read Operation
  | 0, _ => pure .malformed
  | fuel + 1, place => do
    match ← peekJoined with
    | none => do
      let _ ← readParts fuel (operandPlace place) []
      pure .malformed
    | some c =>
      passUncounted
      if c = '\x7d' then pure .value
      else if c = '%' || c = '#' then do
        let longest ← passIf c
        let pattern ← readParts fuel .operand []
        pure (.trim (c = '#') longest pattern)
      else
        let orEmpty := c = ':'
        let kind ← if orEmpty then peekJoined else pure (some c)
        if orEmpty && kind.isSome then passUncounted
        let w ← readParts fuel (operandPlace place) []
        pure (match kind with
          | some '-' => .fallback orEmpty w
          | some '=' => .assign orEmpty w
          | some '?' => .require orEmpty w
          | some '+' => .replace orEmpty w
          | some '\x7d' => .followed w
          | _ => .malformed)

/-- The script of a command substitution: a text, or what comes next up to a closing parenthesis. -/
def readScript : Nat → Option Text → Read Command
  | 0, _ => pure .nothing
  | fuel + 1, text? => do
    let old ← get
    let outer := old.outer ++ old.feed.substitutions.map Substitution.name
    set { old with
      awaited := [], outer, feed := match text? with
        | some t => .ofText 1 t
        | none => old.feed }
    let c ← readList fuel .script
    if text?.isNone then
      match ← readToken fuel with
      | .closeParen => pure ()
      | _ => unexpected "\")\""
      let feed := (← get).feed
      modify fun r => { r with feed := .ofText 1 [] }
      readDocuments fuel
      modify fun r => { r with feed }
    else
      readDocuments fuel
      modify fun r => { r with feed := old.feed }
    modify fun r => { r with awaited := old.awaited, outer := old.outer, held := false }
    pure (c.getD .nothing)

def readDocuments : Nat → Read Unit
  | 0 => pure ()
  | fuel + 1 => do
    match (← get).awaited with
    | [] => pure ()
    | a :: awaited =>
      modify fun r => { r with awaited }
      let w ←
        if a.quoted then do
          pure [.escaped (← plainDocument a.stripTabs a.delimiter longest [])]
        else if ← passDelimiter a.stripTabs a.delimiter then pure []
        else readParts fuel (.document (some (a.stripTabs, a.delimiter))) []
      modify fun r => { r with documents := (a.number, w) :: r.documents }
      readDocuments fuel

def readRaw : Nat → Read Token
  | 0 => pure .endOfFile
  | fuel + 1 => do
    let r ← get
    if r.held then
      set { r with held := false }
      pure r.last
    else
      match ← peekJoined with
      | none => pure .endOfFile
      | some c =>
        if c = ' ' || c = '\t' then
          pass
          readRaw fuel
        else if c = '#' then
          skipComment longest
          readRaw fuel
        else if c = '\n' then
          pass
          pure .newline
        else if c = '&' then
          pass
          pure (if ← passIf '&' then .both else .background)
        else if c = '|' then
          pass
          pure (if ← passIf '|' then .either else .pipe)
        else if c = ';' then
          pass
          pure (if ← passIf ';' then .endClause else .semicolon)
        else if c = '(' then
          pass
          pure .openParen
        else if c = ')' then
          pass
          pure .closeParen
        else
          let w ← readParts fuel .word []
          let next ← peekJoined
          if next = some '<' || next = some '>' then
            match w with
            | [] => readArrow none
            | [.text [c]] =>
              if c.isDigit then readArrow (some (c.toNat - '0'.toNat)) else pure (.word w)
            | _ => pure (.word w)
          else pure (.word w)

def readChecked : Nat → Checks → Read Token
  | 0, _ => pure .endOfFile
  | fuel + 1, checks => do
    let token ← readRaw fuel
    modify fun r => { r with last := token }
    match token with
    | .newline =>
      if checks.newlines then
        readDocuments fuel
        expect .none
        readChecked fuel checks
      else
        expect .none
        pure token
    | .word w =>
      let found := (← get).checks
      let checks := { checks with
        keywords := checks.keywords || found.keywords
        aliases := checks.aliases || found.aliases }
      expect .none
      match Word.bare? w with
      | none => pure token
      | some t =>
        if checks.keywords && keywords.contains t then
          modify fun r => { r with last := .keyword t }
          pure (.keyword t)
        else
          let r ← get
          match if checks.aliases && !isInUse r t then r.aliases.lookup t else none with
          | some value =>
            substituteAlias t value
            readChecked fuel checks
          | none => pure token
    | token =>
      expect .none
      pure token

def readToken : Nat → Read Token
  | 0 => pure .endOfFile
  | fuel + 1 => do readChecked fuel (← get).checks

def readTarget : Nat → Nat → Arrow → Read Redirection
  | 0, descriptor, _ => pure (.mk descriptor (.copy none))
  | fuel + 1, descriptor, arrow => do
    let isDocument := match arrow with
      | .document _ => true
      | _ => false
    if isDocument then modify fun r => { r with checks := { r.checks with delimiter := true } }
    match ← readToken fuel with
    | .word w =>
      match arrow with
      | .read => pure (.mk descriptor (.read w))
      | .write => pure (.mk descriptor (.write w))
      | .clobber => pure (.mk descriptor (.clobber w))
      | .append => pure (.mk descriptor (.append w))
      | .readWrite => pure (.mk descriptor (.readWrite w))
      | .copy => pure (.mk descriptor (copyTarget w))
      | .document stripTabs =>
        let r ← get
        let a : Awaited := ⟨r.count, Word.plain longest w, (Word.bare? w).isNone, stripTabs⟩
        set { r with count := r.count + 1, awaited := r.awaited ++ [a] }
        pure (.mk descriptor (.document a.number))
    | _ => unexpected []

/-- A list of commands; `none` if there is none. At the end of the text of a line reading ends. -/
def readList : Nat → Listing → Read (Option Command)
  | 0, _ => pure none
  | fuel + 1, listing => readListFrom fuel listing (listing = .script) none

def readListFrom : Nat → Listing → Bool → Option Command → Read (Option Command)
  | 0, _, _, before => pure before
  | fuel + 1, listing, mayEnd, before => do
    let newlines := listing ≠ .line
    expect { Checks.command with newlines }
    let token ← readToken fuel
    match token with
    | .newline => do
      readDocuments fuel
      pure (some (before.getD .nothing))
    | .endOfFile => do
      readDocuments fuel
      holdBack
      modify fun r => { r with last := .endOfFile }
      pure before
    | token =>
      holdBack
      if mayEnd && token.endsList then pure before
      else
        let c ← readAndOr fuel
        let token ← readToken fuel
        match token with
        | .background =>
          readListFrom fuel listing newlines (some (sequenceOf before (inBackground c)))
        | .semicolon => readListFrom fuel listing newlines (some (sequenceOf before c))
        | .newline | .endOfFile => do
          holdBack
          readListFrom fuel listing newlines (some (sequenceOf before c))
        | _ =>
          if listing = .line then unexpected []
          else
            holdBack
            pure (some (sequenceOf before c))

def readBody : Nat → Read Command
  | 0 => pure .nothing
  | fuel + 1 => do pure ((← readList fuel .body).getD .nothing)

def readAndOr : Nat → Read Command
  | 0 => pure .nothing
  | fuel + 1 => do readAndOrFrom fuel (← readPipeline fuel)

def readAndOrFrom : Nat → Command → Read Command
  | 0, c => pure c
  | fuel + 1, c => do
    match ← readToken fuel with
    | .both =>
      expect .command
      readAndOrFrom fuel (.both c (← readPipeline fuel))
    | .either =>
      expect .command
      readAndOrFrom fuel (.either c (← readPipeline fuel))
    | _ =>
      holdBack
      pure c

def readPipeline : Nat → Read Command
  | 0 => pure .nothing
  | fuel + 1 => do
    let negated := (← readToken fuel).isKeyword "!"
    if negated then expect { Checks.command with newlines := false } else holdBack
    let first ← readCommand fuel
    let c ← match ← readToken fuel with
      | .pipe => readStages fuel [first]
      | _ => do
        holdBack
        pure first
    pure (if negated then .negated c else c)

/-- The commands of a pipeline after the first one. -/
def readStages : Nat → List Command → Read Command
  | 0, stages => pure (.pipeline false stages.reverse)
  | fuel + 1, stages => do
    expect .command
    let stages := (← readCommand fuel) :: stages
    match ← readToken fuel with
    | .pipe => readStages fuel stages
    | _ =>
      holdBack
      pure (.pipeline false stages.reverse)

def readKeyword : Nat → String → Read Unit
  | 0, _ => pure ()
  | fuel + 1, k => do
    if (← readToken fuel).isKeyword k then pure ()
    else unexpected ('"' :: k.toList ++ ['"'])

def readRedirections : Nat → List Redirection → Read (List Redirection)
  | 0, found => pure found.reverse
  | fuel + 1, found => do
    match ← readToken fuel with
    | .redirection descriptor arrow =>
      readRedirections fuel ((← readTarget fuel descriptor arrow) :: found)
    | _ =>
      holdBack
      pure found.reverse

def readWords : Nat → List Word → Read (List Word)
  | 0, found => pure found.reverse
  | fuel + 1, found => do
    match ← readToken fuel with
    | .word w => readWords fuel (w :: found)
    | _ => pure found.reverse

/-- The branches of a conditional after its first keyword. -/
def readConditional : Nat → Read Command
  | 0 => pure .nothing
  | fuel + 1 => do
    let condition ← readBody fuel
    readKeyword fuel "then"
    let positive ← readBody fuel
    let token ← readToken fuel
    if token.isKeyword "elif" then
      pure (.conditional condition positive (some (← readConditional fuel)))
    else if token.isKeyword "else" then
      pure (.conditional condition positive (some (← readBody fuel)))
    else
      holdBack
      pure (.conditional condition positive none)

/-- The patterns of a clause, the first of which is at hand. -/
def readPatterns : Nat → List Word → Read (List Word)
  | 0, found => pure found.reverse
  | fuel + 1, found => do
    let w : Word := match (← get).last with
      | .word w => w
      | .keyword t => [.text t]
      | _ => []
    match ← readToken fuel with
    | .pipe => do
      let _ ← readToken fuel
      readPatterns fuel (w :: found)
    | .closeParen => pure (w :: found).reverse
    | _ => unexpected "\")\""

def readClauses : Nat → List Clause → Read (List Clause)
  | 0, found => pure found.reverse
  | fuel + 1, found => do
    expect ⟨true, true, false, false⟩
    let token ← readToken fuel
    if token.isKeyword "esac" then pure found.reverse
    else
      match token with
      | .openParen => do
        let _ ← readToken fuel
      | _ => pure ()
      let patterns ← readPatterns fuel []
      let body := (← readList fuel .script).getD .nothing
      let found := .mk patterns body :: found
      expect ⟨true, true, false, false⟩
      match ← readToken fuel with
      | .endClause => readClauses fuel found
      | token =>
        if token.isKeyword "esac" then pure found.reverse else unexpected "\";;\""

def readLoopWords : Nat → Read (List Word)
  | 0 => pure []
  | fuel + 1 => do
    expect .command
    let token ← readToken fuel
    if token.isKeyword "in" then
      let words ← readWords fuel []
      match (← get).last with
      | .newline | .semicolon => pure words
      | _ => unexpected []
    else
      match token with
      | .semicolon => pure ()
      | _ => holdBack
      pure [allArguments]

def readLoopBody : Nat → Read Command
  | 0 => pure .nothing
  | fuel + 1 => do
    readKeyword fuel "do"
    let body ← readBody fuel
    readKeyword fuel "done"
    pure body

def readCommand : Nat → Read Command
  | 0 => pure .nothing
  | fuel + 1 => do
    let line := (← get).feed.line
    let token ← readToken fuel
    match token with
    | .word _ | .redirection _ _ =>
      holdBack
      readSimple fuel
    | .openParen =>
      let body ← readBody fuel
      match ← readToken fuel with
      | .closeParen => pure ()
      | _ => unexpected "\")\""
      expect ⟨false, true, true, false⟩
      pure (.subshell line body (← readRedirections fuel []))
    | .keyword t =>
      let c ← match String.ofList t with
        | "if" => do
          let c ← readConditional fuel
          readKeyword fuel "fi"
          pure c
        | "while" => do
          let condition ← readBody fuel
          pure (.loop false condition (← readLoopBody fuel))
        | "until" => do
          let condition ← readBody fuel
          pure (.loop true condition (← readLoopBody fuel))
        | "for" => do
          match (← readToken fuel) with
          | .word w =>
            match (Word.bare? w).filter isName with
            | none => misread "Bad for loop variable"
            | some name =>
              let words ← readLoopWords fuel
              expect .command
              pure (.forEach line name words (← readLoopBody fuel))
          | _ => misread "Bad for loop variable"
        | "case" => do
          match ← readToken fuel with
          | .word w =>
            expect .command
            readKeyword fuel "in"
            pure (.choice line w (← readClauses fuel []))
          | _ => unexpected "word"
        | "\x7b" => do
          let c ← readBody fuel
          readKeyword fuel "\x7d"
          pure c
        | _ => unexpected []
      expect ⟨false, true, true, false⟩
      let redirections ← readRedirections fuel []
      pure (if redirections.isEmpty then c else .redirected line c redirections)
    | _ => unexpected []

def readSimple : Nat → Read Command
  | 0 => pure .nothing
  | fuel + 1 => do
    let line := (← get).feed.line
    readSimpleFrom fuel line [] [] []

/-- The rest of a simple command; what was read of it comes latest first. -/
def readSimpleFrom : Nat → Nat → List Word → List Word → List Redirection → Read Command
  | 0, _, _, _, _ => pure .nothing
  | fuel + 1, line, assignments, words, redirections => do
    expect ⟨false, false, words.isEmpty, false⟩
    let finished : Command :=
      .simple line assignments.reverse words.reverse redirections.reverse
    match ← readToken fuel with
    | .word w =>
      if words.isEmpty && isAssignment w then
        readSimpleFrom fuel line (w :: assignments) words redirections
      else readSimpleFrom fuel line assignments (w :: words) redirections
    | .redirection descriptor arrow =>
      let r ← readTarget fuel descriptor arrow
      readSimpleFrom fuel line assignments words (r :: redirections)
    | .openParen =>
      match assignments, words, redirections with
      | [], [w], [] =>
        match ← readToken fuel with
        | .closeParen =>
          match (Word.bare? w).filter fun t => isName t && !specialBuiltins.contains t with
          | none => misread "Bad function name"
          | some name =>
            expect .command
            let line := (← get).feed.line
            pure (.define line name (← readCommand fuel))
        | _ => unexpected "\")\""
      | _, _, _ =>
        holdBack
        pure finished
    | _ =>
      holdBack
      pure finished

end

def readerOf (aliases : List (Text × Text)) (count line : Nat) (t : Text) : Reader :=
  ⟨.ofText line t, false, .newline, .none, [], [], count, aliases, []⟩

/-- What comes of reading the next commands. -/
inductive Reading
  | commands (c : Command)
  | ended
  | failed (message : Text)

/-- Read the commands of the next line, with the lines that belong to it. -/
def readLine (aliases : List (Text × Text)) (count line : Nat) (t : Text) : Reading × Reader :=
  match readList longest .line (readerOf aliases count line t) with
  | .ok (some c) r => (.commands c, r)
  | .ok none r => (.ended, r)
  | .error message r => (.failed message, r)

/-- Read a text as if it were the text of a here-document. -/
def readPrompt (t : Text) : Option Word :=
  match readParts longest (.document none) [] (readerOf [] 0 1 t) with
  | .ok w _ => some w
  | .error _ _ => none

end Snippetry.Shell
