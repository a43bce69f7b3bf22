import Snippetry.Awk.Token

/-! # Reading awk programs: expressions, statements and rules

From the loosest to the tightest, these bind: assignment, choice, `||`, `&&`, `in`, matching,
comparison, concatenation, sums, products, signs and negation, commands to read from, powers, steps and
fields. -/
namespace Snippetry.Awk

def failing {α : Type} : Parser α := throw .program

/-- Pass over a token of a kind. -/
def pass (isWanted : Token → Bool) : Parser Unit := do
  if isWanted (← get).token then advance else unexpectedToken

def Token.isOpenParen : Token → Bool
  | openParen => true
  | _ => false

def Token.isCloseParen : Token → Bool
  | closeParen => true
  | _ => false

def Token.isCloseBracket : Token → Bool
  | closeBracket => true
  | _ => false

def Token.isColon : Token → Bool
  | colon => true
  | _ => false

def Token.isComma : Token → Bool
  | comma => true
  | _ => false

def Token.isSemicolon : Token → Bool
  | semicolon => true
  | _ => false

def Token.isKeyword (name : Text) : Token → Bool
  | keyword t => t = name
  | _ => false

/-- Pass over a closing parenthesis and the line ends after it. -/
def passCondition : Parser Unit := do
  if (← get).token.isCloseParen then
    modify (Reader.skipping true)
    advance
  else unexpectedToken

/-! ## Names -/

def Usage.title : Usage → Text
  | .unknown => "name"
  | .variable => "variable"
  | .table => "array"

def useAs (usage : Usage) (name : Text) : Parser Unit := do
  let r ← get
  match r.locals.lookup name with
  | some old =>
    if old = .unknown then set { r with locals := (name, usage) :: r.locals }
    else if old ≠ usage then note ("illegal reference to local " ++ old.title ++ " " ++ name)
  | none =>
    let old := (r.globals.lookup name).getD .unknown
    if old = .unknown then set { r with globals := (name, usage) :: r.globals }
    else if old ≠ usage then note ("illegal reference to " ++ old.title ++ " " ++ name)

/-- The regular expression of a text in the program. -/
def regexOf (t : Text) : Parser Expr := do
  match Regex.ofText? t with
  | .ok r => pure (.regex r)
  | .error fault =>
    note ("regular expression compile failed (" ++ fault.message ++ ")\n" ++ t)
    pure (.regex .never)

/-- A text that is used as a regular expression. -/
def asPattern : Expr → Parser Expr
  | .text t => regexOf t
  | e => pure e

/-! ## Expressions -/

/-- An operand may have a value that can be changed. -/
inductive Operand
  | value (e : Expr)
  | place (p : Place)

def Operand.toExpr : Operand → Expr
  | value e => e
  | place p => .read p

/-- An expression in parentheses can be changed if it is a field, or if fields hang on it. -/
def Operand.inParens : Expr → Operand
  | .read (.field e) => place (.field e)
  | .read (.variable name) =>
    if fieldVariables.contains name then place (.variable name) else value (.read (.variable name))
  | e => value e

/-- Whether a token begins an operand that is put after another one. -/
def Token.beginsOperand : Token → Bool
  | number _ _ | text _ | name _ | function _ | builtin _ | openParen | dollar | field _ | not
  | step _ | regex _ => true
  | keyword t => t = ("getline" : Text)
  | _ => false

/-- Whether a token begins a field, or a variable on which fields hang. -/
def Token.isFieldLike : Token → Bool
  | dollar | field _ => true
  | name t => fieldVariables.contains t
  | _ => false

/-- The fewest and the most arguments. -/
def Builtin.arity : Builtin → Nat × Nat
  | rand => (0, 0)
  | srand | fflush | length => (0, 1)
  | close | cos | exp | int | log | sin | sqrt | system | tolower | toupper => (1, 1)
  | atan2 | index | matchPlace => (2, 2)
  | substr => (2, 3)
  | sprintf => (1, 255)

def builtin? (name : Text) : Option Builtin :=
  match String.ofList name with
  | "atan2" => some .atan2
  | "close" => some .close
  | "cos" => some .cos
  | "exp" => some .exp
  | "fflush" => some .fflush
  | "index" => some .index
  | "int" => some .int
  | "length" => some .length
  | "log" => some .log
  | "match" => some .matchPlace
  | "rand" => some .rand
  | "sin" => some .sin
  | "sprintf" => some .sprintf
  | "sqrt" => some .sqrt
  | "srand" => some .srand
  | "substr" => some .substr
  | "system" => some .system
  | "tolower" => some .tolower
  | "toupper" => some .toupper
  | _ => none

/-- A name that stands alone as an argument. -/
def loneName? : Parser (Option Text) := do
  let saved ← get
  match saved.token with
  | .name name =>
    advance
    let r ← get
    if r.token.isComma || r.token.isCloseParen then pure (some name)
    else
      set saved
      pure none
  | _ => pure none

mutual

/-- An expression of which the operators bind at least so tightly. -/
def exprAt : Nat → Nat → Parser Expr
  | 0, _ => failing
  | fuel + 1, least => do
    let a ← concatenation fuel
    operators fuel least a

def operators : Nat → Nat → Expr → Parser Expr
  | 0, _, _ => failing
  | fuel + 1, least, a => do
    match (← get).token with
    | .question =>
      if 1 < least then pure a
      else
        advance
        let b ← exprAt fuel 0
        pass Token.isColon
        let c ← exprAt fuel 1
        operators fuel least (.choice a b c)
    | .either =>
      if 2 < least then pure a
      else
        advance
        let b ← exprAt fuel 3
        operators fuel least (.either a b)
    | .both =>
      if 3 < least then pure a
      else
        advance
        let b ← exprAt fuel 4
        operators fuel least (.both a b)
    | .keyword ['i', 'n'] =>
      if 4 < least then pure a
      else
        let table ← tableAfterIn
        operators fuel least (.isKey [a] table)
    | .like negated =>
      if 5 < least then pure a
      else
        advance
        let b ← asPattern (← exprAt fuel 6)
        operators fuel least (.like negated a b)
    | .compare operator =>
      if 6 < least then pure a
      else
        advance
        let b ← exprAt fuel 7
        operators fuel least (.compare operator a b)
    | _ => pure a

def tableAfterIn : Parser Text := do
  advance
  match (← get).token with
  | .name name =>
    useAs .table name
    advance
    pure name
  | _ => unexpectedToken

def concatenation : Nat → Parser Expr
  | 0 => failing
  | fuel + 1 => do
    let a ← sum fuel true
    concatenated fuel a

def concatenated : Nat → Expr → Parser Expr
  | 0, _ => failing
  | fuel + 1, a => do
    if (← get).token.beginsOperand then
      let b ← sum fuel false
      concatenated fuel (.concat a b)
    else pure a

/-- A sum; at the front of an expression an assignment may stand in its place. -/
def sum : Nat → Bool → Parser Expr
  | 0, _ => failing
  | fuel + 1, atFront => do
    let a ← product fuel atFront
    summed fuel a

def summed : Nat → Expr → Parser Expr
  | 0, _ => failing
  | fuel + 1, a => do
    match (← get).token with
    | .arithmetic operator =>
      if operator = .add || operator = .subtract then
        advance
        let b ← product fuel false
        summed fuel (.arithmetic operator a b)
      else pure a
    | _ => pure a

def product : Nat → Bool → Parser Expr
  | 0, _ => failing
  | fuel + 1, atFront => do
    let a ← signed fuel atFront
    multiplied fuel a

def multiplied : Nat → Expr → Parser Expr
  | 0, _ => failing
  | fuel + 1, a => do
    match (← get).token with
    | .arithmetic operator =>
      if operator = .multiply || operator = .divide || operator = .remainder then
        advance
        let b ← signed fuel false
        multiplied fuel (.arithmetic operator a b)
      else pure a
    | _ => pure a

def signed : Nat → Bool → Parser Expr
  | 0, _ => failing
  | fuel + 1, atFront => do
    match (← get).token with
    | .not =>
      advance
      let e ← signed fuel false
      pure (.not e)
    | .arithmetic .add =>
      advance
      let e ← signed fuel false
      pure (.sign false e)
    | .arithmetic .subtract =>
      advance
      let e ← signed fuel false
      pure (.sign true e)
    | _ =>
      let e ← power fuel atFront
      piped fuel e

def piped : Nat → Expr → Parser Expr
  | 0, _ => failing
  | fuel + 1, e => do
    match (← get).token with
    | .pipe =>
      advance
      pass (Token.isKeyword "getline")
      let p ← placeToRead? fuel
      piped fuel (.getline (.command e) p)
    | _ => pure e

def power : Nat → Bool → Parser Expr
  | 0, _ => failing
  | fuel + 1, atFront => do
    let a ← stepped fuel atFront
    match (← get).token with
    | .arithmetic .power =>
      advance
      let b ← match (← get).token with
        | .not | .arithmetic .add | .arithmetic .subtract => signed fuel false
        | _ => power fuel false
      pure (.arithmetic .power a b)
    | _ => pure a

/-- An operand with a step or, at the front of an expression, an assignment after it. -/
def stepped : Nat → Bool → Parser Expr
  | 0, _ => failing
  | fuel + 1, atFront => do
    match ← operand fuel atFront with
    | .value e => pure e
    | .place p =>
      match (← get).token with
      | .step up =>
        advance
        pure (.step p up true)
      | .assign operator =>
        if atFront then
          advance
          let e ← exprAt fuel 0
          pure (.assign p operator e)
        else pure (.read p)
      | _ => pure (.read p)

def operand : Nat → Bool → Parser Operand
  | 0, _ => failing
  | fuel + 1, atFront => do
    match (← get).token with
    | .number x _ =>
      advance
      pure (.value (.number x))
    | .text t =>
      advance
      pure (.value (.text t))
    | .regex t =>
      let e ← regexOf t
      advance
      pure (.value e)
    | .openParen =>
      advance
      let e ← exprAt fuel 0
      if atFront && (← get).token.isComma then
        advance
        let more ← arguments fuel
        let table ← keysIn
        pure (.value (.isKey (e :: more) table))
      else
        pass Token.isCloseParen
        pure (Operand.inParens e)
    | .name name =>
      advance
      let p ← named fuel name
      pure (.place p)
    | .field n =>
      advance
      pure (.place (.field (.number (Float.ofNat n))))
    | .dollar =>
      advance
      let e ← fieldNumber fuel
      pure (.place (.field e))
    | .step up =>
      advance
      let p ← steppedPlace fuel
      pure (.value (.step p up false))
    | .function name =>
      let line := (← get).tokenLine
      advance
      pass Token.isOpenParen
      let es ← handed fuel name 0
      modify fun r => { r with calls := (name, es.length, line) :: r.calls }
      pure (.value (.call name es))
    | .builtin name =>
      advance
      let e ← applied fuel name
      pure (.value e)
    | .keyword ['g', 'e', 't', 'l', 'i', 'n', 'e'] =>
      modify fun r => { r with inGetline := true }
      advance
      let p ← placeToRead? fuel
      let source ← fileToRead fuel
      modify fun r => { r with inGetline := false }
      pure (.value (.getline source p))
    | _ => unexpectedToken

/-- What is changed by a step before it. In parentheses it is a field. -/
def steppedPlace : Nat → Parser Place
  | 0 => failing
  | fuel + 1 => do
    match (← get).token with
    | .openParen =>
      advance
      if (← get).token.isFieldLike then
        let p ← steppedPlace fuel
        pass Token.isCloseParen
        pure p
      else unexpectedToken
    | .name _ | .dollar | .field _ =>
      match ← operand fuel false with
      | .place p => pure p
      | .value _ => unexpectedToken
    | _ => unexpectedToken

/-- The table after several keys in parentheses. -/
def keysIn : Parser Text := do
  pass Token.isCloseParen
  if (← get).token.isKeyword "in" then tableAfterIn else unexpectedToken

/-- What a name stands for, which is an element if keys follow it. -/
def named : Nat → Text → Parser Place
  | 0, _ => failing
  | fuel + 1, name => do
    match (← get).token with
    | .openBracket =>
      if fieldVariables.contains name then unexpectedToken
      else
        useAs .table name
        advance
        let keys ← arguments fuel
        pass Token.isCloseBracket
        pure (.element name keys)
    | _ =>
      useAs .variable name
      pure (.variable name)

/-- The number of a field after its sign. A step belongs to it if it is a field itself. -/
def fieldNumber : Nat → Parser Expr
  | 0 => failing
  | fuel + 1 => do
    let t := (← get).token
    if t.isFieldLike then stepped fuel false
    else match t with
      | .not | .arithmetic .add | .arithmetic .subtract => signed fuel false
      | _ => do pure (← operand fuel false).toExpr

def placeToRead? : Nat → Parser (Option Place)
  | 0 => failing
  | fuel + 1 => do
    match (← get).token with
    | .name _ | .dollar | .field _ =>
      match ← operand fuel false with
      | .place p => pure (some p)
      | .value _ => unexpectedToken
    | _ => pure none

def fileToRead : Nat → Parser Source
  | 0 => failing
  | fuel + 1 => do
    match (← get).token with
    | .fromFile =>
      advance
      let e ← match (← get).token with
        | .not | .arithmetic .add | .arithmetic .subtract => signed fuel false
        | _ => power fuel false
      pure (.file e)
    | _ => pure .main

/-- Expressions between commas. -/
def arguments : Nat → Parser (List Expr)
  | 0 => failing
  | fuel + 1 => do
    let e ← exprAt fuel 0
    if (← get).token.isComma then
      advance
      let es ← arguments fuel
      pure (e :: es)
    else pure [e]

/-- Arguments that are handed to a function, up to the closing parenthesis. -/
def handed : Nat → Text → Nat → Parser (List Expr)
  | 0, _, _ => failing
  | fuel + 1, callee, index => do
    if index = 0 && (← get).token.isCloseParen then
      advance
      pure []
    else
      let e ← match ← loneName? with
        | some name =>
          modify fun r => { r with handings := ⟨r.inside, callee, index, name⟩ :: r.handings }
          pure (.read (.variable name))
        | none => exprAt fuel 0
      if (← get).token.isComma then
        advance
        let es ← handed fuel callee (index + 1)
        pure (e :: es)
      else
        pass Token.isCloseParen
        pure [e]

def applied : Nat → Text → Parser Expr
  | 0, _ => failing
  | fuel + 1, name => do
    let isOpen := (← get).token.isOpenParen
    match String.ofList name with
    | "length" =>
      if !isOpen then pure (.builtin .length [])
      else
        advance
        if (← get).token.isCloseParen then
          advance
          pure (.builtin .length [])
        else
          let e ← match ← loneName? with
            | some name => pure (.read (.variable name))
            | none => exprAt fuel 0
          pass Token.isCloseParen
          pure (.builtin .length [e])
    | "split" =>
      pass Token.isOpenParen
      let e ← exprAt fuel 0
      pass Token.isComma
      match (← get).token with
      | .name table =>
        useAs .table table
        advance
        if (← get).token.isComma then
          advance
          let separator ← exprAt fuel 0
          match separator with
          | .text t => if 1 < t.length then let _ ← regexOf t
          | _ => pure ()
          pass Token.isCloseParen
          pure (.split e table (some separator))
        else
          pass Token.isCloseParen
          pure (.split e table none)
      | _ => unexpectedToken
    | "sub" | "gsub" =>
      pass Token.isOpenParen
      let pattern ← asPattern (← exprAt fuel 0)
      pass Token.isComma
      let replacement ← exprAt fuel 0
      let p ← if (← get).token.isComma then do
          advance
          match ← placeToRead? fuel with
          | some p => pure p
          | none => unexpectedToken
        else pure (.field (.number 0))
      pass Token.isCloseParen
      pure (.replace (name = ("gsub" : Text)) pattern replacement p)
    | "match" =>
      pass Token.isOpenParen
      let e ← exprAt fuel 0
      pass Token.isComma
      let pattern ← asPattern (← exprAt fuel 0)
      pass Token.isCloseParen
      pure (.builtin .matchPlace [e, pattern])
    | _ =>
      pass Token.isOpenParen
      let es ← if (← get).token.isCloseParen then pure [] else arguments fuel
      match builtin? name with
      | none => unexpectedToken
      | some f =>
        if es.length < f.arity.1 || f.arity.2 < es.length then
          note ("wrong number of arguments in call to " ++ name)
        pass Token.isCloseParen
        pure (.builtin f es)

end

/-- A bound on how far a text leads into the rules above. -/
def depthFor (r : Reader) : Nat := 16 * r.rest.length + 256

def expr : Parser Expr := do exprAt (depthFor (← get)) 0

/-! ## Statements -/

def passSeparator : Parser Unit := do
  if (← get).token.isSeparator then
    modify fun r => { r with inPrint := false }
    advance
  else unexpectedToken

/-- Pass over the rest of a statement that cannot be read, and forget what it began. -/
def passRest : Nat → Parser Unit
  | 0 => failing
  | fuel + 1 => do
    match (← get).token with
    | .endOfFile => failing
    | t =>
      if t.isSeparator then
        modify fun r => { r with parens := 0, inPrint := false, inGetline := false }
        advance
      else
        advance
        passRest fuel

def passStatement : Parser Unit := do passRest (depthFor (← get))

def optionalExpr : Parser (Option Expr) := do
  if (← get).token.isSeparator then pure none
  else do pure (some (← expr))

/-- The expressions of a print statement, which may stand in parentheses. -/
def printed : Parser (List Expr) := do
  let saved ← get
  let isEmpty : Bool := match saved.token with
    | .redirection _ => true
    | t => t.isSeparator
  if isEmpty then pure []
  else
    let inParens : Parser (Option (List Expr)) := do
      advance
      let es ← arguments (depthFor saved)
      pass Token.isCloseParen
      if es.length < 2 || (← get).token.isKeyword "in" then
        set saved
        pure none
      else pure (some es)
    let found ← if saved.token.isOpenParen then
        tryCatch inParens fun _ => do
          set saved
          pure none
      else pure none
    match found with
    | some es => pure es
    | none => arguments (depthFor saved)

def target : Parser (Option (Redirection × Expr)) := do
  match (← get).token with
  | .redirection r =>
    advance
    let e ← expr
    pure (some (r, e))
  | _ => pure none

def inLoop {α : Type} (body : Parser α) : Parser α := do
  modify fun r => { r with loops := r.loops + 1 }
  let result ← body
  modify fun r => { r with loops := r.loops - 1 }
  pure result

def leaving (name : Text) (s : Stmt) : Parser Stmt := do
  if (← get).loops = 0 then
    note (name ++ " statement outside of loop")
    failing
  else
    advance
    passSeparator
    pure s

def forRecords (name : Text) (s : Stmt) : Parser Stmt := do
  if !(← get).isForRecords then note ("improper use of " ++ name)
  advance
  passSeparator
  pure s

def condition : Parser Expr := do
  advance
  pass Token.isOpenParen
  let e ← expr
  passCondition
  pure e

def printStatement (formatted : Bool) : Parser Stmt := do
  advance
  let es ← printed
  let t ← target
  passSeparator
  if formatted then
    if es.isEmpty then note "no arguments in call to printf"
    pure (.printf es t)
  else pure (.print es t)

def deletion : Parser Stmt := do
  advance
  match (← get).token with
  | .name table =>
    useAs .table table
    advance
    let keys ← match (← get).token with
      | .openBracket => do
        advance
        let keys ← arguments (depthFor (← get))
        pass Token.isCloseBracket
        pure (some keys)
      | _ => pure none
    passSeparator
    pure (.delete table keys)
  | _ => unexpectedToken

/-- The variable and the table of a loop over keys. -/
def keyLoop? : Parser (Option (Text × Text)) := do
  let saved ← get
  match saved.token with
  | .name name =>
    advance
    if (← get).token.isKeyword "in" then
      advance
      match (← get).token with
      | .name table =>
        advance
        if (← get).token.isCloseParen then
          useAs .variable name
          useAs .table table
          passCondition
          pure (some (name, table))
        else unexpectedToken
      | _ => unexpectedToken
    else
      set saved
      pure none
  | _ => pure none

def counts : Parser (Option Expr × Option Expr × Option Expr) := do
  let upTo (isEnd : Token → Bool) : Parser (Option Expr) := do
    if isEnd (← get).token then pure none else do pure (some (← expr))
  let first ← upTo Token.isSemicolon
  pass Token.isSemicolon
  let c ← upTo Token.isSemicolon
  pass Token.isSemicolon
  let next ← upTo Token.isCloseParen
  passCondition
  pure (first, c, next)

mutual

/-- A statement. One that cannot be read is passed over. -/
def statement : Nat → Parser Stmt
  | 0 => failing
  | fuel + 1 => do
    tryCatch (readStatement fuel) fun
      | .program => failing
      | .statement => do
        passStatement
        pure .nothing

def readStatement : Nat → Parser Stmt
  | 0 => failing
  | fuel + 1 => do
    match (← get).token with
    | .openBrace =>
      let body ← block fuel
      pure (.block body)
    | .keyword name =>
      match String.ofList name with
      | "if" =>
        let c ← condition
        let positive ← statement fuel
        if (← get).token.isKeyword "else" then
          advance
          let negative ← statement fuel
          pure (.conditional c positive (some negative))
        else pure (.conditional c positive none)
      | "while" =>
        let c ← condition
        let body ← inLoop (statement fuel)
        pure (.loop c body)
      | "do" =>
        advance
        let body ← inLoop (statement fuel)
        conditionAfter fuel body
      | "for" =>
        advance
        pass Token.isOpenParen
        match ← keyLoop? with
        | some (name, table) =>
          let body ← inLoop (statement fuel)
          pure (.forKeys (.variable name) table body)
        | none =>
          let (first, c, next) ← counts
          let body ← inLoop (statement fuel)
          pure (.counted first c next body)
      | "print" => printStatement false
      | "printf" => printStatement true
      | "delete" => deletion
      | "next" => forRecords name .next
      | "nextfile" => forRecords name .nextFile
      | "break" => leaving name .leaveLoop
      | "continue" => leaving name .nextRound
      | "exit" =>
        advance
        let e ← optionalExpr
        passSeparator
        pure (.exit e)
      | "return" =>
        if (← get).inside.isNone then note "return outside function body"
        advance
        let e ← optionalExpr
        passSeparator
        pure (.leaveFunction e)
      | "getline" => expression
      | _ => unexpectedToken
    | t =>
      if t.isSeparator then
        passSeparator
        pure .nothing
      else expression

def expression : Parser Stmt := do
  let e ← expr
  passSeparator
  pure (.expr e)

/-- The condition after the body of a loop. What stands in its way counts as the body. -/
def conditionAfter : Nat → Stmt → Parser Stmt
  | 0, _ => failing
  | fuel + 1, body => do
    if (← get).token.isKeyword "while" then
      let c ← conditionBefore
      passSeparator
      pure (.loopAfter body c)
    else
      tryCatch unexpectedToken fun
        | .program => failing
        | .statement => passStatement
      conditionAfter fuel body

def conditionBefore : Parser Expr := do
  advance
  pass Token.isOpenParen
  let e ← expr
  pass Token.isCloseParen
  pure e

def block : Nat → Parser (List Stmt)
  | 0 => failing
  | fuel + 1 => do
    match (← get).token with
    | .openBrace =>
      advance
      statements fuel
    | _ => unexpectedToken

def statements : Nat → Parser (List Stmt)
  | 0 => failing
  | fuel + 1 => do
    match (← get).token with
    | .closeBrace =>
      advance
      pure []
    | _ =>
      let s ← statement fuel
      let ss ← statements fuel
      pure (s :: ss)

end

/-! ## Rules and functions -/

def action : Parser (List Stmt) := do block (depthFor (← get))

def parameters (function : Text) : Nat → Parser (List Text)
  | 0 => failing
  | fuel + 1 => do
    match (← get).token with
    | .name name =>
      if ((← get).locals.lookup name).isSome then
        note (name ++ " is duplicated in argument list")
      modify fun r => { r with locals := r.locals ++ [(name, .unknown)] }
      advance
      if (← get).token.isComma then
        advance
        let names ← parameters function fuel
        pure (name :: names)
      else pure [name]
    | .function name =>
      if name = function then note "function parameter cannot be the function"
      unexpectedToken
    | _ => unexpectedToken

/-- A function as it is read: whether parameters are tables is found out later. -/
structure Definition where
  name : Text
  parameters : List Text
  usages : List (Text × Usage)
  body : List Stmt

def definition (known : List Definition) : Parser Definition := do
  advance
  let name ← match (← get).token with
    | .name name => do
      useAs .unknown name
      pure name
    | .function name => pure name
    | _ => unexpectedToken
  if known.any fun d => d.name = name then note ("redefinition of " ++ name)
  modify fun r => { r with
    functions := if r.functions.contains name then r.functions else name :: r.functions }
  advance
  pass Token.isOpenParen
  let names ← if (← get).token.isCloseParen then pure []
    else parameters name (depthFor (← get))
  modify fun r => { r with inside := some name }
  passCondition
  let body ← action
  let r ← get
  set { r with inside := none, locals := [] }
  pure ⟨name, names, r.locals, body⟩

def rule : Parser Rule := do
  match (← get).token with
  | .keyword ['B', 'E', 'G', 'I', 'N'] =>
    advance
    let body ← action
    pure ⟨.begin, some body⟩
  | .keyword ['E', 'N', 'D'] =>
    advance
    let body ← action
    pure ⟨.finish, some body⟩
  | .openBrace =>
    modify fun r => { r with isForRecords := true }
    let body ← action
    pure ⟨.always, some body⟩
  | _ =>
    modify fun r => { r with isForRecords := true }
    let first ← expr
    let trigger ← if (← get).token.isComma then do
        advance
        let last ← expr
        modify fun r => { r with rangeCount := r.rangeCount + 1 }
        pure (.range (← get).rangeCount first last)
      else pure (.when first)
    match (← get).token with
    | .openBrace =>
      let body ← action
      pure ⟨trigger, some body⟩
    | _ =>
      passSeparator
      pure ⟨trigger, none⟩

/-- Pass over what cannot be read, up to the end of the next action. -/
def passRule : Nat → Parser Unit
  | 0 => failing
  | fuel + 1 => do
    match (← get).token with
    | .endOfFile => failing
    | .openBrace =>
      let _ ← action
      pure ()
    | _ =>
      advance
      passRule fuel

/-- Rules and functions up to the end of the text, the latest first. -/
def parts : Nat → List Rule → List Definition → Parser (List Rule × List Definition)
  | 0, _, _ => failing
  | fuel + 1, rules, definitions => do
    modify fun r => { r with inside := none, locals := [], isForRecords := false, loops := 0 }
    let part : Parser (List Rule × List Definition) := do
      match (← get).token with
      | .keyword name =>
        if name = ("function" : Text) then
          let d ← definition definitions
          pure (rules, d :: definitions)
        else do pure ((← rule) :: rules, definitions)
      | _ => do pure ((← rule) :: rules, definitions)
    match (← get).token with
    | .endOfFile => pure (rules, definitions)
    | _ =>
      let passed : Parser (List Rule × List Definition) := do
        modify fun r => { r with inside := none, locals := [] }
        passRule (depthFor (← get))
        pure (rules, definitions)
      let (rules, definitions) ← tryCatch part fun
        | .program => failing
        | .statement => passed
      parts fuel rules definitions

/-! ## Tables -/

/-- Whose name it is: that of a parameter, or one that all functions share. -/
def ownerOf (definitions : List Definition) (inside : Option Text) (name : Text) :
    Option Text × Text :=
  match inside.bind fun f => definitions.find? fun d => d.name = f with
  | some d => if d.parameters.contains name then (some d.name, name) else (none, name)
  | none => (none, name)

/-- Names are those of tables if they are handed to functions that use them as tables, and the other
way round. -/
def tablesFrom (definitions : List Definition) (handings : List Handing) :
    Nat → List (Option Text × Text) → List (Option Text × Text)
  | 0, known => known
  | fuel + 1, known =>
    let found := handings.foldl (fun known h =>
      let given := ownerOf definitions h.inside h.name
      let taken := (definitions.find? fun d => d.name = h.callee).bind fun d =>
        (d.parameters[h.index]?).map fun name => (some d.name, name)
      match taken with
      | none => known
      | some taken =>
        if known.contains given && !known.contains taken then taken :: known
        else if known.contains taken && !known.contains given then given :: known
        else known) known
    if found.length = known.length then known
    else tablesFrom definitions handings fuel found

def programOf (r : Reader) (rules : List Rule) (definitions : List Definition) : Program :=
  let used (owner : Option Text) (usages : List (Text × Usage)) : List (Option Text × Text) :=
    usages.filterMap fun (name, usage) => if usage = .table then some (owner, name) else none
  let direct := used none r.globals ++ definitions.flatMap fun d => used (some d.name) d.usages
  let tables := tablesFrom definitions r.handings (r.handings.length + 1) direct
  let functions := definitions.map fun d =>
    (d.name, ⟨d.parameters.map fun name => ⟨name, tables.contains (some d.name, name)⟩, d.body⟩)
  let shared := tables.filterMap fun (owner, name) => if owner.isNone then some name else none
  ⟨rules, functions, shared.eraseDups⟩

/-! ## Programs -/

def givenVariables : List Text :=
  ["ARGC", "CONVFMT", "FILENAME", "FNR", "FS", "NF", "NR", "OFMT", "OFS", "ORS", "RLENGTH", "RS",
   "RSTART", "SUBSEP"].map String.toList

def givenTables : List Text := ["ARGV", "ENVIRON"].map String.toList

/-- Complain about calls of what is no function, and about calls with too many arguments. -/
def noteCalls (definitions : List Definition) : List (Text × Nat × Nat) → Parser Unit
  | [] => pure ()
  | (name, count, line) :: calls => do
    match definitions.find? fun d => d.name = name with
    | none => note ("function " ++ name ++ " never defined")
    | some d =>
      if d.parameters.length < count then
        let last := (← get).tokenLine
        modify fun r => { r with tokenLine := line }
        note ("too many arguments in call to " ++ name)
        modify fun r => { r with tokenLine := last }
    noteCalls definitions calls

def wholeProgram : Parser Program := do
  advance
  let (rules, definitions) ← parts (depthFor (← get)) [] []
  if (← get).complaints.isEmpty then noteCalls definitions (← get).calls.reverse
  pure (programOf (← get) rules.reverse definitions.reverse)

/-- The program that a text describes, or what is wrong with it. Complaints begin with a name, and name
the file that the text comes from. -/
def programOf? (speaker : Text) (file : Option Text) (t : Text) : Except (List Text) Program :=
  let usages := givenVariables.map (·, Usage.variable) ++ givenTables.map (·, Usage.table)
  let (line, rest) := skip true (t.length + 1) 1 (t ++ ['\n'])
  let start : Reader := ⟨speaker, file, rest, line, .newline, 1, 0, 0, false, false, [], [], usages, [], none,
    [], [], false, 0, 0⟩
  match (wholeProgram : Parser Program) start with
  | (.ok p, r) => if r.complaints.isEmpty then .ok p else .error r.complaints.reverse
  | (.error _, r) => .error r.complaints.reverse

end Snippetry.Awk
