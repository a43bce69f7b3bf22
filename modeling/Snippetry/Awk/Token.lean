import Snippetry.Awk.Syntax

/-! # Reading awk programs: tokens

What a slash, a sign for greater or a bar means depends on what was read before it, and so does where a
statement ends. -/
namespace Snippetry.Awk

inductive Token
  | endOfFile | newline | semicolon
  /-- Before a closing brace without a separator. -/
  | impliedSemicolon
  | openBrace | closeBrace | openParen | closeParen | openBracket | closeBracket
  | comma | question | colon | both | either | not | pipe | dollar
  /-- Introduces the file that a record is read from. -/
  | fromFile
  | assign (operator : Option Arithmetic)
  | arithmetic (operator : Arithmetic)
  | compare (operator : Comparison)
  | like (negated : Bool)
  | step (up : Bool)
  | redirection (r : Redirection)
  | field (n : Nat)
  | number (x : Float) (shown : Text)
  | text (t : Text)
  | regex (t : Text)
  | name (t : Text)
  | function (name : Text)
  | builtin (name : Text)
  | keyword (name : Text)
  | unexpected (c : Char)

def Arithmetic.sign : Arithmetic → Text
  | add => ['+']
  | subtract => ['-']
  | multiply => ['*']
  | divide => ['/']
  | remainder => ['%']
  | power => ['^']

def Comparison.sign : Comparison → Text
  | less => ['<']
  | atMost => "<="
  | equal => "=="
  | unequal => "!="
  | greater => ['>']
  | atLeast => ">="

def Redirection.sign : Redirection → Text
  | write => ['>']
  | append => ">>"
  | pipe => ['|']

def fieldVariables : List Text := ["CONVFMT", "FS", "NF", "OFMT", "RS"].map String.toList

namespace Token

def title : Token → Text
  | endOfFile => "end of file"
  | newline => "end of line"
  | semicolon => [';']
  | impliedSemicolon | closeBrace => ['\x7d']
  | openBrace => ['\x7b']
  | openParen => ['(']
  | closeParen => [')']
  | openBracket => ['[']
  | closeBracket => [']']
  | comma => [',']
  | question => ['?']
  | colon => [':']
  | both => "&&"
  | either => "||"
  | not => ['!']
  | pipe => ['|']
  | dollar | field _ => ['$']
  | fromFile => ['<']
  | assign none => ['=']
  | assign (some operator) => operator.sign ++ ['=']
  | arithmetic operator => operator.sign
  | compare operator => operator.sign
  | like negated => if negated then "!~" else "~"
  | step up => if up then "++" else "--"
  | redirection r => r.sign
  | number _ shown => shown
  | name t => if fieldVariables.contains t then ['$'] else t
  | text t | function t | builtin t | keyword t => t
  | regex t => ('/' :: t) ++ ['/']
  | unexpected c => [c]

def isSeparator : Token → Bool
  | newline | semicolon | impliedSemicolon => true
  | _ => false

def isStep : Token → Bool
  | step _ => true
  | _ => false

/-- Whether a slash after the token divides. After a step it does not, and what follows the slash is
passed over. -/
def precedesDivision : Token → Bool
  | number _ _ | text _ | closeParen | name _ | regex _ | closeBracket | field _ => true
  | keyword t => t = ("getline" : Text)
  | _ => false

end Token

def keywords : List Text :=
  ["BEGIN", "END", "break", "continue", "delete", "do", "else", "exit", "for", "function", "getline",
   "if", "in", "next", "nextfile", "print", "printf", "return", "while"].map String.toList

def builtinNames : List Text :=
  ["atan2", "close", "cos", "exp", "fflush", "gsub", "index", "int", "length", "log", "match", "rand",
   "sin", "split", "sprintf", "sqrt", "srand", "sub", "substr", "system", "tolower", "toupper"].map
    String.toList

inductive Usage
  | unknown | variable | table
deriving DecidableEq, Repr

/-- A table or something else that is given to a function by its name. -/
structure Handing where
  /-- The function around the call. -/
  inside : Option Text
  callee : Text
  index : Nat
  name : Text

structure Reader where
  /-- The name that complaints begin with. -/
  speaker : Text
  /-- The file that the program is read from. -/
  file : Option Text
  rest : Text
  line : Nat
  token : Token
  tokenLine : Nat
  parens : Nat
  braces : Nat
  /-- Whether the signs for redirection mean one. -/
  inPrint : Bool
  /-- Whether the sign for less introduces a file. -/
  inGetline : Bool
  /-- The latest one comes first. -/
  complaints : List Text
  /-- Names of functions, as soon as they are called or defined. -/
  functions : List Text
  globals : List (Text × Usage)
  locals : List (Text × Usage)
  /-- The function that is being read. -/
  inside : Option Text
  handings : List Handing
  /-- Calls of functions: the name, the number of arguments and the line, the latest first. -/
  calls : List (Text × Nat × Nat)
  /-- Whether the action is one for records, and how many loops are around the statement. -/
  isForRecords : Bool
  loops : Nat
  rangeCount : Nat

/-- Why a part of a program cannot be read. -/
inductive Refusal
  /-- The rest of the statement is passed over. -/
  | statement
  /-- Nothing more is read. -/
  | program

abbrev Parser := ExceptT Refusal (StateM Reader)

/-- After so many complaints nothing more is read. -/
def mostComplaints : Nat := 5

def noteAt (place t : Text) : Parser Unit := do
  modify fun r => { r with complaints := (r.speaker ++ ": " ++ place ++ ": " ++ t) :: r.complaints }
  if mostComplaints ≤ (← get).complaints.length then throw .program

def note (t : Text) : Parser Unit := do
  let r ← get
  let file : Text := match r.file with
    | some file => file ++ ": "
    | none => []
  noteAt (file ++ "line " ++ Text.ofNat r.tokenLine) t

def unexpectedToken {α : Type} : Parser α := do
  let r ← get
  let isEnd : Bool := match r.token with
    | .endOfFile => true
    | t => t.isSeparator
  match r.token with
  | .unexpected c => noteAt (Text.ofNat r.tokenLine) ("unexpected character '" ++ [c] ++ ['\''])
  | t =>
    if isEnd && 0 < r.parens then note ("missing ) near " ++ t.title)
    else if r.braces = 0 then note ("syntax error at or near " ++ t.title)
    else match t with
      | .endOfFile => note ("missing \x7d near " ++ t.title)
      | t => note ("syntax error at or near " ++ t.title)
  throw .statement

/-! ## Blanks -/

def isBlank (c : Char) : Bool := c = ' ' || c = '\t' || ('\x0b' ≤ c && c ≤ '\r')

/-- Pass over blanks, comments and line ends after a backslash, and over all line ends if it is so
asked. -/
def skip (lines : Bool) : Nat → Nat → Text → Nat × Text
  | 0, line, t => (line, t)
  | fuel + 1, line, t =>
    match t with
    | '\n' :: rest => if lines then skip lines fuel (line + 1) rest else (line, t)
    | '#' :: rest => skip lines fuel line (rest.dropWhile (· ≠ '\n'))
    | '\\' :: rest =>
      match rest.dropWhile isBlank with
      | '\n' :: rest => skip lines fuel (line + 1) rest
      | _ => (line, t)
    | c :: rest => if isBlank c then skip lines fuel line rest else (line, t)
    | [] => (line, t)

namespace Reader

def skipping (lines : Bool) (r : Reader) : Reader :=
  let (line, rest) := skip lines (r.rest.length + 1) r.line r.rest
  { r with line, rest }

def passSemicolon (r : Reader) : Reader :=
  let s := r.skipping false
  match s.rest with
  | ';' :: rest => { s with rest }
  | _ => s

end Reader

/-! ## Tokens with a text of their own -/

/-- The text up to a quote as it stands, what follows, and how many lines were passed; `none` comes
with what was read if there is no quote on the line. -/
def quoted : Text → Text × Option (Text × Nat)
  | [] => ([], none)
  | '"' :: rest => ([], some (rest, 0))
  | '\n' :: _ => ([], none)
  | '\\' :: '\n' :: rest =>
    let (t, more) := quoted rest
    (t, more.map fun (rest, n) => (rest, n + 1))
  | '\\' :: c :: rest =>
    let (t, more) := quoted rest
    ('\\' :: c :: t, more)
  | c :: rest =>
    let (t, more) := quoted rest
    (c :: t, more)

/-- Replace what is escaped in a text; other backslashes stay. -/
def unescape : Nat → Text → Text
  | 0, t => t
  | fuel + 1, t =>
    match t with
    | [] => []
    | '\\' :: rest =>
      match Regex.escaped rest with
      | some (c, rest) => c :: unescape fuel rest
      | none => '\\' :: (rest.take 1 ++ unescape fuel (rest.drop 1))
    | c :: rest => c :: unescape fuel rest

def unescaped (t : Text) : Text := unescape (t.length + 1) t

/-- Where in a class of a regular expression the reading is. -/
inductive ClassPlace
  | outside | atFirst | inside
deriving DecidableEq

/-- A regular expression up to its slash, and what follows. -/
def regexText : ClassPlace → Text → Text × Option Text
  | _, [] => ([], none)
  | _, '\n' :: _ => ([], none)
  | place, '\\' :: '/' :: rest =>
    let (t, more) := regexText (if place = .atFirst then .inside else place) rest
    ('/' :: t, more)
  | place, '\\' :: c :: rest =>
    let (t, more) := regexText (if place = .atFirst then .inside else place) rest
    ('\\' :: c :: t, more)
  | place, c :: rest =>
    if c = '/' && place = .outside then ([], some rest)
    else
      let next : ClassPlace := match place, c with
        | .outside, '[' => .atFirst
        | .outside, _ => .outside
        | .atFirst, '^' => .atFirst
        | .atFirst, _ => .inside
        | .inside, ']' => .outside
        | .inside, _ => .inside
      let (t, more) := regexText next rest
      (c :: t, more)

/-- The digits of a number with a fraction and an exponent at the front of a text. -/
def numeral (t : Text) : Text :=
  let whole := t.takeWhile Char.isDigit
  let rest := t.drop whole.length
  let (fraction, rest) : Text × Text := match rest with
    | '.' :: rest =>
      let digits := rest.takeWhile Char.isDigit
      ('.' :: digits, rest.drop digits.length)
    | _ => ([], rest)
  let exponent : Text := match rest with
    | e :: rest =>
      if e = 'e' || e = 'E' then
        let sign := (rest.take 1).takeWhile fun c => c = '+' || c = '-'
        let digits := (rest.drop sign.length).takeWhile Char.isDigit
        if digits = [] then [] else e :: (sign ++ digits)
      else []
    | [] => []
  whole ++ fraction ++ exponent

def isNameStart (c : Char) : Bool := c.isAlpha || c = '_'

def isNameChar (c : Char) : Bool := c.isAlphanum || c = '_'

/-! ## The next token -/

def runaway {α : Type} (kind : Text) (mark : Char) (t : Text) : Parser α := do
  note ("runaway " ++ kind ++ " " ++ mark :: (t.take 10 ++ " ..."))
  throw .program

/-- Take a token of which the text goes on with `rest`. -/
def accept (token : Token) (rest : Text) : Parser Unit := modify fun r => { r with token, rest }

/-- Take a token after which line ends do not matter. -/
def acceptOpen (token : Token) (rest : Text) : Parser Unit :=
  modify fun r => { r with token, rest }.skipping true

/-- A name is a keyword, or a function if it is known as one or a parenthesis follows. -/
def scanName (t : Text) : Parser Unit := do
  let r ← get
  let name := t.takeWhile isNameChar
  let rest := t.drop name.length
  if keywords.contains name then
    accept (.keyword name) rest
    if name = ("print" : Text) || name = ("printf" : Text) then
      modify fun r => { r with inPrint := true }
    else if name = ("do" : Text) || name = ("else" : Text) then modify (Reader.skipping true)
  else if builtinNames.contains name then accept (.builtin name) rest
  else
    let isVariable := (r.locals.lookup name).isSome || (r.globals.lookup name).any (· ≠ .unknown)
    if !isVariable && (r.functions.contains name || rest.head? = some '(') then
      modify fun r => { r with functions := if r.functions.contains name then r.functions
        else name :: r.functions }
      accept (.function name) rest
    else accept (.name name) rest

def scanField (t : Text) : Parser Unit := do
  let digits := t.dropWhile isBlank
  let shown := numeral digits
  if (shown.head?.any Char.isDigit) || (shown.length > 1) then
    let x := match Floating.leading? shown with
      | some (x, _) => x
      | none => 0
    let n := x.toUInt64.toNat
    accept (.field n) (digits.drop shown.length)
    if Float.ofNat n != x then note ("$" ++ shown ++ " is invalid field index")
  else accept .dollar digits

def scanRegex (t : Text) : Parser Unit := do
  match regexText .outside t with
  | (source, some rest) => accept (.regex source) rest
  | (source, none) => runaway "regular expression" '/' source

/-- A closing brace ends the statement before it. -/
def scanClosingBrace (previous : Token) (rest : Text) : Parser Unit := do
  let r ← get
  let isEnded : Bool := match previous with
    | .closeBrace => true
    | t => t.isSeparator
  if isEnded then
    let r := { r with token := .closeBrace, braces := r.braces - 1, rest }
    set ((if r.braces = 0 then r.passSemicolon else r).skipping true)
  else accept .impliedSemicolon ('\x7d' :: rest)

def scanOperator (previous : Token) (t : Text) : Parser Unit := do
  let r ← get
  let arithmetic (operator : Arithmetic) (rest : Text) : Parser Unit := match rest with
    | '=' :: rest => accept (.assign (some operator)) rest
    | _ => accept (.arithmetic operator) rest
  match t with
  | '\x7b' :: rest =>
    modify fun r => { r with braces := r.braces + 1 }
    acceptOpen .openBrace rest
  | '(' :: rest =>
    modify fun r => { r with parens := r.parens + 1 }
    accept .openParen rest
  | ')' :: rest =>
    modify fun r => { r with parens := r.parens - 1 }
    accept .closeParen rest
  | '[' :: rest => accept .openBracket rest
  | ']' :: rest => accept .closeBracket rest
  | ',' :: rest => acceptOpen .comma rest
  | ';' :: rest => acceptOpen .semicolon rest
  | '?' :: rest => accept .question rest
  | ':' :: rest => accept .colon rest
  | '~' :: rest => accept (.like false) rest
  | '&' :: '&' :: rest => acceptOpen .both rest
  | '|' :: '|' :: rest => acceptOpen .either rest
  | '|' :: rest =>
    if r.inPrint && r.parens = 0 then
      modify fun r => { r with inPrint := false }
      accept (.redirection .pipe) rest
    else accept .pipe rest
  | '>' :: rest =>
    if r.inPrint && r.parens = 0 then
      modify fun r => { r with inPrint := false }
      match rest with
      | '>' :: rest => accept (.redirection .append) rest
      | _ => accept (.redirection .write) rest
    else match rest with
      | '=' :: rest => accept (.compare .atLeast) rest
      | _ => accept (.compare .greater) rest
  | '<' :: '=' :: rest => accept (.compare .atMost) rest
  | '<' :: rest =>
    if r.inGetline then
      modify fun r => { r with inGetline := false }
      accept .fromFile rest
    else accept (.compare .less) rest
  | '=' :: '=' :: rest => accept (.compare .equal) rest
  | '=' :: rest => accept (.assign none) rest
  | '!' :: '~' :: rest => accept (.like true) rest
  | '!' :: '=' :: rest => accept (.compare .unequal) rest
  | '!' :: rest => accept .not rest
  | '+' :: '+' :: rest => accept (.step true) rest
  | '-' :: '-' :: rest => accept (.step false) rest
  | '+' :: rest => arithmetic .add rest
  | '-' :: rest => arithmetic .subtract rest
  | '*' :: rest => arithmetic .multiply rest
  | '%' :: rest => arithmetic .remainder rest
  | '^' :: rest => arithmetic .power rest
  | '/' :: rest =>
    if previous.precedesDivision then arithmetic .divide rest
    else scanRegex (if previous.isStep && rest.head? ≠ some '=' then rest.tail else rest)
  | '$' :: rest => scanField rest
  | c :: rest => accept (.unexpected c) rest
  | [] => accept .endOfFile []

/-- Read the next token; closing brackets that nothing opened are passed over. -/
def advanceWith : Nat → Parser Unit
  | 0 => accept .endOfFile []
  | fuel + 1 => do
    let previous := (← get).token
    modify (Reader.skipping false)
    modify fun r => { r with tokenLine := r.line }
    let r ← get
    match r.rest with
    | '\n' :: rest => set ({ r with token := .newline, line := r.line + 1, rest }.skipping true)
    | ')' :: rest =>
      if r.parens = 0 then
        note "extra ')'"
        modify fun r => { r with rest }
        advanceWith fuel
      else scanOperator previous r.rest
    | '\x7d' :: rest =>
      if r.braces = 0 then
        note "extra '\x7d'"
        modify fun r => { r with rest }.passSemicolon
        advanceWith fuel
      else scanClosingBrace previous rest
    | '"' :: rest =>
      match quoted rest with
      | (t, some (rest, lines)) =>
        accept (.text (unescaped t)) rest
        modify fun r => { r with line := r.line + lines }
      | (t, none) => runaway "string constant" '"' t
    | c :: rest =>
      if c.isDigit || c = '.' && rest.head?.any Char.isDigit then
        let shown := numeral r.rest
        let x := match Floating.leading? shown with
          | some (x, _) => x
          | none => 0
        accept (.number x shown) (r.rest.drop shown.length)
      else if isNameStart c then scanName r.rest
      else scanOperator previous r.rest
    | [] => accept .endOfFile []

def advance : Parser Unit := do advanceWith ((← get).rest.length + 1)

end Snippetry.Awk
