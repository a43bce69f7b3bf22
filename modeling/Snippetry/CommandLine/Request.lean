import Snippetry.CommandLine.Reader
import Snippetry.Config
import Snippetry.Table
import Snippetry.Selection

/-! # Requests: what a command line asks for -/
namespace Snippetry.CommandLine

structure DocumentArguments where
  file : Option Text
  ids : Option Selection
  lenient : Bool
  fences : Option FenceStyle
  config : Option Text
  dump : Bool

structure ShowArguments where
  document : DocumentArguments
  noNumbers : Bool
  noHeaders : Bool
  libraries : Bool

structure RunArguments where
  document : DocumentArguments
  env : List Assignment
  unbuffered : Bool
  terminal : Bool
  interactive : Bool
  /-- In seconds. -/
  timeout : Option Nat
  noShow : Bool
  noHeaders : Bool

structure TestArguments where
  path : Text
  categories : List Text
  listCategories : Bool

inductive Command
  | show (args : ShowArguments)
  | run (args : RunArguments)
  | list (args : DocumentArguments)
  | test (args : TestArguments)

structure Request where
  command : Command
  noColor : Bool
  verbosity : Nat

def DocumentArguments.none : DocumentArguments := ⟨.none, .none, false, .none, .none, false⟩

/-- The options of the whole program, which every command takes too. -/
structure Globals where
  noColor : Bool
  verbosity : Nat

namespace Globals

def none : Globals := ⟨false, 0⟩

/-- What is given after the command prevails. -/
def overlay (before after : Globals) : Globals :=
  ⟨before.noColor || after.noColor, if after.verbosity = 0 then before.verbosity else after.verbosity⟩

end Globals

/-! ## Options -/

/-- Set a value that may be given once. -/
def once {α β : Type} (get : α → Option β) (put : β → α → α) (read : Text → Except UsageError β) :
    Effect α :=
  .value fun word args =>
    if (get args).isSome then .error .repeated else do .ok (put (← read word) args)

/-- Raise a flag that may be given once. -/
def flag {α : Type} (get : α → Bool) (put : α → α) : Effect α :=
  .flag fun args => if get args then .error .repeated else .ok (put args)

def append {α β : Type} (put : β → α → α) (read : Text → Except UsageError β) : Effect α :=
  .value fun word args => do .ok (put (← read word) args)

def anyText (word : Text) : Except UsageError Text := .ok word

def nonempty (word : Text) : Except UsageError Text :=
  if word = [] then .error .invalidValue else .ok word

def selection (word : Text) : Except UsageError Selection :=
  match Selection.parse word with
  | .ok s => .ok s
  | .error _ => .error .malformedValue

def assignment (word : Text) : Except UsageError Assignment :=
  match Assignment.parse word with
  | .ok a => .ok a
  | .error _ => .error .malformedValue

/-- A number of seconds has 64 bits. -/
def seconds (word : Text) : Except UsageError Nat :=
  match Text.toBounded? 18446744073709551615 word with
  | some n => .ok n
  | none => .error .malformedValue

def fenceStyle (word : Text) : Except UsageError FenceStyle :=
  match FenceStyle.names.lookup word with
  | some style => .ok style
  | none => .error .invalidValue

/-- Verbosity counts to 255 and stays there. -/
def mostVerbose : Nat := 255

def globalOptions {α : Type} (get : α → Globals) (put : Globals → α → α) : List (Spelling α) :=
  [⟨none, "no-color", flag (fun a => (get a).noColor) fun a => put { get a with noColor := true } a⟩,
   ⟨some 'v', "verbose", .flag fun a =>
      .ok (put { get a with verbosity := min mostVerbose ((get a).verbosity + 1) } a)⟩]

def helpOption {α : Type} : Spelling α := ⟨some 'h', "help", .flag fun _ => .error .helpAsked⟩

def documentOptions {α : Type} (get : α → DocumentArguments) (put : DocumentArguments → α → α) :
    List (Spelling α) :=
  [⟨some 'i', "ids", once (fun a => (get a).ids) (fun ids a => put { get a with ids := ids } a)
      selection⟩,
   ⟨none, "lenient", flag (fun a => (get a).lenient) fun a => put { get a with lenient := true } a⟩,
   ⟨none, "fences", once (fun a => (get a).fences)
      (fun style a => put { get a with fences := style } a) fenceStyle⟩,
   ⟨some 'c', "config", once (fun a => (get a).config)
      (fun path a => put { get a with config := path } a) nonempty⟩,
   ⟨none, "dump", flag (fun a => (get a).dump) fun a => put { get a with dump := true } a⟩]

/-- The arguments of a command together with the options of the program. -/
structure Line (α : Type) where
  globals : Globals
  args : α

/-- The grammar of a command: its own options, those of the program, and help. -/
def grammar {α : Type} (options : List (Spelling (Line α))) (argument? : α → Option Text)
    (setArgument : Text → α → α) : Grammar (Line α) :=
  ⟨options ++ globalOptions Line.globals (fun globals l => { l with globals }) ++ [helpOption],
   fun l => argument? l.args, fun word l => { l with args := setArgument word l.args }⟩

def withDocument {α : Type} (get : α → DocumentArguments) (put : DocumentArguments → α → α)
    (options : List (Spelling (Line α))) : Grammar (Line α) :=
  grammar
    (documentOptions (fun l => get l.args) (fun d l => { l with args := put d l.args }) ++ options)
    (fun a => (get a).file) fun word a => put { get a with file := some word } a

def listGrammar : Grammar (Line DocumentArguments) := withDocument id (fun d _ => d) []

def lineFlag {α : Type} (get : α → Bool) (put : α → α) : Effect (Line α) :=
  flag (fun l => get l.args) fun l => { l with args := put l.args }

def showGrammar : Grammar (Line ShowArguments) :=
  withDocument ShowArguments.document (fun document a => { a with document })
    [⟨some 'N', "no-numbers", lineFlag ShowArguments.noNumbers fun a => { a with noNumbers := true }⟩,
     ⟨some 'H', "no-headers", lineFlag ShowArguments.noHeaders fun a => { a with noHeaders := true }⟩,
     ⟨none, "libs", lineFlag ShowArguments.libraries fun a => { a with libraries := true }⟩]

def runGrammar : Grammar (Line RunArguments) :=
  withDocument RunArguments.document (fun document a => { a with document })
    [⟨some 'e', "env",
        append (fun v l => { l with args := { l.args with env := l.args.env ++ [v] } }) assignment⟩,
     ⟨some 'u', "unbuffered", lineFlag RunArguments.unbuffered fun a => { a with unbuffered := true }⟩,
     ⟨some 'z', "tempfile", lineFlag RunArguments.terminal fun a => { a with terminal := true }⟩,
     ⟨none, "interactive", lineFlag RunArguments.interactive fun a => { a with interactive := true }⟩,
     ⟨none, "timeout", once (fun l => l.args.timeout)
        (fun n l => { l with args := { l.args with timeout := some n } }) seconds⟩,
     ⟨some 'S', "no-show", lineFlag RunArguments.noShow fun a => { a with noShow := true }⟩,
     ⟨some 'H', "no-headers", lineFlag RunArguments.noHeaders fun a => { a with noHeaders := true }⟩]

/-- The words of the test command; it cannot do without a path. -/
structure TestWords where
  path : Option Text
  categories : List Text
  listCategories : Bool

def testGrammar : Grammar (Line TestWords) :=
  grammar
    [⟨some 'c', "category", append (fun category l =>
        { l with args := { l.args with categories := l.args.categories ++ [category] } }) anyText⟩,
     ⟨none, "list-categories",
        lineFlag TestWords.listCategories fun a => { a with listCategories := true }⟩]
    TestWords.path fun word a => { a with path := some word }

/-! ## Commands -/

inductive CommandName
  | show | run | list | test | help
deriving DecidableEq, Repr

def CommandName.words : List (Text × CommandName) :=
  [("show", .show), ("run", .run), ("list", .list), ("test", .test), ("help", .help)]

/-- Read what stands after a command's name. -/
def readCommand (name : CommandName) (words : List Text) : Except UsageError (Globals × Command) :=
  match name with
  | .show => do
    let l ← showGrammar.read ⟨.none, .none, false, false, false⟩ words
    .ok (l.globals, .show l.args)
  | .run => do
    let l ← runGrammar.read ⟨.none, .none, [], false, false, false, none, false, false⟩ words
    if l.args.interactive ∧ ¬ l.args.terminal then .error .missingArgument
    else .ok (l.globals, .run l.args)
  | .list => do
    let l ← listGrammar.read ⟨.none, .none⟩ words
    .ok (l.globals, .list l.args)
  | .test => do
    let l ← testGrammar.read ⟨.none, none, [], false⟩ words
    match l.args.path with
    | none => .error .missingArgument
    | some path => .ok (l.globals, .test ⟨path, l.args.categories, l.args.listCategories⟩)
  | .help =>
    match words with
    | [] => .error .helpAsked
    | [word] =>
      if (CommandName.words.lookup word).isSome then .error .helpAsked else .error .unknownCommand
    | _ => .error .unknownCommand

/-- The options before the name of the command, one after another. -/
def readWords (globals : Globals) : List Text → Except UsageError Request
  | [] => .error .nothingAsked
  | word :: words =>
    match CommandName.words.lookup word with
    | some name => do
      let (after, command) ← readCommand name words
      let globals := globals.overlay after
      .ok ⟨command, globals.noColor, globals.verbosity⟩
    | none => do
      let options := globalOptions id (fun globals _ => globals) ++
        [helpOption, ⟨some 'V', "version", .flag fun _ => .error .versionAsked⟩]
      let globals ← Grammar.read ⟨options, fun _ => some [], fun _ g => g⟩ globals [word]
      readWords globals words

/-! ## The command that goes without saying -/

def isGlobalOption (word : Text) : Bool :=
  word = ("--no-color" : Text) || word = ("--verbose" : Text) ||
    match word with
    | '-' :: 'v' :: letters => letters.all (· = 'v')
    | _ => false

def asksForCommand (word : Text) : Bool :=
  (CommandName.words.lookup word).isSome ||
    (["-h", "--help", "-V", "--version"].map String.toList).contains word

/-- Without a command the document is shown. The first word is the name of the program. -/
def insertCommand (words : List Text) : List Text :=
  match words.tail.find? (!isGlobalOption ·) with
  | some word => if asksForCommand word then words else insertShow words
  | none => insertShow words
where
  insertShow : List Text → List Text
    | [] => ["show"]
    | program :: words => program :: "show" :: words

def Request.parse (words : List Text) : Except UsageError Request := readWords .none words.tail

/-! ## How a run is set up -/

/-- The arguments prevail over the configuration. -/
def RunArguments.options (args : RunArguments) (config : Config) : RunOptions where
  mode := if args.terminal then .terminal else config.mode
  env := config.env.insertAll (args.env.map fun a => (a.key, a.value))
  unbuffered := args.unbuffered || config.unbuffered
  timeout := (args.timeout <|> config.timeoutSeconds).map (1000 * ·)
  cancelled := none
  interactive := args.interactive
  interpreters := config.interpreters

end Snippetry.CommandLine
