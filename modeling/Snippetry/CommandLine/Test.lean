import Snippetry.CommandLine.Output
import Snippetry.CommandLine.Request
import Snippetry.TestDocument.Check
import Snippetry.TestDocument.Suite

/-! # Running test documents -/
namespace Snippetry.CommandLine

open TestDocument

inductive Failure
  | unreadable (e : FileError)
  | frontmatter (e : FrontmatterError)
  | mismatch (m : Mismatch)

def Failure.message : Failure → Text
  | unreadable e => "cannot read file: " ++ e.message
  | frontmatter e => "frontmatter error: " ++ e.message
  | mismatch m => m.message

structure Tested (σ : Type) where
  description : Option Text
  failure : Option Failure
  log : List Emission
  state : σ

def joinPath (directory name : Text) : Text :=
  if directory = [] || directory.getLast? = some '/' then directory ++ name
  else directory ++ '/' :: name

/-- What a test document without a description is called: its name without the ending. -/
def nameOfPath (path : Text) : Text :=
  let name := (Text.splitOn '/' path).getLastD []
  if isTestName name then name.take (name.length - ending.length) else ['?']

def paint (noColor : Bool) (code t : Text) : Text :=
  if noColor then t else "\x1b[" ++ code ++ "m" ++ t ++ "\x1b[0m"

section

variable {σ : Type} (host : Host σ) (noColor : Bool)

def testOne (path : Text) (state : σ) : Tested σ :=
  match (host.files state).read path with
  | .error e => ⟨none, some (.unreadable e), [], state⟩
  | .ok t =>
    match read t with
    | .error e => ⟨none, some (.frontmatter e), [], state⟩
    | .ok (e, source) =>
      let c := check host e source state
      ⟨e.description, match c.result with
        | .ok () => none
        | .error m => some (.mismatch m), c.log, c.state⟩

def resultLine (path : Text) (t : Tested σ) : Emission :=
  let word : Text :=
    if t.failure.isNone then paint noColor "32" "PASS" else paint noColor "31" "FAIL"
  .toldLine ("  " ++ word ++ "  " ++ t.description.getD (nameOfPath path))

structure Results (σ : Type) where
  passed : Nat
  failures : List (Text × Failure)
  emissions : List Emission
  state : σ

namespace Results

def none (state : σ) : Results σ := ⟨0, [], [], state⟩

def add (path : Text) (t : Tested σ) (r : Results σ) : Results σ :=
  { passed := r.passed + if t.failure.isNone then 1 else 0
    failures := r.failures ++ (t.failure.map fun f => (path, f)).toList
    emissions := r.emissions ++ t.log ++ [resultLine noColor path t]
    state := t.state }

end Results

/-- Test documents in turn, whatever comes of those before. -/
def testEach (r : Results σ) : List Text → Results σ
  | [] => r
  | path :: paths => testEach (r.add noColor path (testOne host path r.state)) paths

def testSuites (directory : Text) (r : Results σ) : List Suite → Results σ
  | [] => r
  | s :: suites =>
    let heading := [Emission.toldLine [], .toldLine (paint noColor "1" s.title)]
    let paths := s.documents.map fun l => joinPath directory (Text.join ['/'] l.names)
    let r := testEach host noColor { r with emissions := r.emissions ++ heading } paths
    testSuites directory r suites

def failureLines : Text × Failure → List Emission
  | (path, f) =>
    [.toldLine [], .toldLine ("  --- " ++ path ++ " ---")]
      ++ (Text.rows f.message).map fun row => .toldLine ("  " ++ row)

def conclude (r : Results σ) : Ended σ :=
  let failed := r.failures.length
  let listed : List Emission :=
    if failed = 0 then []
    else [.toldLine [], .toldLine "failures:"] ++ r.failures.flatMap failureLines
  let summary : Text :=
    if failed = 0 then
      paint noColor "32" "ok" ++ ". " ++ Text.ofNat r.passed ++ " passed, 0 failed"
    else
      paint noColor "31" "FAILED" ++ ". " ++ Text.ofNat r.passed ++ " passed, " ++ Text.ofNat failed
        ++ " failed (of " ++ Text.ofNat (r.passed + failed) ++ ")"
  ⟨.code (if failed = 0 then 0 else 1),
   r.emissions ++ listed ++ [.toldLine [], .toldLine ("test result: " ++ summary)], r.state⟩

/-- The suites below a path, and what is logged of looking for them. -/
def suitesAt (files : Files) (path : Text) : List Suite × List Emission :=
  match files.node? path with
  | .ok (.directory entries) => (findSuites (.directory entries), [])
  | _ => ([], [.logged (.directoryUnreadable path)])

def noDocuments (path : Text) : Emission := .toldLine ("no .test.md files found in " ++ path)

def categoryWarning (suites : List Suite) (category : Text) : Emission :=
  .toldLine ("warning: no test category '" ++ category ++ "' (known: "
    ++ Text.join ", " (suites.map Suite.title) ++ ")")

def runTests (args : TestArguments) (state : σ) : Ended σ :=
  let files := host.files state
  if files.isFile args.path then
    conclude noColor (testEach host noColor (.none state) [args.path])
  else
    let (suites, log) := suitesAt files args.path
    if suites = [] then ⟨.code 1, log ++ [noDocuments args.path], state⟩
    else
      let warnings := (unknownCategories args.categories suites).map (categoryWarning suites)
      let selected := selectSuites args.categories suites
      if selected = [] then
        ⟨.code 1, warnings ++ [.toldLine "no matching categories found"], state⟩
      else
        conclude noColor
          (testSuites host noColor args.path { Results.none state with emissions := warnings } selected)

def categoryLine (s : Suite) : Emission :=
  .toldLine ("  " ++ Text.padRight 24 s.title ++ " " ++ Text.ofNat s.documents.length ++ " test(s)")

def listCategories (files : Files) (path : Text) : List Emission :=
  if files.isFile path then [.toldLine (path ++ " is a single test document")]
  else
    let (suites, log) := suitesAt files path
    if suites = [] then log ++ [noDocuments path] else suites.map categoryLine

end

end Snippetry.CommandLine
