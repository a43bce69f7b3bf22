import Snippetry.Utility.Lines

/-! # Programs about names, numbers, time and the surroundings -/
namespace Snippetry.Utility

def succeed : Tool := fun _ _ => pure 0

def fail : Tool := fun _ _ => pure 1

def echo : Tool := fun _ arguments => do
  match arguments with
  | ['-', 'n'] :: rest => say (Text.join [' '] rest)
  | _ => say (Text.join [' '] arguments ++ ['\n'])
  pure 0

/-! ## Time -/

/-- Milliseconds of a number that may have a unit. -/
def milliseconds? (t : Text) : Option Nat :=
  match Floating.unsigned? t with
  | none => none
  | some (x, rest) =>
    let factor : Option Float := match rest with
      | [] | ['s'] => some 1000
      | ['m'] => some 60000
      | ['h'] => some 3600000
      | ['d'] => some 86400000
      | _ => none
    factor.bind fun f =>
      if x.isNaN then none
      else if x.isInf then some forever
      else some (min forever (x * f).ceil.toUInt64.toNat)

def sleep : Tool := fun name arguments => do
  match arguments with
  | [] => refuse name "missing operand" 1
  | ('-' :: c :: _) :: _ => refuse name ("invalid option -- '" ++ [c] ++ "'") 1
  | _ =>
    let wrong := arguments.filter fun t => (milliseconds? t).isNone
    if wrong.isEmpty then
      let length := arguments.foldl (fun n t => n + (milliseconds? t).getD 0) 0
      modify fun p => p.waitUntil (p.clock + length)
      pure 0
    else
      wrong.forM fun t => complain name ("invalid time interval " ++ '\'' :: t ++ ['\''])
      let _ ← Process.write 2 ("Try '" ++ name ++ " --help' for more information.\n")
      pure 1

/-! ## Numbers and names -/

def sequence (first step last : Int) : List Text :=
  if step = 0 then []
  else (List.range (((last - first).fdiv step + 1).toNat)).map fun (n : Nat) =>
    Integer.toText (first + step * n)

def seq : Tool := fun name arguments => do
  match arguments.filterMap (Integer.whole? (some 10)) with
  | [last] =>
    say (unlines (sequence 1 1 last))
    pure 0
  | [first, last] =>
    say (unlines (sequence first 1 last))
    pure 0
  | [first, step, last] =>
    say (unlines (sequence first step last))
    pure 0
  | _ => refuse name "missing operand" 1

def baseName (t : Text) : Text := ((Text.splitOn '/' t).filter (· ≠ [])).getLastD ['/']

def dirName (t : Text) : Text :=
  match (Text.splitOn '/' t).dropLast with
  | [] => ['.']
  | [[]] => ['/']
  | parts => Text.join ['/'] parts

def basename : Tool := fun name arguments => do
  match arguments with
  | [t] =>
    say (baseName t ++ ['\n'])
    pure 0
  | [t, ending] =>
    let base := baseName t
    let cut := ending.isSuffixOf base && ending ≠ base
    say ((if cut then base.take (base.length - ending.length) else base) ++ ['\n'])
    pure 0
  | _ => refuse name "missing operand" 1

def dirname : Tool := fun name arguments => do
  match arguments with
  | [] => refuse name "missing operand" 1
  | _ =>
    say (arguments.flatMap fun t => dirName t ++ ['\n'])
    pure 0

/-! ## Surroundings -/

def environmentText (p : Process) : Text :=
  p.environment.flatMap fun (k, v) => k ++ "=" ++ v ++ "\n"

def env : Tool := fun _ _ => do
  say (environmentText (← get))
  pure 0

def printenv : Tool := fun _ arguments => do
  let p ← get
  match arguments with
  | [] =>
    say (environmentText p)
    pure 0
  | name :: _ =>
    match p.environment.lookup name with
    | some v =>
      say (v ++ ['\n'])
      pure 0
    | none => pure 1

def ls : Tool := fun name arguments => do
  let path := arguments.headD ['.']
  match (← get).files.node? (decodePath path) with
  | .ok (.directory entries) =>
    let names := entries.map fun (n, _) => encodePath n
    say (unlines (sortLines (· < ·) (names.filter fun n => n.head? ≠ some '.')))
    pure 0
  | .ok _ =>
    say (path ++ ['\n'])
    pure 0
  | .error e =>
    complain name ("cannot access " ++ '\'' :: path ++ "': " ++ e.reason)
    pure 2

def stty : Tool := fun name arguments => do
  if !(← get).isTerminal 0 then
    complain name "'standard input': Inappropriate ioctl for device"
    pure 1
  else
    if arguments = [("size" : Text)] then say "24 80\n"
    pure 0

def tty : Tool := fun _ _ => do
  if (← get).isTerminal 0 then
    say "/dev/pts/0\n"
    pure 0
  else
    say "not a tty\n"
    pure 1

end Snippetry.Utility
