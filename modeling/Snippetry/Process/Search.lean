import Snippetry.Process.Basic

/-! # The search for programs -/
namespace Snippetry.Process

/-- Where programs are searched for unless a variable tells otherwise. -/
def standardSearch : Text := "/usr/local/sbin:/usr/local/bin:/usr/sbin:/usr/bin:/sbin:/bin"

/-- Where a program of a name may be. -/
def candidates (search name : Text) : List Text :=
  (Text.splitOn ':' search).map fun directory =>
    if directory = [] then name else directory ++ '/' :: name

/-- Whether an error tells no more than that there is nothing. -/
def isAbsence (e : FileError) : Bool := e = .notFound || e = .notADirectory

/-- The first of some results that is no error; otherwise the last error that tells more than that
there is nothing. -/
def firstOf {α : Type} : FileError → List (Except FileError α) → Except FileError α
  | e, [] => .error e
  | _, .ok a :: _ => .ok a
  | e, .error e' :: rest => firstOf (if isAbsence e' then e else e') rest

/-- Where the program of a name is. A name with a slash is a path itself. -/
def program? (files : Files) (search name : Text) : Except FileError Text :=
  let found (path : Text) : Except FileError Text := do
    files.execute (decodePath path)
    .ok path
  if '/' ∈ name then found name else firstOf .notFound ((candidates search name).map found)

end Snippetry.Process
