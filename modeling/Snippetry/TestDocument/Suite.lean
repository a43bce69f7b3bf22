import Snippetry.Files

/-! # Suites: the test documents of a directory, by category

The category of a test document is the path from the directory that is searched to the one it is
in. -/
namespace Snippetry.TestDocument

/-- A test document by the names of the directories that lead to it, and its own. -/
structure Location where
  directory : List Text
  name : Text
deriving DecidableEq, Repr

structure Suite where
  name : Text
  documents : List Location
deriving DecidableEq, Repr

def ending : Text := ".test.md"

def isTestName (name : Text) : Bool := ending.isSuffixOf name

namespace Location

def names (l : Location) : List Text := l.directory ++ [l.name]

/-- Names joined by slashes, also in the place of backslashes. -/
def category (l : Location) : Text :=
  (Text.join ['/'] l.directory).map fun c => if c = '\\' then '/' else c

end Location

mutual

/-- All test documents below a node, in the order of the tree; the suites do not depend on it. -/
def locations (directory : List Text) : FileNode → List Location
  | .directory entries => locationsAmong directory entries
  | _ => []

def locationsAmong (directory : List Text) : List (Text × FileNode) → List Location
  | [] => []
  | (name, node) :: entries =>
    (if node.isDirectory then locations (directory ++ [name]) node
      else if isTestName name then [⟨directory, name⟩] else [])
      ++ locationsAmong directory entries

end

def insertLocation (l : Location) : List Location → List Location
  | [] => [l]
  | m :: ls => if l.names < m.names then l :: m :: ls else m :: insertLocation l ls

/-- Add to the suite of the category, or make one; the suites are in the order of their names. -/
def insertSuite (l : Location) : List Suite → List Suite
  | [] => [⟨l.category, [l]⟩]
  | s :: suites =>
    if s.name = l.category then { s with documents := insertLocation l s.documents } :: suites
    else if l.category < s.name then ⟨l.category, [l]⟩ :: s :: suites
    else s :: insertSuite l suites

def suitesOf (ls : List Location) : List Suite := ls.foldl (fun suites l => insertSuite l suites) []

def findSuites (root : FileNode) : List Suite := suitesOf (locations [] root)

namespace Suite

/-- The documents in the directory itself have no category. -/
def title (s : Suite) : Text := if s.name = [] then "(root)" else s.name

def trimSlashes (t : Text) : Text :=
  ((t.dropWhile (· = '/')).reverse.dropWhile (· = '/')).reverse

/-- A category stands for itself and all that is below it. -/
def belongsTo (s : Suite) (category : Text) : Bool :=
  let category := trimSlashes category
  s.name = category || (category ≠ [] && (category ++ ['/']).isPrefixOf s.name)

end Suite

/-- The suites of some categories, or all of them if none are given. -/
def selectSuites (categories : List Text) (suites : List Suite) : List Suite :=
  if categories = [] then suites else suites.filter fun s => categories.any s.belongsTo

def unknownCategories (categories : List Text) (suites : List Suite) : List Text :=
  categories.filter fun category => !suites.any fun s => s.belongsTo category

end Snippetry.TestDocument
