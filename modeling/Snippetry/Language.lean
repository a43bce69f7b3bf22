import Snippetry.Text.Basic

/-! # Languages a snippet can be written in -/
namespace Snippetry

/-- The interpreter family of a snippet. Every tag that begins with `python` is a family of its
own, kept as written. -/
inductive Language
  | node | sh | bash | zsh | php | perl | awk | gawk | nawk
  | python (tag : Text)
deriving DecidableEq, Repr

namespace Language

/-- The tags `ofTag?` knows, as listed to the user. -/
def recognizedTags : Text :=
  "node, js, javascript, sh, bash, zsh, php, perl, awk, gawk, nawk, py, python*"

/-- The tags that name a family other than Python. -/
def fixedTags : List (Text × Language) :=
  [("node", node), ("js", node), ("javascript", node), ("sh", sh), ("bash", bash), ("zsh", zsh),
   ("php", php), ("perl", perl), ("awk", awk), ("gawk", gawk), ("nawk", nawk)]

/-- The family a fence tag stands for. Case matters. -/
def ofTag? (tag : Text) : Option Language :=
  match fixedTags.lookup tag with
  | some language => some language
  | none =>
    if tag = ("py" : Text) then some (python "python")
    else if (("python" : Text).isPrefixOf? tag).isSome then some (python tag)
    else none

/-- The canonical tag, which is also the command of the interpreter. -/
def tag : Language → Text
  | node => "node"
  | sh => "sh"
  | bash => "bash"
  | zsh => "zsh"
  | php => "php"
  | perl => "perl"
  | awk => "awk"
  | gawk => "gawk"
  | nawk => "nawk"
  | python tag => tag

def isAwk : Language → Bool
  | awk | gawk | nawk => true
  | _ => false

end Language
end Snippetry
