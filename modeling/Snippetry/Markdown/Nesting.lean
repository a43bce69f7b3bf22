import Snippetry.Markdown.Cursor

/-! # The containers that are open

A list stands around its items as a container of its own, which every line continues: it is left by
the first block that is no item of it. -/
namespace Snippetry.Markdown

structure Nesting where
  /-- The open containers, outermost first. -/
  containers : List Container
  /-- An item has begun with nothing on its line, and no block has begun since. -/
  emptyItem : Bool
  /-- The line before was blank. -/
  afterBlank : Bool
deriving DecidableEq, Repr

namespace Nesting

def top : Nesting := ⟨[], false, false⟩

def innermost? (n : Nesting) : Option Container := n.containers.getLast?

def enter (n : Nesting) (c : Container) : Nesting := { n with containers := n.containers ++ [c] }

/-- Leave the innermost container. With a tight list its empty item is forgotten. -/
def leave (n : Nesting) : Nesting :=
  { n with
    containers := n.containers.dropLast
    emptyItem := n.emptyItem && match n.innermost? with
      | some (.list true _) => false
      | _ => true }

/-- Leave all but the first `count` containers. -/
def leaveAllBut (n : Nesting) (count : Nat) : Nesting :=
  (n.containers.drop count).foldl (fun n _ => n.leave) n

/-- An item that has nothing in it before a blank line does not get anything after it. -/
def leaveEmptyItem (n : Nesting) : Nesting :=
  let left := match n.emptyItem && n.afterBlank, n.innermost? with
    | true, some (.item _) => n.leave
    | _, _ => n
  { left with emptyItem := false }

/-- The list around the container that is second from within has a blank line in it. -/
def loosen (n : Nesting) : Nesting :=
  match n.containers.reverse with
  | inner :: .list _ mark :: outer =>
    { n with containers := (inner :: .list false mark :: outer).reverse }
  | _ => n

/-- A block begins that is no item of the innermost list. -/
def leaveList (n : Nesting) : Nesting :=
  let n := n.leaveEmptyItem
  let n := match n.innermost? with
    | some (.list _ _) => n.leave
    | _ => n
  if n.afterBlank then { n.loosen with afterBlank := false } else n

/-- An item begins with a marker that ends in `mark`: the innermost list goes on if that is its
mark. -/
def enterList (n : Nesting) (mark : Char) : Nesting :=
  let n := n.leaveEmptyItem
  match n.innermost? with
  | some (.list tight old) =>
    if old = mark then
      if n.afterBlank then
        { n with containers := n.containers.dropLast ++ [.list false old], afterBlank := false }
      else { n with containers := n.containers.dropLast ++ [.list tight old] }
    else { n.leaveList.enter (.list true mark) with afterBlank := false }
  | some _ => { n.leaveList.enter (.list true mark) with afterBlank := false }
  | none => { n.enter (.list true mark) with afterBlank := false }

/-- A blank line. It opens an item with nothing in it to lines of any indent. -/
def passBlankLine (n : Nesting) : Nesting :=
  match n.innermost? with
  | some .quote => n
  | some (.item indent) =>
    { n with
      containers := n.containers.dropLast ++ [.item (if n.emptyItem then 0 else indent)]
      afterBlank := true }
  | _ => { n with afterBlank := true }

end Nesting
end Snippetry.Markdown
