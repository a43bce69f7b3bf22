import Snippetry.Fence.Plain
import Snippetry.Fence.Matched
import Snippetry.Markdown.Block

/-! # Reading a document -/
namespace Snippetry

/-- How the blocks of a source are found. -/
inductive FenceStyle
  /-- Any fence closes a block. -/
  | plain
  /-- CommonMark: a closing fence has to match the one that opened the block. -/
  | matched
deriving DecidableEq, Repr

namespace Document

/-- Read a source with a way to find its CommonMark blocks. -/
def collectWith (blocks : Text → List Markdown.FencedBlock) (style : FenceStyle) (fileId : Nat)
    (source : Text) : Collector :=
  match style with
  | .plain => Plain.scan fileId source
  | .matched => Matched.scan fileId (blocks source)

def collect (style : FenceStyle) (fileId : Nat) (source : Text) : Collector :=
  collectWith Markdown.fencedBlocks style fileId source

/-- Reading never fails: what cannot be used becomes a warning. -/
def readWith (blocks : Text → List Markdown.FencedBlock) (style : FenceStyle) (fileId : Nat)
    (source : Text) : Document :=
  (collectWith blocks style fileId source).document

def read (style : FenceStyle) (fileId : Nat) (source : Text) : Document :=
  (collect style fileId source).document

end Document
end Snippetry
