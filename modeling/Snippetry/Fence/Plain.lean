import Snippetry.Fence.Collector
import Snippetry.Text.Line
import Snippetry.Text.Word
import Snippetry.Text.Basic

/-! # Plain fences

A fence is a line that begins with three or more backticks. Outside a block a fence with a tag opens
one; inside, every fence closes it, whatever its length. -/
namespace Snippetry.Plain

def isTick (c : Char) : Bool := c == '\x60'

/-- `none` for other lines, and for a fence its tag, if it has one. -/
def fence? (line : Text) : Option (Option Text) :=
  let ticks := line.takeWhile isTick
  if ticks.length < 3 then none
  else some (Text.word? (Text.trimStart (line.drop ticks.length)))

/-- Where the scan stands; a block of unknown language has no draft. -/
inductive State
  | outside
  | inside (draft : Option Draft)

structure Scan where
  state : State
  collector : Collector

namespace Scan

def start (fileId : Nat) : Scan := ⟨.outside, .empty fileId⟩

def step (s : Scan) (line : Line) : Scan :=
  match s.state, fence? line.text with
  | .outside, some (some tag) =>
    let (collector, draft) := s.collector.openBlock tag line.span
    ⟨.inside draft, collector⟩
  | .outside, _ => s
  | .inside none, some _ => ⟨.outside, s.collector⟩
  | .inside (some draft), some _ => ⟨.outside, s.collector.close draft line.span.stop⟩
  | .inside none, none => s
  | .inside (some draft), none => ⟨.inside (some (draft.push ⟨line.text, line.span⟩)), s.collector⟩

/-- At the end of the source a block that is still open is dropped. -/
def finish (s : Scan) (sourceSize : Nat) : Collector :=
  match s.state with
  | .inside (some draft) => s.collector.unterminated draft sourceSize
  | _ => s.collector

end Scan

def scan (fileId : Nat) (source : Text) : Collector :=
  ((Text.lines source).foldl Scan.step (.start fileId)).finish source.size

end Snippetry.Plain
