import Snippetry.Proofs.Fence.Location
import Snippetry.Proofs.Include.Notices
import Snippetry.Proofs.TestDocument.Check
import Snippetry.Proofs.Text.Numbering

/-! # The line a warning is expected on is the line it is about

With plain fences every notice shows a place that begins with a line: the fence that opens a block, or
the line that lists a missing name. The number that an expected warning is compared with is the one
this line has among the lines of the source. -/
namespace Snippetry

open Include

inductive Concerns (source : Text) (snippets : List Snippet) : Notice.Cause → Line → Prop
  /-- The fence that opens a block of a language that is not known. -/
  | opener {blocks : List Plain.Block} {b : Plain.Block}
      (layout : Plain.Layout (Text.lines source) blocks) (block : b ∈ blocks)
      (unknown : Language.ofTag? b.tag = none) : Concerns source snippets (.unknownLanguage b.tag) b.opener
  /-- The fence that opens a block which is never closed. -/
  | unclosed {blocks : List Plain.Block} {b : Plain.Block}
      (layout : Plain.Layout (Text.lines source) blocks) (block : b ∈ blocks)
      (closer : b.closer = none) : Concerns source snippets .unterminatedFence b.opener
  /-- The line of a snippet that lists a name which nothing answers to. -/
  | lists {i : Nat} {name : Text} {line : Line} (inner : ⟨line.text, line.span⟩ ∈ linesAt snippets i)
      (directive : ("#%inc:" : Text) <+: line.text) (listed : name ∈ namesOf ⟨line.text, line.span⟩)
      (unanswered : ∀ s ∈ snippets, s.answersTo name = false) :
      Concerns source snippets (.missingReference name (labelAt snippets i)) line

namespace Document

/-- Every notice shows a place that begins with the line it is about. -/
theorem exists_concerns (fileId : Nat) (source : Text) (requests : List (MissingPolicy × Request))
    {n : Notice} (hn : n ∈ ((read .plain fileId source).after requests).notices) :
    ∃ line ∈ Text.lines source, n.span.start = line.start
      ∧ Concerns source (read .plain fileId source).snippets n.cause line := by
  have hsettled := (fresh_read .plain fileId source).settled .lenient
  rcases warns_of_after hsettled (quotes_read_plain fileId source) requests n hn with hread | hwarns
  · obtain ⟨blocks, hlayout⟩ := Plain.exists_layout (Text.lines source)
    obtain ⟨b, hb, hopener, ⟨hunknown, rfl⟩ | ⟨hcloser, rfl⟩⟩ :=
      exists_block_of_mem_notices hlayout hread
    · exact ⟨b.opener, hopener, rfl, .opener hlayout hb hunknown⟩
    · exact ⟨b.opener, hopener, rfl, .unclosed hlayout hb hcloser⟩
  · obtain @⟨name, span, i, -, ⟨line, hline, rfl, -, hinner, hdirective, hlisted⟩, hunanswered⟩ := hwarns
    exact ⟨line, hline, rfl, .lists hinner hdirective hlisted hunanswered⟩

/-- Counting newlines gives every offset in the text of a line, and the one at its end, the number of
that line, and the number of the end to all that is beyond it. So an expected warning is compared with
the number of the line that the notice is about, however much of the document has been expanded. -/
theorem lineNumber_agrees (fileId : Nat) (source : Text) (requests : List (MissingPolicy × Request)) :
    (∀ k line, (Text.lines source)[k]? = some line → ∀ o, line.start ≤ o →
        o ≤ line.start + line.text.size → Text.lineNumber source o = k + 1)
      ∧ (∀ o, source.size < o → Text.lineNumber source o = Text.lineNumber source source.size)
      ∧ ∀ n ∈ ((read .plain fileId source).after requests).notices,
        ∃ k line, (Text.lines source)[k]? = some line
          ∧ Concerns source (read .plain fileId source).snippets n.cause line
          ∧ n.span.start = line.start ∧ Text.lineNumber source n.span.start = k + 1
          ∧ ∀ position w, TestDocument.checkWarning source position w n = .ok ()
            ↔ w.contains <:+: n.message ∧ ∀ m ∈ w.line, m = k + 1 := by
  refine ⟨?lines, ?beyond, ?notices⟩
  case lines =>
    intro k line hk o hstart hstop
    exact Text.lineNumber_of_lines hk hstart hstop
  case beyond =>
    intro o ho
    exact Text.lineNumber_of_size_le ho.le
  case notices =>
    intro n hn
    obtain ⟨line, hline, hstart, hconcerns⟩ := exists_concerns fileId source requests hn
    obtain ⟨k, hk⟩ := List.mem_iff_getElem?.mp hline
    have hnumber : Text.lineNumber source n.span.start = k + 1 :=
      Text.lineNumber_of_lines hk hstart.ge (by omega)
    refine ⟨k, line, hk, hconcerns, hstart, hnumber, fun position w => ?_⟩
    rw [TestDocument.checkWarning_eq_ok_iff]
    constructor
    · intro hdescribes
      refine ⟨hdescribes.contains, fun m hm => ?_⟩
      rw [← hdescribes.line m hm, hnumber]
    · rintro ⟨hcontains, hlines⟩
      refine ⟨hcontains, fun m hm => ?_⟩
      rw [hlines m hm, hnumber]

/-- Lines that end in different ways, a character of two bytes and an end inside a block. -/
def raggedWarnings : Text :=
  "é\r\n\x60\x60\x60rust\n\x60\x60\x60\r\n\x60\x60\x60sh\r\n" ++
  "#%inc: gone\n\x60\x60\x60\n\x60\x60\x60awk\r"

theorem lineNumber_raggedWarnings :
    ((read .plain 0 raggedWarnings).after [(.lenient, .all)]).notices.map
        (fun n => Text.lineNumber raggedWarnings n.span.start) = [2, 7, 5]
      ∧ ∀ n ∈ ((read .plain 0 raggedWarnings).after [(.lenient, .all)]).notices,
        ∃ k line, (Text.lines raggedWarnings)[k]? = some line
          ∧ Text.lineNumber raggedWarnings n.span.start = k + 1 := by
  refine ⟨by decide +kernel, fun n hn => ?_⟩
  obtain ⟨-, -, hnotices⟩ := lineNumber_agrees 0 raggedWarnings [(.lenient, .all)]
  obtain ⟨k, line, hk, -, -, hnumber, -⟩ := hnotices n hn
  exact ⟨k, line, hk, hnumber⟩

end Document
end Snippetry
