import Snippetry.Presentation
import Snippetry.Proofs.Include.Origin
import Snippetry.Proofs.Text.Decimal
import Snippetry.Proofs.Text.Occurrences
import Snippetry.Proofs.Text.Segments
import Snippetry.Run.Job

/-! # What is shown is what is run

A snippet is shown as the lines it was expanded to, and the same lines make the program that its
interpreter gets. No such line goes over its end, so they can be had back from the program as well as
from what is shown, with numbers before them or without. -/
namespace Snippetry

/-! ## Line numbers -/

namespace Snippet

def paddedNumber (k : Nat) : Text := if k < 10 then '0' :: Nat.toDigits 10 k else Nat.toDigits 10 k

theorem lineNumberText_eq (k : Nat) : lineNumberText k = paddedNumber k := by
  have hpositive : 0 < (Nat.toDigits 10 k).length := List.length_pos_iff.mpr Nat.toDigits_ne_nil
  have hshort : (Nat.toDigits 10 k).length ≤ 1 ↔ k < 10 := by
    rw [Nat.length_toDigits_le_iff (by decide) (by decide), Nat.pow_one]
  rw [lineNumberText, Text.padLeft, Text.ofNat, paddedNumber]
  split
  · next h =>
    have hone : 2 - (Nat.toDigits 10 k).length = 1 := by
      have := hshort.mpr h
      omega
    rw [hone]
    rfl
  · next h =>
    have hnone : 2 - (Nat.toDigits 10 k).length = 0 := by
      have := mt hshort.mp h
      omega
    rw [hnone]
    rfl

theorem isDigit_of_mem_lineNumberText {k : Nat} {c : Char} (h : c ∈ lineNumberText k) :
    c.isDigit = true := by
  have hdigits := (Text.decimal_ofNat k).digits
  rcases List.mem_append.mp h with h | h
  · rw [List.eq_of_mem_replicate h]
    rfl
  · exact hdigits c h

theorem numberLines_eq_mapIdx (first : Nat) (lines : List Text) : numberLines first lines =
    lines.mapIdx fun k line => paddedNumber (first + k) ++ ": " ++ line := by
  induction lines generalizing first with
  | nil => rfl
  | cons line lines ih =>
    have hshift : (fun k (line : Text) => paddedNumber (first + 1 + k) ++ ": " ++ line) =
        fun k line => paddedNumber (first + (k + 1)) ++ ": " ++ line := by
      funext k line
      rw [Nat.add_right_comm, Nat.add_assoc]
    rw [numberLines, ih, List.mapIdx_cons, lineNumberText_eq, hshift]
    rfl

theorem newline_notMem_numberLines {lines : List Text} (h : ∀ t ∈ lines, '\n' ∉ t) (first : Nat) :
    ∀ t ∈ numberLines first lines, '\n' ∉ t := by
  induction lines generalizing first with
  | nil => simp [numberLines]
  | cons line lines ih =>
    obtain ⟨hline, hlines⟩ := List.forall_mem_cons.mp h
    refine List.forall_mem_cons.mpr ⟨?_, ih hlines (first + 1)⟩
    have hnumber : '\n' ∉ lineNumberText first := fun hmem =>
      absurd (isDigit_of_mem_lineNumberText hmem) (by decide)
    simp [hnumber, hline]

def withoutNumber (t : Text) : Text := (Text.splitFirst? ": " t).elim t Prod.snd

theorem withoutNumber_numbered (k : Nat) (rest : Text) :
    withoutNumber (lineNumberText k ++ ": " ++ rest) = rest := by
  have hcolon : ':' ∉ lineNumberText k := fun hmem =>
    absurd (isDigit_of_mem_lineNumberText hmem) (by decide)
  have hsplit : Text.splitFirst? ": " (lineNumberText k ++ (": " ++ rest)) =
      some (lineNumberText k, rest) := Text.splitFirst?_append hcolon
  rw [withoutNumber, List.append_assoc, hsplit]
  rfl

theorem flatMap_withoutNumber {lines : List Text} (h : ∀ t ∈ lines, '\n' ∉ t) (first : Nat) :
    (Text.cutLines ((numberLines first lines).flatMap (· ++ ['\n']))).flatMap withoutNumber =
      lines.flatMap (· ++ ['\n']) := by
  have hcut := Text.cutLines_flatMap (newline_notMem_numberLines h first) []
  rw [List.append_nil] at hcut
  rw [hcut, Text.cutLines, List.append_nil, List.flatMap_map]
  clear h hcut
  induction lines generalizing first with
  | nil => rfl
  | cons line lines ih =>
    rw [numberLines, List.flatMap_cons, List.flatMap_cons, ih, List.append_assoc _ line,
      withoutNumber_numbered]

end Snippet

/-! ## Programs -/

namespace Language

variable {l : Language} {lines : List Text}

def Opens (lines : List Text) : Prop := ∃ first ∈ lines.head?, openTag <:+: first

theorem lacksOpenTag_iff : l.lacksOpenTag lines = true ↔ l = php ∧ ¬ Opens lines := by
  unfold lacksOpenTag
  rw [Bool.and_eq_true, decide_eq_true_eq]
  refine and_congr_right fun _ => ?_
  cases lines with
  | nil => simp [Opens]
  | cons first lines => simp [Opens, ← Text.contains_iff]

def addedLines (l : Language) (lines : List Text) : List Text :=
  if l.lacksOpenTag lines then [openTag] else []

theorem program_eq (l : Language) (lines : List Text) :
    l.program lines = (l.addedLines lines ++ lines).flatMap (· ++ ['\n']) := by
  rw [program, addedLines]
  split <;> rfl

theorem addedLines_of_lacks (h : l = php ∧ ¬ Opens lines) : l.addedLines lines = [openTag] := by
  rw [addedLines, if_pos (lacksOpenTag_iff.mpr h)]

theorem addedLines_of_not_lacks (h : ¬ (l = php ∧ ¬ Opens lines)) : l.addedLines lines = [] := by
  rw [addedLines, if_neg (mt lacksOpenTag_iff.mp h)]

theorem splitOn_program (h : ∀ t ∈ lines, '\n' ∉ t) :
    Text.splitOn '\n' (l.program lines) = l.addedLines lines ++ lines ++ [[]] := by
  rw [program_eq]
  refine Text.splitOn_flatMap ?_
  intro t ht
  rcases List.mem_append.mp ht with ht | ht
  · by_cases hlacks : l = php ∧ ¬ Opens lines
    · rw [addedLines_of_lacks hlacks] at ht
      rw [List.mem_singleton.mp ht]
      decide
    · rw [addedLines_of_not_lacks hlacks] at ht
      cases ht
  · exact h t ht

/-- An open tag is put in once at most. -/
theorem program_program (l : Language) (lines : List Text) :
    l.program (l.addedLines lines ++ lines) = l.program lines := by
  by_cases hlacks : l = php ∧ ¬ Opens lines
  · have hopens : Opens (openTag :: lines) := ⟨openTag, rfl, List.infix_rfl⟩
    have hnone : l.addedLines (openTag :: lines) = [] := addedLines_of_not_lacks fun h => h.2 hopens
    rw [program_eq l lines, addedLines_of_lacks hlacks, List.singleton_append, program_eq, hnone]
    rfl
  · rw [addedLines_of_not_lacks hlacks, List.nil_append]

theorem program_injective {l' : Language} {lines' : List Text} (hl : l ≠ php) (hl' : l' ≠ php)
    (h : ∀ t ∈ lines, '\n' ∉ t) (h' : ∀ t ∈ lines', '\n' ∉ t)
    (heq : l.program lines = l'.program lines') : lines = lines' := by
  have hsplit := congrArg (Text.splitOn '\n') heq
  rw [splitOn_program h, splitOn_program h', addedLines_of_not_lacks fun hp => hl hp.1,
    addedLines_of_not_lacks fun hp => hl' hp.1] at hsplit
  exact List.append_cancel_right hsplit

end Language

/-! ## Snippets -/

namespace Snippet

variable {s : Snippet} {lines : List Text}

theorem shownLines_of_resolved (h : s.resolvedLines? = some lines) : s.shownLines = lines := by
  rw [shownLines, resolvedLines?_eq_some_iff.mp h]

/-- What is shown of a snippet that was expanded to lines, and what is run of it. -/
structure ShownAsRun (s : Snippet) (lines : List Text) : Prop where
  job : ∀ o : RunOptions, ∃ job, o.prepare s = .ok job ∧ job.source = s.language.program lines
  same : s.language ≠ .php → s.language.program lines = s.body false
  opened : s.language = .php → Language.Opens lines → s.language.program lines = s.body false
  unopened : s.language = .php → ¬ Language.Opens lines →
    s.language.program lines = "<?php" ++ ['\n'] ++ s.body false
  numbered : Text.splitOn '\n' (s.body true) =
    (lines.mapIdx fun k line => paddedNumber (k + 1) ++ ": " ++ line) ++ [[]]
  unnumbered : (Text.cutLines (s.body true)).flatMap withoutNumber = s.body false
  split : ∃ added, (added = [] ∨ s.language = .php ∧ added = [Language.openTag]) ∧
    Text.splitOn '\n' (s.language.program lines) = added ++ lines ++ [[]]
  again : ∀ next, Text.splitOn '\n' (s.language.program lines) = next ++ [[]] →
    s.language.program next = s.language.program lines

theorem shownAsRun (h : s.resolvedLines? = some lines) (hlines : ∀ t ∈ lines, '\n' ∉ t) :
    s.ShownAsRun lines := by
  have hshown : s.shownLines = lines := shownLines_of_resolved h
  have hplain : s.body false = lines.flatMap (· ++ ['\n']) := by
    rw [← hshown]
    rfl
  have hnumbered : s.body true = (numberLines 1 lines).flatMap (· ++ ['\n']) := by
    rw [← hshown]
    rfl
  have hsame (hnot : ¬ (s.language = .php ∧ ¬ Language.Opens lines)) :
      s.language.program lines = s.body false := by
    rw [Language.program_eq, Language.addedLines_of_not_lacks hnot, hplain, List.nil_append]
  have hsplit : Text.splitOn '\n' (s.language.program lines) =
      s.language.addedLines lines ++ lines ++ [[]] := Language.splitOn_program hlines
  constructor
  · intro o
    rw [RunOptions.prepare, h]
    exact ⟨_, rfl, rfl⟩
  · intro hphp
    exact hsame fun hnot => hphp hnot.1
  · intro _ hopens
    exact hsame fun hnot => hnot.2 hopens
  · intro hphp hopens
    rw [Language.program_eq, Language.addedLines_of_lacks ⟨hphp, hopens⟩, hplain]
    rfl
  · have hnewline := newline_notMem_numberLines hlines 1
    rw [hnumbered, Text.splitOn_flatMap hnewline, numberLines_eq_mapIdx]
    simp only [Nat.add_comm 1]
  · rw [hnumbered, hplain]
    exact flatMap_withoutNumber hlines 1
  · refine ⟨s.language.addedLines lines, ?_, hsplit⟩
    by_cases hlacks : s.language = .php ∧ ¬ Language.Opens lines
    · exact .inr ⟨hlacks.1, Language.addedLines_of_lacks hlacks⟩
    · exact .inl (Language.addedLines_of_not_lacks hlacks)
  · intro next hnext
    have hcancel := List.append_cancel_right (hsplit.symm.trans hnext)
    rw [← hcancel]
    exact s.language.program_program lines

end Snippet

namespace Document

/-- An expanded snippet of a document is shown as it is run, whatever was asked of the document; and two
of them, of one document or of two, are run as different programs unless their lines are the same, as
long as PHP does not run them. -/
theorem shownAsRun_after {d : Document} (h : d.IsReading)
    (requests : List (Include.MissingPolicy × Request)) {s : Snippet}
    (hs : s ∈ (d.after requests).snippets) {lines : List Text} (hl : s.resolvedLines? = some lines) :
    s.ShownAsRun lines ∧
      ∀ (d' : Document) (requests' : List (Include.MissingPolicy × Request)) (s' : Snippet)
        (lines' : List Text), d'.IsReading → s' ∈ (d'.after requests').snippets →
        s'.resolvedLines? = some lines' → s.language ≠ .php → s'.language ≠ .php →
        s.language.program lines = s'.language.program lines' → lines = lines' := by
  have hlines := h.newline_notMem_resolved requests hs hl
  refine ⟨Snippet.shownAsRun hl hlines, ?_⟩
  intro d' requests' s' lines' h' hs' hl' hphp hphp' heq
  have hlines' := h'.newline_notMem_resolved requests' hs' hl'
  exact Language.program_injective hphp hphp' hlines hlines' heq

/-- A body with an empty line, in three languages. -/
def borrowedSource : Text :=
  "```bash\n#%name: warn\necho a: b\n\n```\n```sh\n#%inc: warn\n```\n" ++
  "```php\n#%inc: warn\n```\n"

theorem shownAsRun_borrowed :
    let d := read .plain 0 borrowedSource
    let requests : List (Include.MissingPolicy × Request) := [(.strict, .all)]
    let lines : List Text := ["echo a: b", ""]
    d.IsReading ∧ ∃ s ∈ (d.after requests).snippets, ∃ s' ∈ (d.after requests).snippets,
      s.language = .bash ∧ s'.language = .sh ∧ s.resolvedLines? = some lines ∧
      s'.resolvedLines? = some lines ∧ s.language.program lines = s'.language.program lines ∧
      s.ShownAsRun lines ∧ lines = lines ∧ ∃ s'' ∈ (d.after requests).snippets,
        s''.language = .php ∧ s''.resolvedLines? = some lines ∧ s''.ShownAsRun lines ∧
        s''.language.program lines = "<?php\necho a: b\n\n" := by
  intro d requests lines
  have h : d.IsReading := .source .plain 0 borrowedSource
  have hall : (d.after requests).snippets.map (fun s => (s.language, s.resolvedLines?)) =
      [(.bash, some lines), (.sh, some lines), (.php, some lines)] := by decide +kernel
  have hfound (language : Language) (hmem : (language, some lines) ∈
      (d.after requests).snippets.map fun s => (s.language, s.resolvedLines?)) :
      ∃ s ∈ (d.after requests).snippets, s.language = language ∧ s.resolvedLines? = some lines := by
    obtain ⟨s, hs, heq⟩ := List.mem_map.mp hmem
    obtain ⟨hlanguage, hl⟩ := Prod.mk.inj heq
    exact ⟨s, hs, hlanguage, hl⟩
  obtain ⟨s, hs, hbash, hl⟩ := hfound .bash (by rw [hall]; simp)
  obtain ⟨s', hs', hsh, hl'⟩ := hfound .sh (by rw [hall]; simp)
  obtain ⟨s'', hs'', hphp, hl''⟩ := hfound .php (by rw [hall]; simp)
  have hprogram : s.language.program lines = s'.language.program lines := by
    rw [hbash, hsh]
    rfl
  obtain ⟨hshown, hinjective⟩ := shownAsRun_after h requests hs hl
  have hlines := hinjective d requests s' lines h hs' hl' (by simp [hbash]) (by simp [hsh]) hprogram
  refine ⟨h, s, hs, s', hs', hbash, hsh, hl, hl', hprogram, hshown, hlines, s'', hs'', hphp, hl'',
    ?_, ?_⟩
  · exact (shownAsRun_after h requests hs'' hl'').1
  · rw [hphp]
    decide

end Document
end Snippetry
