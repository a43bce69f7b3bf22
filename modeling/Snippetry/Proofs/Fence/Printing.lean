import Mathlib.Data.List.DropRight
import Snippetry.Proofs.Fence.Unplaced
import Snippetry.Proofs.Reading

/-! # Printed snippets are read again

What a snippet was read from can be written down again: its tag, the lines that name it or make it a
library, and its body. Nothing in a body looks like a fence or like such a line, and names are trimmed,
so that a reading of the print finds the very same snippets. -/
namespace Snippetry

/-! ## Names and tags -/

namespace Text

theorem trim_trim (t : Text) : trim (trim t) = trim t := by
  have hhead : ∀ c ∈ (trim t).head?, isBlank c = false := by
    obtain ⟨rest, hrest⟩ := List.rdropWhile_prefix isBlank (trimStart t)
    intro c hc
    refine Plain.head?_dropWhile (p := isBlank) (t := t) c ?_
    change c ∈ (trimStart t).head?
    rw [← hrest, List.head?_append]
    simpa using .inl hc
  have hstart : trimStart (trim t) = trim t :=
    Plain.dropWhile_append_of_head (p := isBlank) (s := []) (by simp) hhead
  rw [trim, hstart]
  exact List.rdropWhile_idempotent isBlank (trimStart t)

theorem mem_of_mem_trim {t : Text} {c : Char} (h : c ∈ trim t) : c ∈ t :=
  List.dropWhile_sublist _ |>.mem ((List.rdropWhile_prefix isBlank (trimStart t)).mem h)

/-- What is left of a value is left of itself. -/
theorem nonBlank?_of_nonBlank? {t value : Text} (h : nonBlank? t = some value) :
    nonBlank? value = some value ∧ ∀ c ∈ value, c ∈ t := by
  simp only [nonBlank?] at h
  split at h
  · cases h
  · next hn =>
    cases h
    exact ⟨by simp only [nonBlank?, trim_trim, if_neg hn], fun c hc => mem_of_mem_trim hc⟩

end Text

namespace Language

/-- The canonical tag of a language stands for it, and is a word if the tag it was found by is one. -/
theorem ofTag?_tag {found : Text} {language : Language} (h : ofTag? found = some language)
    (hw : ∀ c ∈ found, isWord c = true) :
    ofTag? language.tag = some language ∧ language.tag ≠ [] ∧
      ∀ c ∈ language.tag, isWord c = true := by
  have hfixed : ∀ l ∈ python "python" :: fixedTags.map Prod.snd,
      ofTag? l.tag = some l ∧ l.tag ≠ [] ∧ l.tag.all isWord = true := by decide +kernel
  have hknown (l : Language) (hl : l ∈ python "python" :: fixedTags.map Prod.snd) :
      ofTag? l.tag = some l ∧ l.tag ≠ [] ∧ ∀ c ∈ l.tag, isWord c = true :=
    ⟨(hfixed l hl).1, (hfixed l hl).2.1, List.all_eq_true.mp (hfixed l hl).2.2⟩
  have hfamily := h
  unfold ofTag? at h
  split at h
  · next entry hlookup =>
    cases h
    obtain ⟨before, after, hentries, -⟩ := List.lookup_eq_some_iff.mp hlookup
    exact hknown _ (by rw [hentries]; simp)
  · split at h
    · cases h
      exact hknown _ List.mem_cons_self
    · split at h
      · next hpython =>
        cases h
        refine ⟨hfamily, ?_, hw⟩
        rintro rfl
        revert hpython
        decide
      · cases h

end Language

namespace Directive

/-- A value is trimmed, and it was in the line. -/
theorem exists_value_of_ofLine? {line : Text} {directive : Directive}
    (h : ofLine? line = some directive) :
    ∃ value, (directive = .name value ∨ directive = .library value) ∧
      ∀ t ∈ value, Text.nonBlank? t = some t ∧ ∀ c ∈ t, c ∈ line := by
  have hvalue {start rest : Text} (hline : start ++ rest = line) :
      ∀ t ∈ Text.nonBlank? rest, Text.nonBlank? t = some t ∧ ∀ c ∈ t, c ∈ line := by
    intro t ht
    obtain ⟨hfixed, hmem⟩ := Text.nonBlank?_of_nonBlank? ht
    exact ⟨hfixed, fun c hc => hline ▸ List.mem_append_right _ (hmem c hc)⟩
  unfold ofLine? at h
  split at h
  · next rest hname =>
    cases h
    exact ⟨_, .inl rfl, hvalue (List.isPrefixOf?_eq_some_iff_append_eq.mp hname)⟩
  · split at h
    · next rest hlibrary =>
      cases h
      have hline := List.isPrefixOf?_eq_some_iff_append_eq.mp hlibrary
      exact ⟨_, .inr rfl, hvalue (List.append_cons .. ▸ hline)⟩
    · cases h
      exact ⟨none, .inr rfl, by simp⟩
    · cases h

end Directive

namespace Draft

def nameLine (name : Text) : Text := "#%name:" ++ name

def libraryLine : Option Text → Text
  | none => "#%lib"
  | some aliasName => "#%lib:" ++ aliasName

theorem push_nameLine {name : Text} (h : Text.nonBlank? name = some name) (d : Draft) :
    d.push ⟨nameLine name, .nowhere⟩ = { d with name := some name } := by
  have hline : Directive.ofLine? (nameLine name) = some (.name (Text.nonBlank? name)) := rfl
  simp only [push, hline, h]

theorem push_libraryLine {aliasName : Option Text} (h : ∀ t ∈ aliasName, Text.nonBlank? t = some t)
    {d : Draft} (hd : d.aliasName = none) :
    d.push ⟨libraryLine aliasName, .nowhere⟩ = { d with isLibrary := true, aliasName } := by
  cases aliasName with
  | none =>
    have hline : Directive.ofLine? (libraryLine none) = some (.library none) := rfl
    simp only [push, hline, hd]
    rfl
  | some aliasName =>
    have hline : Directive.ofLine? (libraryLine (some aliasName)) =
      some (.library (Text.nonBlank? aliasName)) := rfl
    simp only [push, hline, h aliasName rfl]
    rfl

/-- The lines of a body with what says the name and the library before them. -/
def printed (d : Draft) : List Text :=
  (d.name.map nameLine).toList ++ (if d.isLibrary then [libraryLine d.aliasName] else []) ++
    d.lines.map SourceLine.text

/-- A draft whose lines can be told from each other when they are read again. -/
structure Printable (d : Draft) : Prop where
  tag : Language.ofTag? d.language.tag = some d.language
  tagged : d.language.tag ≠ []
  word : ∀ c ∈ d.language.tag, isWord c = true
  name : ∀ t ∈ d.name, Text.nonBlank? t = some t ∧ '\n' ∉ t
  aliasName : ∀ t ∈ d.aliasName, d.isLibrary = true ∧ Text.nonBlank? t = some t ∧ '\n' ∉ t
  body : ∀ l ∈ d.lines, ¬ IsMetadata l.text ∧ ¬ Plain.IsFence l.text ∧ '\n' ∉ l.text

variable {d : Draft}

theorem printable_ofLanguage {found : Text} {language : Language}
    (h : Language.ofTag? found = some language) (hw : ∀ c ∈ found, isWord c = true) (start : Nat) :
    (ofLanguage language start).Printable := by
  obtain ⟨tag, tagged, word⟩ := Language.ofTag?_tag h hw
  exact ⟨tag, tagged, word, by simp [ofLanguage], by simp [ofLanguage], by simp [ofLanguage]⟩

theorem Printable.push (h : d.Printable) {l : SourceLine} (hf : ¬ Plain.IsFence l.text)
    (hn : '\n' ∉ l.text) : (d.push l).Printable := by
  cases hdirective : Directive.ofLine? l.text with
  | none =>
    have hbody : ¬ IsMetadata l.text := (Directive.ofLine?_eq_none_iff _).mp hdirective
    simp only [Draft.push, hdirective]
    refine { h with body := ?_ }
    intro other hm
    rcases List.mem_append.mp hm with hm | hm
    · exact h.body other hm
    · rw [List.mem_singleton.mp hm]
      exact ⟨hbody, hf, hn⟩
  | some directive =>
    obtain ⟨value, rfl | rfl, hvalue⟩ := Directive.exists_value_of_ofLine? hdirective
    all_goals
      have hclean : ∀ t ∈ value, Text.nonBlank? t = some t ∧ '\n' ∉ t := fun t ht =>
        ⟨(hvalue t ht).1, fun hm => hn ((hvalue t ht).2 _ hm)⟩
      simp only [Draft.push, hdirective]
    · exact { h with name := hclean }
    · refine { h with aliasName := ?_ }
      intro t ht
      rcases value with _ | value
      · exact ⟨rfl, (h.aliasName t ht).2⟩
      · exact ⟨rfl, hclean t ht⟩

theorem Printable.pushLines (h : d.Printable) {lines : List Line}
    (hl : ∀ l ∈ lines, ¬ Plain.IsFence l.text ∧ '\n' ∉ l.text) : (d.pushLines lines).Printable :=
  List.foldlRecOn (motive := Printable) lines _ h fun _ h l hm => h.push (hl l hm).1 (hl l hm).2

/-- Lines that say nothing about the snippet are all of the body. -/
theorem foldl_push_of_body (lines : List SourceLine) (h : ∀ l ∈ lines, ¬ IsMetadata l.text)
    (d : Draft) : (lines.map SourceLine.text).foldl (fun d t => d.push ⟨t, .nowhere⟩) d =
      { d with lines := d.lines ++ lines.map SourceLine.unplaced } := by
  induction lines generalizing d with
  | nil => simp
  | cons l lines ih =>
    have hnone := (Directive.ofLine?_eq_none_iff l.text).mpr (h l List.mem_cons_self)
    rw [List.map_cons, List.foldl_cons, ih fun l hl => h l (List.mem_cons_of_mem _ hl)]
    simp [push, hnone, SourceLine.unplaced]

/-- The printed lines make the draft again. -/
theorem Printable.ofTexts_printed (h : d.Printable) : ofTexts d.language d.printed = d.unplaced := by
  obtain ⟨language, name, aliasName, isLibrary, lines, start⟩ := d
  have hname : (name.map nameLine).toList.foldl (fun d t => d.push ⟨t, .nowhere⟩)
      (ofLanguage language 0) = ⟨language, name, none, false, [], 0⟩ := by
    cases name with
    | none => rfl
    | some name => exact push_nameLine (h.name name rfl).1 _
  have hlibrary : (if isLibrary then [libraryLine aliasName] else []).foldl
      (fun d t => d.push ⟨t, .nowhere⟩) (⟨language, name, none, false, [], 0⟩ : Draft) =
        ⟨language, name, aliasName, isLibrary, [], 0⟩ := by
    cases isLibrary with
    | true => exact push_libraryLine (fun t ht => (h.aliasName t ht).2.1) rfl
    | false =>
      cases aliasName with
      | none => rfl
      | some aliasName => cases (h.aliasName aliasName rfl).1
  simp only [ofTexts, printed, List.foldl_append, hname, hlibrary,
    foldl_push_of_body lines fun l hl => (h.body l hl).1]
  rfl

theorem newline_notMem_nameLine {name : Text} (h : '\n' ∉ name) : '\n' ∉ nameLine name := by
  have hkey : '\n' ∉ ("#%name:" : Text) := by decide +kernel
  exact fun hm => (List.mem_append.mp hm).elim hkey h

theorem newline_notMem_libraryLine {aliasName : Option Text} (h : ∀ t ∈ aliasName, '\n' ∉ t) :
    '\n' ∉ libraryLine aliasName := by
  cases aliasName with
  | none => decide +kernel
  | some aliasName =>
    have hkey : '\n' ∉ ("#%lib:" : Text) := by decide +kernel
    exact fun hm => (List.mem_append.mp hm).elim hkey (h aliasName rfl)

theorem head?_nameLine (name : Text) : (nameLine name).head? = some '#' := rfl

theorem head?_libraryLine (aliasName : Option Text) : (libraryLine aliasName).head? = some '#' := by
  cases aliasName <;> rfl

theorem not_isFence_of_hash {t : Text} (h : t.head? = some '#') : ¬ Plain.IsFence t := by
  rintro ⟨rest, rfl⟩
  cases h

/-- Nothing that is printed looks like a fence or goes over the end of a line. -/
theorem Printable.of_mem_printed (h : d.Printable) {t : Text} (ht : t ∈ d.printed) :
    ¬ Plain.IsFence t ∧ '\n' ∉ t := by
  rcases List.mem_append.mp ht with ht | ht
  · rcases List.mem_append.mp ht with ht | ht
    · obtain ⟨name, hname, rfl⟩ : ∃ name, d.name = some name ∧ nameLine name = t := by simpa using ht
      exact ⟨not_isFence_of_hash (head?_nameLine name), newline_notMem_nameLine (h.name name hname).2⟩
    · split at ht
      · obtain rfl := List.mem_singleton.mp ht
        exact ⟨not_isFence_of_hash (head?_libraryLine _),
          newline_notMem_libraryLine fun aliasName ha => (h.aliasName aliasName ha).2.2⟩
      · simp at ht
  · obtain ⟨l, hl, rfl⟩ := List.mem_map.mp ht
    exact (h.body l hl).2

end Draft

/-! ## Documents -/

namespace Snippet

def draft (s : Snippet) : Draft :=
  ⟨s.language, s.name, s.aliasName, s.isLibrary, s.rawLines, s.span.start⟩

def printed (s : Snippet) : Fenced := ⟨3, s.language.tag, s.draft.printed⟩

end Snippet

def Document.print (d : Document) : Text :=
  (d.snippets.flatMap fun s => s.printed.lines).flatMap (· ++ ['\r', '\n'])

namespace Collector

def Printable (c : Collector) : Prop := ∀ s ∈ c.snippets, s.draft.Printable

variable {c : Collector}

theorem Printable.close (h : c.Printable) {d : Draft} (hd : d.Printable) (stop : Nat) :
    (c.close d stop).Printable := by
  obtain ⟨id, hclose⟩ := c.exists_close_snippets d stop
  intro s hs
  rw [hclose] at hs
  rcases List.mem_append.mp hs with hs | hs
  · exact h s hs
  · rw [List.mem_singleton.mp hs]
    exact hd

theorem Printable.collect (h : c.Printable) {b : Plain.Block} (htag : ∀ c ∈ b.tag, isWord c = true)
    (hbody : ∀ l ∈ b.body, ¬ Plain.IsFence l.text ∧ '\n' ∉ l.text) (sourceSize : Nat) :
    (b.collect sourceSize c).Printable := by
  unfold Plain.Block.collect openBlock
  cases hlanguage : Language.ofTag? b.tag with
  | none => exact h
  | some language =>
    cases b.closer with
    | none => exact h
    | some closer =>
      have hopened : ({ c with log := c.log ++ [.snippetOpens b.opener.span.start language] } :
        Collector).Printable := h
      exact hopened.close ((Draft.printable_ofLanguage hlanguage htag _).pushLines hbody) _

theorem printable_scan (fileId : Nat) (source : Text) : (Plain.scan fileId source).Printable := by
  obtain ⟨blocks, hlayout⟩ := Plain.exists_layout (Text.lines source)
  rw [Plain.scan_eq_foldl_collect fileId hlayout]
  refine List.foldlRecOn (motive := Printable) blocks _ (by simp [Printable, empty]) ?_
  intro c h b hb
  obtain ⟨opens, inner⟩ := hlayout.tagged_of_mem hb
  exact h.collect opens.isWord (fun l hl => ⟨inner l hl,
    Text.newline_notMem_of_mem_lines (hlayout.mem_body hb hl)⟩) _

/-- Closing the drafts of its snippets again leads to the same numbers. -/
def Reclosed (c : Collector) : Prop :=
  c.unplaced.snippets.foldl (fun (e : Collector) s => e.close s.draft 0) (empty 0) =
    ⟨0, c.nextId, c.unplaced.snippets, [], []⟩

theorem invariant_reclosed : Invariant Reclosed where
  empty _ := rfl
  openBlock h tag span := by
    unfold openBlock
    split <;> exact h
  close {c} h d stop := by
    have hnext : (c.close d stop).nextId = (c.unplaced.close d.unplaced 0).nextId := by
      rw [← unplaced_close]
      rfl
    obtain ⟨id, hclose⟩ := c.unplaced.exists_close_snippets d.unplaced 0
    rw [Reclosed, hnext, unplaced_close, hclose, List.foldl_append, h, ← hclose]
    change Collector.close _ d.unplaced 0 = _
    unfold Collector.close
    split <;> rfl
  unterminated h d stop := h

end Collector

namespace Snippet

/-- A printed block is entered as the snippet it was printed from. -/
theorem enter_printed {s : Snippet} (h : s.draft.Printable) (c : Collector) :
    s.printed.enter c = c.close s.unplaced.draft 0 := by
  have hdraft : Draft.ofTexts s.language s.printed.body = s.unplaced.draft := h.ofTexts_printed
  have htag : Language.ofTag? s.printed.word = some s.language := h.tag
  have hword : ¬ s.printed.word = [] := h.tagged
  rw [Fenced.enter, if_neg hword, Collector.enter]
  simp only [htag, hdraft]

theorem readable_printed {s : Snippet} (h : s.draft.Printable) : s.printed.Readable where
  ticks := Nat.le_refl 3
  word := h.word
  body _ ht := (h.of_mem_printed ht).1

theorem newline_notMem_printed {s : Snippet} (h : s.draft.Printable) :
    ∀ t ∈ s.printed.lines, '\n' ∉ t :=
  Fenced.notMem_lines h.word (by decide) (by decide) fun _ ht => (h.of_mem_printed ht).2

end Snippet

namespace Document

theorem map_text_lines_print {d : Document} (h : ∀ s ∈ d.snippets, s.draft.Printable) :
    (Text.lines d.print).map Line.text = d.snippets.flatMap fun s => s.printed.lines := by
  refine Text.map_text_linesAt (fun t ht => ?_) 0
  obtain ⟨s, hs, ht⟩ := List.mem_flatMap.mp ht
  exact ⟨Snippet.newline_notMem_printed (h s hs) t ht, .returned⟩

/-- Printing the snippets of a source with plain fences and reading the print gives them back, as they
were before any of them was expanded, and nothing to warn of. -/
theorem read_print (fileId other : Nat) (source : Text) :
    (read .plain other (read .plain fileId source).print).notices = [] ∧
    (read .plain other (read .plain fileId source).print).snippets.map Snippet.unplaced =
      (read .plain fileId source).snippets.map Snippet.unplaced ∧
    (read .plain other (read .plain fileId source).print).Fresh := by
  have hprintable := Collector.printable_scan fileId source
  have hreclosed := Collector.invariant_reclosed.scan_plain fileId source
  generalize hc : Plain.scan fileId source = c at hprintable hreclosed
  have hd : read .plain fileId source = c.document := congrArg Collector.document hc
  rw [hd]
  have hlines : (Text.lines c.document.print).map Line.text =
      (c.snippets.map Snippet.printed).flatMap fun b => b.lines ++ [] := by
    simp only [List.append_nil, List.flatMap_map]
    exact map_text_lines_print hprintable
  have hscan := Plain.unplaced_scan_of_fenced
    (List.forall_mem_map.mpr fun s hs => Snippet.readable_printed (hprintable s hs)) (by simp) hlines
    other
  have hagain : (Plain.scan other c.document.print).unplaced =
      ⟨0, c.nextId, c.unplaced.snippets, [], []⟩ := by
    calc (Plain.scan other c.document.print).unplaced
        = c.snippets.foldl (fun e s => s.printed.enter e) (.empty 0) := by rw [hscan, List.foldl_map]
      _ = c.snippets.foldl (fun e s => e.close s.unplaced.draft 0) (.empty 0) :=
          List.foldl_ext _ _ _ fun e s hs => Snippet.enter_printed (hprintable s hs) e
      _ = c.unplaced.snippets.foldl (fun e s => e.close s.draft 0) (.empty 0) := by
          rw [Collector.unplaced, List.foldl_map]
      _ = ⟨0, c.nextId, c.unplaced.snippets, [], []⟩ := hreclosed
  exact ⟨List.map_eq_nil_iff.mp (congrArg Collector.notices hagain),
    congrArg Collector.snippets hagain, fresh_read .plain other _⟩

example : (read .plain 0 "```py\n#%lib: a b \n#%name:\nx\r\r\n```\n```\n```sh\n").print =
    "```python\r\n#%lib:a b\r\nx\r\r\n```\r\n" := by
  decide +kernel

end Document
end Snippetry
