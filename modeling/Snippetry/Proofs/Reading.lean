import Snippetry.Reading

/-! # What every reading of a source keeps

Whichever way the blocks of a source are found, a collector takes them in by opening, closing and
dropping drafts. What these keep holds of every document that is read. -/
namespace Snippetry

/-- A property that a collector has from the start, and keeps whatever it is given. -/
structure Collector.Invariant (p : Collector → Prop) : Prop where
  empty : ∀ fileId, p (empty fileId)
  openBlock : ∀ {c}, p c → ∀ tag span, p (c.openBlock tag span).1
  close : ∀ {c}, p c → ∀ d stop, p (c.close d stop)
  unterminated : ∀ {c}, p c → ∀ d stop, p (c.unterminated d stop)

namespace Collector.Invariant

variable {p : Collector → Prop}

theorem step_plain (h : Invariant p) (s : Plain.Scan) (line : Line) (hs : p s.collector) :
    p (s.step line).collector := by
  unfold Plain.Scan.step
  split
  · exact h.openBlock hs _ _
  · exact hs
  · exact hs
  · exact h.close hs _ _
  · exact hs
  · exact hs

theorem scan_plain (h : Invariant p) (fileId : Nat) (source : Text) : p (Plain.scan fileId source) := by
  have hrun : p ((Text.lines source).foldl Plain.Scan.step (.start fileId)).collector :=
    List.foldlRecOn (motive := fun s : Plain.Scan => p s.collector) _ _ (h.empty fileId)
      fun s hs line _ => h.step_plain s line hs
  unfold Plain.scan Plain.Scan.finish
  split
  · exact h.unterminated hrun _ _
  · exact hrun

theorem collect_matched (h : Invariant p) (c : Collector) (block : Markdown.FencedBlock) (hc : p c) :
    p (Matched.collect c block) := by
  unfold Matched.collect
  split
  · exact hc
  · next tag _ =>
    have hopen := h.openBlock hc tag block.span
    split
    · next c' he => rwa [he] at hopen
    · next c' draft he =>
      rw [he] at hopen
      exact h.close hopen _ _

theorem scan_matched (h : Invariant p) (fileId : Nat) (blocks : List Markdown.FencedBlock) :
    p (Matched.scan fileId blocks) :=
  List.foldlRecOn (motive := p) _ _ (h.empty fileId) fun c hc block _ => h.collect_matched c block hc

theorem collectWith (h : Invariant p) (blocks : Text → List Markdown.FencedBlock)
    (style : FenceStyle) (fileId : Nat) (source : Text) :
    p (Document.collectWith blocks style fileId source) := by
  cases style with
  | plain => exact h.scan_plain fileId source
  | matched => exact h.scan_matched fileId (blocks source)

end Collector.Invariant

/-- A closed draft becomes the last snippet. -/
theorem Collector.exists_close_snippets (c : Collector) (d : Draft) (stop : Nat) :
    ∃ id, (c.close d stop).snippets = c.snippets ++ [⟨id, d.language, d.name, d.aliasName, d.isLibrary,
      d.lines, .unvisited, ⟨d.start, stop⟩⟩] := by
  unfold close
  split <;> exact ⟨_, rfl⟩

/-! ## Nothing is expanded yet -/

def Document.Fresh (d : Document) : Prop := ∀ s ∈ d.snippets, s.resolution = .unvisited

theorem Collector.invariant_fresh : Invariant fun c => c.document.Fresh where
  empty fileId := by simp [Document.Fresh, document, Collector.empty]
  openBlock h tag span := by
    unfold Collector.openBlock
    split <;> exact h
  close {c} h d stop := by
    obtain ⟨id, hclose⟩ := c.exists_close_snippets d stop
    intro s hs
    rw [document, hclose] at hs
    rcases List.mem_append.mp hs with hs | hs
    · exact h s hs
    · rw [List.mem_singleton.mp hs]
  unterminated h d stop := h

theorem Document.fresh_readWith (blocks : Text → List Markdown.FencedBlock) (style : FenceStyle)
    (fileId : Nat) (source : Text) : (readWith blocks style fileId source).Fresh :=
  Collector.invariant_fresh.collectWith blocks style fileId source

theorem Document.fresh_read (style : FenceStyle) (fileId : Nat) (source : Text) :
    (read style fileId source).Fresh :=
  fresh_readWith Markdown.fencedBlocks style fileId source

/-! ## Libraries have no number -/

namespace Document

def nonLibraries (d : Document) : List Snippet := d.snippets.filter fun s => !s.isLibrary

def Identified (d : Document) : Prop := ∀ s ∈ d.snippets, s.id = none ↔ s.isLibrary = true

theorem Identified.map_id_nonLibraries {d : Document} (h : d.Identified) :
    d.nonLibraries.map Snippet.id = d.ids.map some := by
  have hlist (ss : List Snippet) (hs : ∀ s ∈ ss, s.id = none ↔ s.isLibrary = true) :
      (ss.filter fun s => !s.isLibrary).map Snippet.id = (ss.filterMap Snippet.id).map some := by
    induction ss with
    | nil => rfl
    | cons s ss ih =>
      have hfirst := hs s List.mem_cons_self
      have hrest := ih fun t ht => hs t (List.mem_cons_of_mem _ ht)
      cases hid : s.id with
      | none => simpa [hfirst.mp hid, hid] using hrest
      | some id =>
        have hlibrary : s.isLibrary = false := by simpa [hid] using hfirst
        simpa [hlibrary, hid] using hrest
  exact hlist d.snippets h

theorem Identified.length_nonLibraries {d : Document} (h : d.Identified) :
    d.nonLibraries.length = d.ids.length := by
  simpa using congrArg List.length h.map_id_nonLibraries

end Document

theorem Collector.invariant_identified : Invariant fun c => c.document.Identified where
  empty fileId := by simp [Document.Identified, document, Collector.empty]
  openBlock h tag span := by
    unfold Collector.openBlock
    split <;> exact h
  close {c} h d stop := by
    unfold Collector.close
    intro s hs
    split at hs <;> simp only [document, List.mem_append, List.mem_singleton] at hs
    all_goals
      rcases hs with hs | rfl
      · exact h s hs
      · simp [*]
  unterminated h d stop := h

/-! ## Snippets are numbered in order -/

namespace SnippetId

@[ext] theorem ext {a b : SnippetId} (h : a.value = b.value) : a = b := by
  cases a
  cases b
  simpa using h

def nth : Nat → SnippetId
  | 0 => first
  | n + 1 => (nth n).next

theorem value_nth (n : Nat) : (nth n).value = min (n + 1) 4294967295 := by
  induction n with
  | zero => rfl
  | succ n ih =>
    unfold nth next
    split
    · dsimp only
      omega
    · omega

end SnippetId

namespace Collector

/-- So many numbers are given, and the next one is at hand. -/
def Numbered (c : Collector) : Prop :=
  ∃ n, c.nextId = .nth n ∧ c.document.ids = (List.range n).map .nth

theorem invariant_numbered : Invariant Numbered where
  empty _ := ⟨0, rfl, rfl⟩
  openBlock h tag span := by
    unfold openBlock
    split <;> exact h
  close h d stop := by
    obtain ⟨n, hnext, hids⟩ := h
    simp only [document, Document.ids] at hids
    unfold close
    split
    · exact ⟨n, hnext, by simp [document, Document.ids, hids]⟩
    · exact ⟨n + 1, congrArg SnippetId.next hnext, by
        simp [document, Document.ids, hids, hnext, List.range_succ]⟩
  unterminated h d stop := h

end Collector

/-- The snippets that are no libraries are numbered in order from 1, up to the largest number. -/
theorem Document.ids_readWith (blocks : Text → List Markdown.FencedBlock) (style : FenceStyle)
    (fileId : Nat) (source : Text) :
    ∃ n, (readWith blocks style fileId source).ids = (List.range n).map .nth := by
  obtain ⟨n, -, hids⟩ := Collector.invariant_numbered.collectWith blocks style fileId source
  exact ⟨n, hids⟩

theorem Document.sorted_ids_readWith (blocks : Text → List Markdown.FencedBlock) (style : FenceStyle)
    (fileId : Nat) (source : Text) :
    ((readWith blocks style fileId source).ids.map SnippetId.value).Pairwise (· ≤ ·) := by
  obtain ⟨n, hids⟩ := ids_readWith blocks style fileId source
  rw [hids, List.map_map, List.pairwise_map]
  refine List.pairwise_lt_range.imp fun hlt => ?_
  simp only [Function.comp_apply, SnippetId.value_nth]
  omega

end Snippetry
