import Snippetry.Proofs.Fence.Events
import Snippetry.Proofs.Include.Complete
import Snippetry.Proofs.Include.Truth
import Snippetry.Selection

/-! # Numbers, look-ups and selections fit together

The snippets of a document that are no libraries are numbered as they come. So a number is at once a
position, a key to look a snippet up by and a target to expand, and a selection that is granted asks for
nothing that is not there. Expanding snippets does not change that. -/
namespace Snippetry

namespace SnippetId

theorem value_nth_of_lt {k : Nat} (h : k < 4294967295) : (nth k).value = k + 1 := by
  rw [value_nth]
  omega

theorem exists_nth_iff {n : Nat} (hn : n ≤ 4294967295) (id : SnippetId) :
    (∃ k < n, nth k = id) ↔ id.value ≤ n := by
  have hpositive := id.positive
  constructor
  · rintro ⟨k, hk, rfl⟩
    rw [value_nth_of_lt (by omega)]
    omega
  · intro h
    refine ⟨id.value - 1, by omega, ?_⟩
    ext
    rw [value_nth_of_lt (by omega)]
    omega

end SnippetId

namespace Document

/-- A document that comes from a source, or from any sequence of events of a reader of CommonMark. -/
inductive IsReading : Document → Prop
  | source (style : FenceStyle) (fileId : Nat) (source : Text) : IsReading (read style fileId source)
  | events (fileId : Nat) (events : List Matched.Event) :
      IsReading (Matched.readEvents fileId events).document

theorem IsReading.of_invariant {p : Document → Prop}
    (hp : Collector.Invariant fun c => p c.document) {d : Document} (h : d.IsReading) : p d := by
  cases h with
  | source style fileId source => exact hp.collectWith Markdown.fencedBlocks style fileId source
  | events fileId events => exact hp.readEvents fileId events

/-- The `n` snippets that are no libraries are numbered from 1 to `n`, and found by these numbers and no
others; a selection is granted if it asks for these numbers only, and what it grants can be expanded. -/
structure Coherent (n : Nat) (d : Document) : Prop where
  count : d.nonLibraries.length = n
  ids : d.ids.map SnippetId.value = List.range' 1 n
  get : ∀ id, d.get? id = d.nonLibraries[id.value - 1]?
  all : d.select .all = .ok d.ids
  granted : ∀ ids, d.select (.ids ids) = .ok ids ↔ ∀ id ∈ ids, id.value ≤ n
  refused : ∀ before id after, (∀ i ∈ before, i.value ≤ n) → n < id.value →
    d.select (.ids (before ++ id :: after)) = .error (.unknownId id d.ids)
  targets : ∀ selection ids, d.select selection = .ok ids → ∀ id ∈ ids, ∀ policy target,
    (d.resolve policy (.id id)).result ≠ .error (.unknownTarget target)

/-- The numbers of the snippets that are no libraries are the first `n`, in order. -/
structure Dense (n : Nat) (d : Document) : Prop where
  identified : d.Identified
  ids : d.ids = (List.range n).map .nth

variable {d : Document} {n : Nat}

/-- Numbers are granted as they are asked for, if there are snippets with all of them. -/
theorem select_ids_iff {ids found : List SnippetId} :
    d.select (.ids ids) = .ok found ↔ found = ids ∧ ∀ id ∈ ids, id ∈ d.ids := by
  have hnone : (ids.find? fun id => !d.ids.contains id) = none ↔ ∀ id ∈ ids, id ∈ d.ids := by
    simp
  rw [← hnone, select]
  cases ids.find? fun id => !d.ids.contains id with
  | none => simp [eq_comm]
  | some id => simp

theorem IsReading.dense (h : d.IsReading) : d.Dense d.nonLibraries.length := by
  have hidentified := h.of_invariant Collector.invariant_identified
  obtain ⟨n, hids⟩ : ∃ n, d.ids = (List.range n).map .nth := by
    cases h with
    | source style fileId source => exact ids_readWith Markdown.fencedBlocks style fileId source
    | events fileId events =>
      obtain ⟨n, -, hids⟩ := Collector.invariant_numbered.readEvents fileId events
      exact ⟨n, hids⟩
  refine ⟨hidentified, ?_⟩
  rw [hidentified.length_nonLibraries, hids, List.length_map, List.length_range]

namespace Dense

theorem count (h : d.Dense n) : d.nonLibraries.length = n := by
  rw [h.identified.length_nonLibraries, h.ids, List.length_map, List.length_range]

/-- The number of a snippet is its position. -/
theorem id_of_getElem? (h : d.Dense n) {k : Nat} {s : Snippet} (hs : d.nonLibraries[k]? = some s) :
    k < n ∧ s.id = some (.nth k) := by
  have hk : k < n := h.count ▸ (List.getElem?_eq_some_iff.mp hs).1
  have hid := congrArg (fun ids => ids[k]?) h.identified.map_id_nonLibraries
  simp only [List.getElem?_map, hs, h.ids, List.getElem?_range hk, Option.map_some,
    Option.some.injEq] at hid
  exact ⟨hk, hid⟩

theorem of_written (h : d.Dense n) {e : Document}
    (hw : e.snippets.map Snippet.written = d.snippets.map Snippet.written) : e.Dense n := by
  refine ⟨fun s hs => ?_, (ids_eq_of_written hw).trans h.ids⟩
  obtain ⟨t, ht, hwritten⟩ := List.mem_map.mp (hw ▸ List.mem_map_of_mem (f := Snippet.written) hs)
  have hid : t.id = s.id := by simpa [Snippet.written] using congrArg Snippet.id hwritten
  have hlibrary : t.isLibrary = s.isLibrary := by
    simpa [Snippet.written] using congrArg Snippet.isLibrary hwritten
  rw [← hid, ← hlibrary]
  exact h.identified t ht

section Bounded

variable (h : d.Dense n) (hn : n ≤ 4294967295)
include h hn

theorem mem_ids_iff (id : SnippetId) : id ∈ d.ids ↔ id.value ≤ n := by
  rw [h.ids, ← SnippetId.exists_nth_iff hn]
  simp

theorem map_value_ids : d.ids.map SnippetId.value = List.range' 1 n := by
  rw [h.ids, List.range'_eq_map_range, List.map_map]
  refine List.map_congr_left fun k hk => ?_
  have := List.mem_range.mp hk
  rw [Function.comp_apply, SnippetId.value_nth_of_lt (by omega), Nat.add_comm]

theorem getElem?_of_id {s : Snippet} (hs : s ∈ d.snippets) {id : SnippetId} (hid : s.id = some id) :
    d.nonLibraries[id.value - 1]? = some s := by
  have hlibrary : s.isLibrary = false := by simpa [hid] using h.identified s hs
  have hmem : s ∈ d.nonLibraries := List.mem_filter.mpr ⟨hs, by simp [hlibrary]⟩
  obtain ⟨k, hk⟩ := List.mem_iff_getElem?.mp hmem
  obtain ⟨hlt, hnth⟩ := h.id_of_getElem? hk
  obtain rfl : .nth k = id := Option.some.inj (hnth.symm.trans hid)
  rwa [SnippetId.value_nth_of_lt (by omega), Nat.add_sub_cancel]

/-- A look-up passes over the libraries and finds the snippet at the position that is the number. -/
theorem get?_eq (id : SnippetId) : d.get? id = d.nonLibraries[id.value - 1]? := by
  cases hget : d.get? id with
  | some s =>
    have hid : s.id = some id := by simpa using List.find?_some hget
    exact (h.getElem?_of_id hn (List.mem_of_find?_eq_some hget) hid).symm
  | none =>
    cases hs : d.nonLibraries[id.value - 1]? with
    | none => rfl
    | some s =>
      obtain ⟨hlt, hnth⟩ := h.id_of_getElem? hs
      have hpositive := id.positive
      have hid : SnippetId.nth (id.value - 1) = id := by
        ext
        rw [SnippetId.value_nth_of_lt (by omega)]
        omega
      have hmem := (List.mem_filter.mp (List.mem_of_getElem? hs)).1
      exact absurd (hid ▸ hnth) (by simpa using List.find?_eq_none.mp hget s hmem)

theorem select_ids_eq_ok_iff (ids : List SnippetId) :
    d.select (.ids ids) = .ok ids ↔ ∀ id ∈ ids, id.value ≤ n := by
  simp [select_ids_iff, h.mem_ids_iff hn]

theorem select_ids_eq_error {before after : List SnippetId} {id : SnippetId}
    (hb : ∀ i ∈ before, i.value ≤ n) (hid : n < id.value) :
    d.select (.ids (before ++ id :: after)) = .error (.unknownId id d.ids) := by
  have hfound : ((before ++ id :: after).find? fun id => !d.ids.contains id) = some id := by
    have hbefore : (before.find? fun id => !d.ids.contains id) = none := by
      simpa [h.mem_ids_iff hn] using hb
    have hunknown : (!d.ids.contains id) = true := by
      simpa [h.mem_ids_iff hn] using hid
    rw [List.find?_append, hbefore, Option.none_or]
    exact List.find?_cons_of_pos hunknown
  rw [select, hfound]

end Bounded

end Dense

/-- What a selection grants are numbers of the document. -/
theorem mem_ids_of_select {selection : Selection} {ids : List SnippetId}
    (hs : d.select selection = .ok ids) {id : SnippetId} (hid : id ∈ ids) : id ∈ d.ids := by
  cases selection with
  | all =>
    obtain rfl : d.ids = ids := Except.ok.inj hs
    exact hid
  | ids wanted =>
    obtain ⟨rfl, hall⟩ := select_ids_iff.mp hs
    exact hall id hid

/-- To expand a snippet that is there can fail, but not because it is not there. -/
theorem Settled.resolve_ne_unknownTarget {base : List Snippet} (h : d.Settled base .lenient)
    {id : SnippetId} (hid : id ∈ d.ids) (policy : Include.MissingPolicy) (target : Target) :
    (d.resolve policy (.id id)).result ≠ .error (.unknownTarget target) := by
  intro herror
  have hfails : (Request.one (.id id)).failure? policy d = some (.unknownTarget target) := by
    simp [Request.failure?, herror, Except.map]
  rcases stuckAt_of_failure h (.inr rfl) hfails with
    ⟨target, hr, -, hnone⟩ | ⟨root, after, -, w, -, -, hstuck, -⟩
  · cases hr
    obtain ⟨s, hs, hsid⟩ := List.mem_filterMap.mp hid
    simpa [hsid] using List.findIdx?_eq_none_iff.mp hnone s hs
  · cases hstuck

/-- In a document as it is read, by whichever style or from whichever events, a snippet has a number
unless it is a library, and the numbers are in order from 1, up to the largest one. As long as they do
not run out, they fit together with look-ups, selections and expansions, whatever has been asked of the
document before. -/
theorem coherent_after (h : d.IsReading) (requests : List (Include.MissingPolicy × Request)) :
    (∀ s ∈ d.snippets, s.id = none ↔ s.isLibrary = true) ∧
    (∀ k s, d.nonLibraries[k]? = some s → ∃ id, s.id = some id ∧ id.value = min (k + 1) 4294967295) ∧
    (d.nonLibraries.length ≤ 4294967295 →
      (d.after requests).Coherent d.nonLibraries.length) := by
  have hdense := h.dense
  refine ⟨hdense.identified, fun k s hs => ?_, fun hn => ?_⟩
  · exact ⟨_, (hdense.id_of_getElem? hs).2, SnippetId.value_nth k⟩
  · have hfresh : d.Fresh := h.of_invariant Collector.invariant_fresh
    have hsettled := (hfresh.settled .lenient).after requests fun _ _ => .inr rfl
    have hafter := hdense.of_written hsettled.memo.written
    exact {
      count := hafter.count
      ids := hafter.map_value_ids hn
      get := hafter.get?_eq hn
      all := rfl
      granted := hafter.select_ids_eq_ok_iff hn
      refused := fun _ _ _ => hafter.select_ids_eq_error hn
      targets := fun _ _ hs _ hid => hsettled.resolve_ne_unknownTarget (mem_ids_of_select hs hid) }

/-- A library, a block that is ignored, one that is cut off by the next, and text outside of blocks. -/
def interrupted : List Matched.Event :=
  [.opening "sh" ⟨0, 20⟩, .text ⟨"#%lib: base\nb", 6⟩, .closing, .opening "rust" ⟨21, 33⟩, .closing,
    .text ⟨"aside", 34⟩, .opening "perl" ⟨40, 60⟩, .opening "sh -e" ⟨47, 80⟩,
    .text ⟨"#%inc: ba", 53⟩, .other, .text ⟨"se, none\n", 62⟩, .closing, .closing,
    .opening "awk" ⟨81, 95⟩, .closing]

theorem coherent_interrupted :
    (Matched.readEvents 0 interrupted).document.IsReading ∧
    (Matched.readEvents 0 interrupted).document.nonLibraries.length = 2 ∧ 2 ≤ 4294967295 ∧
    ((Matched.readEvents 0 interrupted).document.after
      [(.strict, .all), (.lenient, .one (.name "base"))]).Coherent 2 := by
  have h : (Matched.readEvents 0 interrupted).document.IsReading := .events 0 interrupted
  have hcount : (Matched.readEvents 0 interrupted).document.nonLibraries.length = 2 := by
    decide +kernel
  have hcoherent := (coherent_after h [(.strict, .all), (.lenient, .one (.name "base"))]).2.2
  rw [hcount] at hcoherent
  exact ⟨h, hcount, by decide, hcoherent (by decide)⟩

end Document
end Snippetry
