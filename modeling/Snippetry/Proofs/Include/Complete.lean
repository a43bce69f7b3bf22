import Snippetry.Proofs.Include.Session

/-! # Expanding a whole document

All snippets are expanded one after the other if each of them can be. From then on a request for one
finds it expanded and leaves the document as it is. -/
namespace Snippetry

open Include

namespace Document

variable {base : List Snippet} {policy : MissingPolicy} {setting : Setting} {d : Document}

def Complete (d : Document) : Prop := ∀ s ∈ d.snippets, s.isResolved = true

theorem expand_eq_ok_iff (h : d.Settled base policy) (hf : Walk.Fits base policy setting)
    (hq : policy = setting.policy) {i : Nat} (hi : i < d.snippets.length) :
    (d.expand setting i).result = .ok () ↔ ∃ lines, flatten base policy [] i = .ok lines := by
  rw [(expansion h hf hi).result hq]
  cases (d.expand setting i).result <;> simp [Except.map]

/-- One snippet after the other can be expanded if each of them can. -/
theorem expandEach_eq_ok_iff (h : d.Settled base policy) (hf : Walk.Fits base policy setting)
    (hq : policy = setting.policy) {positions : List Nat}
    (hp : ∀ i ∈ positions, i < d.snippets.length) :
    (d.expandEach setting positions).result = .ok () ↔
      ∀ i ∈ positions, ∃ lines, flatten base policy [] i = .ok lines := by
  induction positions generalizing d with
  | nil => simp [expandEach]
  | cons i positions ih =>
    have hi := hp i List.mem_cons_self
    have hfirst := expand_eq_ok_iff h hf hq hi
    have hexp := expansion h hf hi
    rw [List.forall_mem_cons, ← hfirst]
    rcases expandEach_cons setting d i positions with ⟨e, he, hstops⟩ | ⟨hok, hresult, -⟩
    · simp [hstops, he]
    · rw [hresult, ih hexp.settled (hexp.lt_of_mem hp)]
      exact (and_iff_right hok).symm

theorem isResolved_of_expandEach (h : d.Settled base policy) (hf : Walk.Fits base policy setting)
    {positions : List Nat} (hp : ∀ i ∈ positions, i < d.snippets.length)
    (hok : (d.expandEach setting positions).result = .ok ()) {i : Nat} (hi : i ∈ positions) :
    IsResolved (d.expandEach setting positions).document.snippets i := by
  induction positions generalizing d with
  | nil => cases hi
  | cons j positions ih =>
    have hexp := expansion h hf (hp j List.mem_cons_self)
    rcases expandEach_cons setting d j positions with ⟨e, he, hstops⟩ | ⟨hfirst, hresult, hdocument⟩
    · rw [hstops, he] at hok
      cases hok
    · have hrest := hexp.lt_of_mem hp
      rw [hresult] at hok
      rw [hdocument]
      rcases List.mem_cons.mp hi with rfl | hi
      · obtain ⟨lines, hl⟩ := hexp.done hfirst
        have hkept := (expandEach_settled hf positions hexp.settled hrest).2
        exact ⟨lines, hkept.snippets.resolved i lines hl⟩
      · exact ih hexp.settled hrest hok hi

theorem resolveAll_eq_ok_iff (h : d.Settled base policy) : (d.resolveAll policy).result = .ok () ↔
    ∀ i, (d.expand (d.setting policy) i).result = .ok () := by
  have hf := h.fits (.inl rfl : policy = policy ∨ _)
  unfold resolveAll
  rw [expandEach_eq_ok_iff h hf rfl fun i hi => List.mem_range.mp hi]
  constructor
  · intro hall i
    by_cases hi : i < d.snippets.length
    · exact (expand_eq_ok_iff h hf rfl hi).mpr (hall i (List.mem_range.mpr hi))
    · simp [expand, List.getElem?_eq_none (Nat.le_of_not_lt hi)]
  · intro hall i hi
    exact (expand_eq_ok_iff h hf rfl (List.mem_range.mp hi)).mp (hall i)

theorem complete_resolveAll (h : d.Settled base policy)
    (hok : (d.resolveAll policy).result = .ok ()) : (d.resolveAll policy).document.Complete := by
  have hf := h.fits (.inl rfl : policy = policy ∨ _)
  have hp : ∀ i ∈ List.range d.snippets.length, i < d.snippets.length := fun i => List.mem_range.mp
  have hkept := (expandEach_settled hf _ h hp).2.snippets.written
  intro s hs
  obtain ⟨i, hi⟩ := List.mem_iff_getElem?.mp hs
  refine (isResolved_iff hi).mpr (isResolved_of_expandEach h hf hp hok (List.mem_range.mpr ?_))
  rw [← length_eq_of_written hkept]
  exact (List.getElem?_eq_some_iff.mp hi).1

theorem ids_eq_of_written {e : Document}
    (h : d.snippets.map Snippet.written = e.snippets.map Snippet.written) : d.ids = e.ids := by
  have hw (ss : List Snippet) : (ss.map Snippet.written).filterMap Snippet.id =
      ss.filterMap Snippet.id := List.filterMap_map ..
  rw [ids, ids, ← hw, h, hw]

theorem ids_resolveAll (h : d.Settled base policy) : (d.resolveAll policy).document.ids = d.ids :=
  ids_eq_of_written (expandEach_settled (h.fits (.inl rfl)) _ h
    fun _ => List.mem_range.mp).2.snippets.written

theorem exists_get? {id : SnippetId} (h : id ∈ d.ids) : ∃ s ∈ d.snippets, d.get? id = some s := by
  obtain ⟨s, hs, hid⟩ := List.mem_filterMap.mp h
  have hsome : (d.get? id).isSome := List.find?_isSome.mpr ⟨s, hs, by simp [hid]⟩
  obtain ⟨t, ht⟩ := Option.isSome_iff_exists.mp hsome
  exact ⟨t, List.mem_of_find?_eq_some ht, ht⟩

/-- In a document that is expanded as a whole there is nothing left to do for a snippet. -/
theorem Complete.resolve (h : d.Complete) (policy : MissingPolicy) {id : SnippetId} (hid : id ∈ d.ids) :
    ∃ lines, d.resolve policy (.id id) = ⟨.ok lines, d, []⟩ := by
  obtain ⟨s, hs, hsid⟩ := List.mem_filterMap.mp hid
  have hsome : (d.locate (.id id)).isSome := by
    simpa [locate] using ⟨s, hs, hsid⟩
  obtain ⟨i, hi⟩ := Option.isSome_iff_exists.mp hsome
  have hlt := locate_lt hi
  have hdone := expand_of_resolved (d.setting policy) (List.getElem?_eq_getElem hlt)
    (h _ (List.getElem_mem hlt))
  rw [resolve_of_located hi, hdone]
  exact ⟨_, rfl⟩

end Document

end Snippetry
