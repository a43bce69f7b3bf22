import Snippetry.Proofs.Include.Flatten

/-! # What the snippets of a document remember of earlier expansions

A snippet that is expanded keeps its lines, and everything it includes is expanded too. Such a memory
agrees with the flattening wherever a walk can meet it. -/
namespace Snippetry

def Snippet.written (s : Snippet) : Snippet := { s with resolution := .unvisited }

namespace Include

def resolutionAt (snippets : List Snippet) (i : Nat) : Option Resolution :=
  (snippets[i]?).map Snippet.resolution

def IsResolved (snippets : List Snippet) (i : Nat) : Prop :=
  ∃ lines, resolutionAt snippets i = some (.resolved lines)

theorem resolutionAt_of_getElem? {snippets : List Snippet} {i : Nat} {s : Snippet}
    (hs : snippets[i]? = some s) : resolutionAt snippets i = some s.resolution := by
  simp [resolutionAt, hs]

section Written

variable {snippets base : List Snippet}

theorem linesAt_eq_of_written (h : snippets.map Snippet.written = base.map Snippet.written) (i : Nat) :
    linesAt snippets i = linesAt base i := by
  have hw (ss : List Snippet) : linesAt (ss.map Snippet.written) i = linesAt ss i := by
    cases hi : ss[i]? <;> simp [linesAt, hi, Snippet.written]
  rw [← hw snippets, h, hw]

theorem labelAt_eq_of_written (h : snippets.map Snippet.written = base.map Snippet.written) (i : Nat) :
    labelAt snippets i = labelAt base i := by
  have hw (ss : List Snippet) : labelAt (ss.map Snippet.written) i = labelAt ss i := by
    cases hi : ss[i]? <;> simp [labelAt, hi, Snippet.written, Snippet.label]
  rw [← hw snippets, h, hw]

theorem firstAnswering_eq_of_written (h : snippets.map Snippet.written = base.map Snippet.written)
    (name : Text) : firstAnswering snippets name = firstAnswering base name := by
  have hw (ss : List Snippet) :
      firstAnswering (ss.map Snippet.written) name = firstAnswering ss name := by
    simp only [firstAnswering, List.findIdx?_map]
    rfl
  rw [← hw snippets, h, hw]

theorem length_eq_of_written (h : snippets.map Snippet.written = base.map Snippet.written) :
    snippets.length = base.length := by
  simpa using congrArg List.length h

end Written

theorem resolutionAt_mark (snippets : List Snippet) (i k : Nat) (r : Resolution) :
    resolutionAt (mark snippets i r) k =
      if k = i then (resolutionAt snippets k).map fun _ => r else resolutionAt snippets k := by
  unfold resolutionAt mark
  rw [List.getElem?_modify]
  by_cases h : i = k
  · subst h
    cases snippets[i]? <;> simp
  · simp [h, Ne.symm h]

theorem map_written_mark (snippets : List Snippet) (i : Nat) (r : Resolution) :
    (mark snippets i r).map Snippet.written = snippets.map Snippet.written := by
  unfold mark
  apply List.ext_getElem?
  intro k
  simp only [List.getElem?_map, List.getElem?_modify]
  cases snippets[k]? with
  | none => rfl
  | some s => by_cases h : i = k <;> simp [h, Snippet.written]

/-- Marking a snippet that is not expanded leaves the expanded ones as they are. -/
theorem resolved_mark {snippets : List Snippet} {i k : Nat} {lines : List Text}
    (h : resolutionAt snippets k = some (.resolved lines)) (hn : ¬ IsResolved snippets i)
    (r : Resolution) : resolutionAt (mark snippets i r) k = some (.resolved lines) := by
  rw [resolutionAt_mark, if_neg, h]
  rintro rfl
  exact hn ⟨lines, h⟩

theorem IsResolved.mark {snippets : List Snippet} {i k : Nat} (h : IsResolved snippets k)
    (hn : ¬ IsResolved snippets i) (r : Resolution) : IsResolved (mark snippets i r) k := by
  obtain ⟨lines, hl⟩ := h
  exact ⟨lines, resolved_mark hl hn r⟩

structure Kept (reach : Nat → Prop) (before after : List Snippet) : Prop where
  written : after.map Snippet.written = before.map Snippet.written
  resolved : ∀ i lines, resolutionAt before i = some (.resolved lines) →
    resolutionAt after i = some (.resolved lines)
  beyond : ∀ i, ¬ reach i → resolutionAt after i = resolutionAt before i

namespace Kept

variable {reach : Nat → Prop} {before middle after : List Snippet}

theorem refl (reach : Nat → Prop) (snippets : List Snippet) : Kept reach snippets snippets :=
  ⟨rfl, fun _ _ h => h, fun _ _ => rfl⟩

theorem trans (h : Kept reach before middle) (h' : Kept reach middle after) :
    Kept reach before after :=
  ⟨h'.written.trans h.written, fun i lines hr => h'.resolved i lines (h.resolved i lines hr),
    fun i hi => (h'.beyond i hi).trans (h.beyond i hi)⟩

theorem mono {wider : Nat → Prop} (h : Kept reach before after) (hw : ∀ i, reach i → wider i) :
    Kept wider before after :=
  ⟨h.written, h.resolved, fun i hi => h.beyond i fun hr => hi (hw i hr)⟩

theorem mark {i : Nat} (hi : reach i) (hn : ¬ IsResolved before i) (r : Resolution) :
    Kept reach before (mark before i r) := by
  refine ⟨map_written_mark before i r, fun k lines hk => resolved_mark hk hn r, fun k hk => ?_⟩
  rw [resolutionAt_mark, if_neg]
  rintro rfl
  exact hk hi

end Kept

/-- The expanded snippets have the lines of their flattening and include only expanded ones. -/
structure Memo (base : List Snippet) (policy : MissingPolicy) (snippets : List Snippet) : Prop where
  written : snippets.map Snippet.written = base.map Snippet.written
  lines : ∀ i out, resolutionAt snippets i = some (.resolved out) →
    flatten base policy [] i = .ok out
  closed : ∀ i j, IsResolved snippets i → Includes base i j → IsResolved snippets j

namespace Memo

variable {base snippets : List Snippet} {policy : MissingPolicy}

/-- Below snippets that are not expanded themselves, an expanded one flattens to its lines. -/
theorem flatten_below (h : Memo base policy snippets) {path : List Nat}
    (hp : ∀ k ∈ path, ¬ IsResolved snippets k) {i : Nat} {out : List Text}
    (hi : resolutionAt snippets i = some (.resolved out)) : flatten base policy path i = .ok out := by
  have hf := flatten_extend h.closed hp [] i ⟨out, hi⟩ (h.lines i out hi)
  rwa [List.append_nil] at hf

theorem mark_open (h : Memo base policy snippets) {i : Nat} (hn : ¬ IsResolved snippets i)
    {r : Resolution} (hr : ∀ out, r ≠ .resolved out) : Memo base policy (mark snippets i r) := by
  have hk (k : Nat) (out : List Text) : resolutionAt (mark snippets i r) k = some (.resolved out) →
      resolutionAt snippets k = some (.resolved out) := by
    rw [resolutionAt_mark]
    split
    · intro hm
      obtain ⟨-, -, hm⟩ := Option.map_eq_some_iff.mp hm
      exact absurd hm (hr out)
    · exact id
  refine ⟨(map_written_mark snippets i r).trans h.written, ?_, ?_⟩
  · intro k out hm
    exact h.lines k out (hk k out hm)
  · rintro k j ⟨out, hm⟩ hj
    exact (h.closed k j ⟨out, hk k out hm⟩ hj).mark hn r

theorem mark_resolved (h : Memo base policy snippets) {i : Nat} (hn : ¬ IsResolved snippets i)
    {out : List Text} (hf : flatten base policy [] i = .ok out)
    (hc : ∀ j, Includes base i j → IsResolved snippets j) :
    Memo base policy (mark snippets i (.resolved out)) := by
  refine ⟨(map_written_mark snippets i _).trans h.written, ?_, ?_⟩
  · intro k lines hk
    rw [resolutionAt_mark] at hk
    split at hk
    · next hki =>
      obtain ⟨-, -, hm⟩ := Option.map_eq_some_iff.mp hk
      cases hm
      rwa [hki]
    · exact h.lines k lines hk
  · rintro k j ⟨lines, hk⟩ hj
    rw [resolutionAt_mark] at hk
    split at hk
    · next hki => exact (hc j (hki ▸ hj)).mark hn _
    · exact (h.closed k j ⟨lines, hk⟩ hj).mark hn _

end Memo

end Include
end Snippetry
