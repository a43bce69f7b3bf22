import Snippetry.Proofs.Fence.Bodies
import Snippetry.Proofs.Include.Session

/-! # Where the lines of an expanded snippet come from

Expanding makes no lines but empty ones: all others are lines of snippets, as they were written. So what
holds of these, such as that a line does not go over its end, holds of the expanded ones too. -/
namespace Snippetry

namespace Include

theorem mem_intercalate_empty {found : List (List Text)} {t : Text} (h : t ∈ [[]].intercalate found) :
    t = [] ∨ ∃ b ∈ found, t ∈ b := by
  cases found with
  | nil => simp at h
  | cons b found =>
    rw [intercalate_cons_eq] at h
    rcases List.mem_append.mp h with h | h
    · exact .inr ⟨b, List.mem_cons_self, h⟩
    · obtain ⟨b', hb', ht⟩ := List.mem_flatMap.mp h
      rcases List.mem_cons.mp ht with rfl | ht
      · exact .inl rfl
      · exact .inr ⟨b', List.mem_cons_of_mem _ hb', ht⟩

theorem body_of_mem_bodies {body : Text → Except IncludeError (Option (List Text))} {names : List Text}
    {found : List (List Text)} (h : bodies body names = .ok found) {b : List Text} (hb : b ∈ found) :
    ∃ name ∈ names, body name = .ok (some b) := by
  induction names generalizing found with
  | nil =>
    obtain rfl : [] = found := Except.ok.inj h
    cases hb
  | cons first names ih =>
    obtain ⟨here, hhere, h⟩ := bind_eq_ok.mp h
    obtain ⟨rest, hrest, h⟩ := bind_eq_ok.mp h
    obtain rfl : here.toList ++ rest = found := Except.ok.inj h
    rcases List.mem_append.mp hb with hb | hb
    · rw [Option.mem_toList] at hb
      exact ⟨first, List.mem_cons_self, hb ▸ hhere⟩
    · obtain ⟨name, hn, hname⟩ := ih hrest hb
      exact ⟨name, List.mem_cons_of_mem _ hn, hname⟩

section Lines

variable {body : Span → Text → Except IncludeError (Option (List Text))} {line : SourceLine}
  {lines : List SourceLine} {out : List Text} {t : Text}

theorem origin_flattenLine (h : flattenLine body line = .ok out) (ht : t ∈ out) :
    t = [] ∨ t = line.text ∨ ∃ name b, body line.span name = .ok (some b) ∧ t ∈ b := by
  unfold flattenLine at h
  split at h
  · obtain rfl := Except.ok.inj h
    exact .inr (.inl (List.mem_singleton.mp ht))
  · obtain ⟨found, hfound, h⟩ := bind_eq_ok.mp h
    obtain rfl := Except.ok.inj h
    rcases mem_intercalate_empty ht with ht | ⟨b, hb, ht⟩
    · exact .inl ht
    · obtain ⟨name, -, hname⟩ := body_of_mem_bodies hfound hb
      exact .inr (.inr ⟨name, b, hname, ht⟩)

theorem origin_flattenLines (h : flattenLines body lines = .ok out) (ht : t ∈ out) :
    t = [] ∨ ∃ line ∈ lines, t = line.text ∨ ∃ name b, body line.span name = .ok (some b) ∧ t ∈ b := by
  induction lines generalizing out with
  | nil =>
    obtain rfl : [] = out := Except.ok.inj h
    cases ht
  | cons first lines ih =>
    obtain ⟨here, hhere, h⟩ := bind_eq_ok.mp h
    obtain ⟨rest, hrest, h⟩ := bind_eq_ok.mp h
    obtain rfl : here ++ rest = out := Except.ok.inj h
    rcases List.mem_append.mp ht with ht | ht
    · exact (origin_flattenLine hhere ht).imp_right fun h => ⟨first, List.mem_cons_self, h⟩
    · refine (ih hrest ht).imp_right ?_
      rintro ⟨line, hl, h⟩
      exact ⟨line, List.mem_cons_of_mem _ hl, h⟩

end Lines

/-- What is true of the empty line and of all lines of the snippets is true of a flattening. -/
theorem forall_mem_flatten {snippets : List Snippet} {policy : MissingPolicy} {p : Text → Prop}
    (hempty : p []) (hlines : ∀ s ∈ snippets, ∀ l ∈ s.rawLines, p l.text) (path : List Nat) (i : Nat)
    {out : List Text} (h : flatten snippets policy path i = .ok out) : ∀ t ∈ out, p t := by
  induction path, i using path_induction snippets generalizing out with
  | step path i ih =>
    intro t ht
    rw [flatten_eq] at h
    rcases origin_flattenLines h ht with rfl | ⟨line, hl, rfl | ⟨name, b, hb, ht⟩⟩
    · exact hempty
    · unfold linesAt at hl
      cases hs : snippets[i]? with
      | none => simp [hs] at hl
      | some s =>
        rw [hs] at hl
        exact hlines s (List.mem_of_getElem? hs) line hl
    · rcases flattenName_eq_ok hb with ⟨-, -, hb⟩ | ⟨j, inner, hf, hm, hinner, hb⟩
      · cases hb
      · obtain rfl := Option.some.inj hb
        exact ih name j hf hm hinner t ht

end Include

namespace Snippet

theorem resolvedLines?_eq_some_iff {s : Snippet} {lines : List Text} :
    s.resolvedLines? = some lines ↔ s.resolution = .resolved lines := by
  unfold resolvedLines?
  cases s.resolution <;> simp

/-- The lines of a snippet that was made do not go over their ends. -/
theorem IsMade.newline_notMem {s : Snippet} (h : s.IsMade) :
    ∀ l ∈ s.rawLines, '\n' ∉ l.text := by
  obtain ⟨c, language, start, lines, stop, rfl, hlines⟩ := h
  intro l hl
  have hraw := (Draft.combines_ofLines language start lines).lines
  have hmem : l ∈ (Draft.ofLines language start lines).lines := hl
  rw [hraw] at hmem
  exact hlines l (List.mem_filter.mp hmem).1

end Snippet

namespace Document

variable {d : Document}

/-- Nor do the lines of expanded snippets, whatever was asked for. -/
theorem IsReading.newline_notMem_resolved (h : d.IsReading)
    (requests : List (Include.MissingPolicy × Request)) {s : Snippet}
    (hs : s ∈ (d.after requests).snippets) {lines : List Text} (hl : s.resolvedLines? = some lines) :
    ∀ t ∈ lines, '\n' ∉ t := by
  have hfresh : d.Fresh := h.of_invariant Collector.invariant_fresh
  have hsettled := (hfresh.settled .lenient).after requests fun _ _ => .inr rfl
  obtain ⟨i, hi⟩ := List.mem_iff_getElem?.mp hs
  have hresolved : Include.resolutionAt (d.after requests).snippets i = some (.resolved lines) := by
    rw [Include.resolutionAt_of_getElem? hi, Snippet.resolvedLines?_eq_some_iff.mp hl]
  have hflatten := hsettled.memo.lines i lines hresolved
  exact Include.forall_mem_flatten (by simp) (fun s hs => (h.made s hs).newline_notMem) [] i hflatten

end Document
end Snippetry
