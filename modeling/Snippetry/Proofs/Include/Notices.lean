import Snippetry.Proofs.Include.Truth

/-! # The warnings of a session point to the lines that list the missing names

Only where a name is left out is a notice added, and there the walk is at the line that lists the name.
This holds for every walk of a session, under whichever policies and however it ends. -/
namespace Snippetry

open Relation (ReflTransGen)

namespace Include

/-- The notice says that a name is missing, and shows the line of the source that lists it. -/
inductive Warns (source : Text) (snippets : List Snippet) : Notice → Prop
  | missing {name : Text} {span : Span} {i fileId : Nat} (listed : ListedAt source snippets i name span)
      (unanswered : ∀ s ∈ snippets, s.answersTo name = false) :
      Warns source snippets ⟨.missingReference name (labelAt snippets i), span, fileId⟩

namespace Walk

variable {base : List Snippet} {policy : MissingPolicy} {root : Nat} {setting : Setting} {w v : Walk}
  {source : Text} {n : Notice}

theorem warns_of_move (h : Sound base policy root w) (hf : Fits base policy setting)
    (hr : ∀ f ∈ w.stack, f.Reads base) (hs : Quotes source base) (m : Move setting w v)
    (hn : n ∈ v.notices) : n ∈ w.notices ∨ Warns source base n := by
  cases m with
  | @skip f below name names hstack hp hl hq =>
    rcases List.mem_append.mp hn with hbefore | hnew
    · exact .inl hbefore
    · obtain rfl := List.mem_singleton.mp hnew
      have hlisted : ListedAt source base f.position name f.span :=
        (hr f (by simp [hstack])).listedAt hs (hp ▸ List.mem_cons_self)
      have hnone : firstAnswering base name = none := hf.lookup_none h.memo hl
      rw [(h.top hstack).1.label]
      exact .inr (.missing hlisted (List.findIdx?_eq_none_iff.mp hnone))
  | reuse | enter | read | leave => exact .inl hn

theorem warns_of_moves (h : Sound base policy root w) (hf : Fits base policy setting)
    (hr : ∀ f ∈ w.stack, f.Reads base) (hs : Quotes source base) (m : ReflTransGen (Move setting) w v)
    (hn : n ∈ v.notices) : n ∈ w.notices ∨ Warns source base n := by
  induction m with
  | refl => exact .inl hn
  | tail hu m ih =>
    rcases warns_of_move (h.moves hf hu) hf (reads_moves h hf hr hu) hs m hn with hbefore | hwarns
    · exact ih hbefore
    · exact .inr hwarns

end Walk
end Include

namespace Document

open Include

variable {base : List Snippet} {policy : MissingPolicy} {setting : Setting} {d : Document}
  {source : Text} {n : Notice}

theorem warns_of_expand (h : d.Settled base policy) (hf : Walk.Fits base policy setting)
    (hs : Quotes source base) {root : Nat} (hr : root < d.snippets.length)
    (hn : n ∈ (d.expand setting root).document.notices) : n ∈ d.notices ∨ Warns source base n := by
  have hat : d.snippets[root]? = some d.snippets[root] := List.getElem?_eq_getElem hr
  by_cases hdone : d.snippets[root].isResolved = true
  · rw [expand_of_resolved setting hat hdone] at hn
    exact .inl hn
  · have hstart := Walk.sound_start h hat fun hres => hdone ((isResolved_iff hat).mpr hres)
    obtain ⟨v, hv, hend⟩ := Walk.run_moves setting (d.walkInto root d.snippets[root])
    have hnotices : (d.expand setting root).document.notices = v.notices := by
      rcases hend with ⟨-, hrun⟩ | ⟨e, -, hrun⟩
      · rw [expand_of_open setting hat hdone hrun]
      · rw [expand_of_open setting hat hdone hrun]
    rw [hnotices] at hn
    exact Walk.warns_of_moves hstart hf (reads_walkInto h hat) hs hv hn

/-- What a session adds to the notices of a document are warnings of this kind. -/
theorem warns_of_after (h : d.Settled base .lenient) (hs : Quotes source base)
    (requests : List (MissingPolicy × Request)) :
    ∀ n ∈ (d.after requests).notices, n ∈ d.notices ∨ Warns source base n := by
  apply invariant_after (P := fun e => ∀ n ∈ e.notices, n ∈ d.notices ∨ Warns source base n)
  case step =>
    intro setting e root hf he hr hnotices n hn
    rcases warns_of_expand he hf hs hr hn with hbefore | hwarns
    · exact hnotices n hbefore
    · exact .inr hwarns
  case h => exact h
  case hq => exact fun _ _ => .inr rfl
  case hd => exact fun n hn => .inl hn

end Document
end Snippetry
