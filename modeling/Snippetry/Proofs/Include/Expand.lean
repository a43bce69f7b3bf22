import Snippetry.Include.Resolve
import Snippetry.Proofs.Include.Walk
import Snippetry.Proofs.Reading

/-! # Expanding one snippet of a document

Between two expansions no snippet is in progress and every expanded one has the lines of its
flattening. An expansion leads from one such document to another, changes nothing out of reach of the
snippet, and fails as the flattening does. -/
namespace Snippetry

open Include

namespace Document

/-- No walk is on, and what is expanded agrees with the flattening of the snippets in `base`. -/
structure Settled (base : List Snippet) (policy : MissingPolicy) (d : Document) : Prop where
  memo : Memo base policy d.snippets
  idle : ∀ i, resolutionAt d.snippets i ≠ some .inProgress

/-- What a document keeps while only snippets within reach are worked on. -/
structure Kept (reach : Nat → Prop) (before after : Document) : Prop where
  snippets : Include.Kept reach before.snippets after.snippets
  sourceId : after.sourceId = before.sourceId
  notices : before.notices <+: after.notices

namespace Kept

variable {reach : Nat → Prop} {before middle after : Document}

theorem refl (reach : Nat → Prop) (d : Document) : Kept reach d d :=
  ⟨.refl _ _, rfl, List.prefix_rfl⟩

theorem trans (h : Kept reach before middle) (h' : Kept reach middle after) :
    Kept reach before after :=
  ⟨h.snippets.trans h'.snippets, h'.sourceId.trans h.sourceId, h.notices.trans h'.notices⟩

theorem mono {wider : Nat → Prop} (h : Kept reach before after) (hw : ∀ i, reach i → wider i) :
    Kept wider before after :=
  ⟨h.snippets.mono hw, h.sourceId, h.notices⟩

end Kept

theorem Fresh.settled {d : Document} (h : d.Fresh) (policy : MissingPolicy) :
    d.Settled d.snippets policy := by
  have hat (i : Nat) (r : Resolution) (hi : resolutionAt d.snippets i = some r) : r = .unvisited := by
    obtain ⟨s, hs, hr⟩ := Option.map_eq_some_iff.mp hi
    rw [← hr]
    exact h s (List.mem_of_getElem? hs)
  refine ⟨⟨rfl, fun i out hi => ?_, fun i j hi _ => ?_⟩, fun i hi => ?_⟩
  · cases hat i _ hi
  · obtain ⟨lines, hl⟩ := hi
    cases hat i _ hl
  · cases hat i _ hi

/-- Between expansions a snippet is expanded or as it was read. -/
theorem Settled.unvisited_or_resolved {base : List Snippet} {policy : MissingPolicy} {d : Document}
    (h : d.Settled base policy) {i : Nat} (hi : i < d.snippets.length) :
    resolutionAt d.snippets i = some .unvisited ∨ IsResolved d.snippets i := by
  have hat : resolutionAt d.snippets i = some d.snippets[i].resolution :=
    resolutionAt_of_getElem? (List.getElem?_eq_getElem hi)
  have hidle := h.idle i
  unfold IsResolved
  rw [hat] at hidle ⊢
  cases hr : d.snippets[i].resolution with
  | unvisited => exact .inl rfl
  | inProgress => exact absurd (congrArg some hr) hidle
  | resolved lines => exact .inr ⟨lines, rfl⟩

def walkInto (d : Document) (root : Nat) (s : Snippet) : Walk :=
  (⟨d.snippets, d.notices, [], []⟩ : Walk).enter root s

theorem expand_of_resolved (setting : Setting) {d : Document} {i : Nat} {s : Snippet}
    (hs : d.snippets[i]? = some s) (hr : s.isResolved = true) :
    d.expand setting i = ⟨.ok (), d, []⟩ := by
  simp only [expand, hs, if_pos hr]

/-- An expansion of a snippet that is not expanded is a run of the walk. -/
theorem expand_of_open (setting : Setting) {d : Document} {i : Nat} {s : Snippet}
    (hs : d.snippets[i]? = some s) (hr : ¬ s.isResolved = true) {w : Walk} {e? : Option IncludeError}
    (hrun : (d.walkInto i s).run setting = (w, e?)) : d.expand setting i = ⟨e?.elim (.ok ()) .error,
      { d with snippets := e?.elim w.snippets fun _ => w.abandon, notices := w.notices }, w.log⟩ := by
  unfold walkInto at hrun
  simp only [expand, hs, if_neg hr, hrun]
  cases e? <;> rfl

end Document

namespace Include.Walk

variable {base : List Snippet} {policy : MissingPolicy} {root : Nat} {w : Walk}

/-- Taking frames off the stack makes their snippets count as not met. -/
theorem resolutionAt_foldl_mark (stack : List Frame) (snippets : List Snippet) (i : Nat) :
    resolutionAt (stack.foldl (fun snippets f => mark snippets f.position .unvisited) snippets) i =
      if i ∈ trail stack then (resolutionAt snippets i).map fun _ => .unvisited
      else resolutionAt snippets i := by
  induction stack generalizing snippets with
  | nil => simp
  | cons f stack ih =>
    rw [List.foldl_cons, ih, resolutionAt_mark]
    by_cases hf : i = f.position
    · cases resolutionAt snippets i <;> simp [hf]
    · simp [hf]

theorem map_written_abandon (w : Walk) :
    w.abandon.map Snippet.written = w.snippets.map Snippet.written :=
  List.foldlRecOn (motive := fun ss => ss.map Snippet.written = w.snippets.map Snippet.written)
    w.stack _ rfl fun ss h f _ => (map_written_mark ss f.position _).trans h

theorem Sound.resolved_abandon (h : Sound base policy root w) {i : Nat} {lines : List Text} :
    resolutionAt w.abandon i = some (.resolved lines) ↔
      resolutionAt w.snippets i = some (.resolved lines) := by
  unfold abandon
  rw [resolutionAt_foldl_mark]
  split
  · next hi => simp [← h.inProgress] at hi; simp [hi]
  · rfl

theorem Sound.settled_abandon (h : Sound base policy root w) (sourceId : Nat) (notices : List Notice) :
    Document.Settled base policy ⟨w.abandon, sourceId, notices⟩ := by
  refine ⟨⟨(map_written_abandon w).trans h.memo.written, ?_, ?_⟩, ?_⟩
  · intro i out hi
    exact h.memo.lines i out (h.resolved_abandon.mp hi)
  · rintro i j ⟨lines, hl⟩ hj
    obtain ⟨out, ho⟩ := h.memo.closed i j ⟨lines, h.resolved_abandon.mp hl⟩ hj
    exact ⟨out, h.resolved_abandon.mpr ho⟩
  · intro i
    unfold abandon
    rw [resolutionAt_foldl_mark]
    split
    · next hi => simp [(h.inProgress i).mpr hi]
    · next hi => exact fun hp => hi ((h.inProgress i).mp hp)

theorem Sound.kept_abandon (h : Sound base policy root w) :
    Kept (Relation.ReflTransGen (Includes base) root) w.snippets w.abandon := by
  refine ⟨map_written_abandon w, fun i lines hi => h.resolved_abandon.mpr hi, fun i hi => ?_⟩
  unfold abandon
  rw [resolutionAt_foldl_mark, if_neg fun hm => hi (h.reaches hm)]

/-- A walk that has nothing on its stack any more has expanded the root. -/
theorem Sound.settled_done (h : Sound base policy root w) (hs : w.stack = []) (sourceId : Nat)
    (notices : List Notice) : Document.Settled base policy ⟨w.snippets, sourceId, notices⟩ ∧
      IsResolved w.snippets root := by
  refine ⟨⟨h.memo, fun i hi => ?_⟩, ?_⟩
  · have hm := (h.inProgress i).mp hi
    simp [hs] at hm
  · rcases h.frames with ⟨-, hr⟩ | hstacked
    · exact hr
    · rw [hs] at hstacked
      cases hstacked

/-- The walk that has just entered its root. -/
theorem sound_start {d : Document} (h : d.Settled base policy) {s : Snippet}
    (hs : d.snippets[root]? = some s) (hr : ¬ IsResolved d.snippets root) :
    Sound base policy root (d.walkInto root s) := by
  unfold Document.walkInto
  refine ⟨h.memo.mark_open hr (by simp), fun i => ?_, by simp [enter], .inr (.cons (.enter ?_ ?_) .nil)⟩
  · change resolutionAt (mark d.snippets root .inProgress) i = _ ↔ _
    rw [resolutionAt_mark]
    by_cases hi : i = root
    · simp [hi, enter, Frame.enter, resolutionAt, hs]
    · simp [hi, enter, Frame.enter, h.idle i]
  · rw [← labelAt_eq_of_written h.memo.written]
    simp [labelAt, hs]
  · rw [← linesAt_eq_of_written h.memo.written]
    simp [linesAt, hs]

end Include.Walk

namespace Document

variable {base : List Snippet} {policy : MissingPolicy} {setting : Setting} {root : Nat} {d : Document}

theorem isResolved_iff {snippets : List Snippet} {i : Nat} {s : Snippet} (hs : snippets[i]? = some s) :
    s.isResolved = true ↔ IsResolved snippets i := by
  unfold IsResolved resolutionAt Snippet.isResolved Snippet.resolvedLines?
  cases hr : s.resolution <;> simp [hs, hr]

structure Expansion (base : List Snippet) (policy : MissingPolicy) (setting : Setting) (root : Nat)
    (d : Document) (r : Expanded Unit) : Prop where
  settled : r.document.Settled base policy
  kept : d.Kept (Relation.ReflTransGen (Includes base) root) r.document
  done : r.result = .ok () → IsResolved r.document.snippets root
  failed : policy = setting.policy → ∀ e, r.result = .error e → flatten base policy [] root = .error e

theorem expansion (h : d.Settled base policy) (hf : Walk.Fits base policy setting)
    (hr : root < d.snippets.length) : Expansion base policy setting root d (d.expand setting root) := by
  have hs : d.snippets[root]? = some d.snippets[root] := List.getElem?_eq_getElem hr
  by_cases hdone : d.snippets[root].isResolved = true
  · rw [expand_of_resolved setting hs hdone]
    exact ⟨h, .refl _ _, fun _ => (isResolved_iff hs).mp hdone, by simp⟩
  · have hopen : ¬ IsResolved d.snippets root := fun hr => hdone ((isResolved_iff hs).mpr hr)
    have hstart := Walk.sound_start h hs hopen
    have hentered : Include.Kept (Relation.ReflTransGen (Includes base) root) d.snippets
        (mark d.snippets root .inProgress) := .mark .refl hopen _
    obtain ⟨v, hv, hend⟩ := Walk.run_moves setting (d.walkInto root d.snippets[root])
    have hsound := hstart.moves hf hv
    obtain ⟨hkept, hnotices⟩ := Walk.kept_of_moves hstart hf hv
    rcases hend with ⟨hempty, hrun⟩ | ⟨e, hstuck, hrun⟩
    · rw [expand_of_open setting hs hdone hrun]
      obtain ⟨hsettled, hresolved⟩ := hsound.settled_done hempty d.sourceId v.notices
      exact ⟨hsettled, ⟨hentered.trans hkept, rfl, hnotices⟩, fun _ => hresolved, by simp⟩
    · rw [expand_of_open setting hs hdone hrun]
      refine ⟨hsound.settled_abandon d.sourceId v.notices,
        ⟨(hentered.trans hkept).trans hsound.kept_abandon, rfl, hnotices⟩, by simp, ?_⟩
      rintro hq e' he
      cases he
      exact Walk.flatten_of_stuck hsound hf hq hstuck

/-- An expansion under the policy of the memory ends as the flattening does. -/
theorem Expansion.result {r : Expanded Unit} (h : Expansion base policy setting root d r)
    (hq : policy = setting.policy) :
    flatten base policy [] root = r.result.map fun _ =>
      ((r.document.snippets[root]?.bind Snippet.resolvedLines?).getD []) := by
  cases hr : r.result with
  | error e => exact h.failed hq e hr
  | ok u =>
    obtain ⟨lines, hl⟩ := h.done hr
    obtain ⟨s, hs, hres⟩ := Option.map_eq_some_iff.mp hl
    rw [h.settled.memo.lines root lines hl]
    simp [Except.map, hs, Snippet.resolvedLines?, hres]

theorem Expansion.lt_of_mem {r : Expanded Unit} (h : Expansion base policy setting root d r)
    {positions : List Nat} (hp : ∀ i ∈ root :: positions, i < d.snippets.length) :
    ∀ i ∈ positions, i < r.document.snippets.length := by
  intro i hi
  rw [length_eq_of_written h.kept.snippets.written]
  exact hp i (List.mem_cons_of_mem _ hi)

/-- Of several expansions in turn the first fails and is the last, or the others go on from it. -/
theorem expandEach_cons (setting : Setting) (d : Document) (i : Nat) (positions : List Nat) :
    (∃ e, (d.expand setting i).result = .error e ∧
      d.expandEach setting (i :: positions) = d.expand setting i) ∨
    ((d.expand setting i).result = .ok () ∧
      (d.expandEach setting (i :: positions)).result =
        ((d.expand setting i).document.expandEach setting positions).result ∧
      (d.expandEach setting (i :: positions)).document =
        ((d.expand setting i).document.expandEach setting positions).document) := by
  rw [expandEach]
  rcases d.expand setting i with ⟨result, after, log⟩
  cases result with
  | error e => exact .inl ⟨e, rfl, rfl⟩
  | ok u => exact .inr ⟨rfl, rfl, rfl⟩

end Document
end Snippetry
