import Snippetry.Proofs.Include.Move
import Snippetry.Proofs.Include.Stack

/-! # The walk computes the flattening

The snippets in progress are exactly those on the stack, the stack stands for the flattening of the
root, and what is expanded is remembered with the lines of its flattening. All moves keep this. -/
namespace Snippetry.Include.Walk

/-- A walk that expands `root`. Its memory is that of flattening under `policy`, which need not be the
policy of the walk: what a strict walk has expanded is also what a lenient one would have. -/
structure Sound (base : List Snippet) (policy : MissingPolicy) (root : Nat) (w : Walk) : Prop where
  memo : Memo base policy w.snippets
  inProgress : ∀ i, resolutionAt w.snippets i = some .inProgress ↔ i ∈ trail w.stack
  nodup : (trail w.stack).Nodup
  frames : w.stack = [] ∧ IsResolved w.snippets root ∨
    Stacked base policy w.snippets root none w.stack

/-- The index a walk uses is that of the document, and its memory suits its policy. -/
structure Fits (base : List Snippet) (policy : MissingPolicy) (setting : Setting) : Prop where
  index : ∀ name, setting.index.lookup name = firstAnswering base name
  policy : policy = setting.policy ∨ policy = .lenient

variable {base : List Snippet} {policy : MissingPolicy} {root : Nat} {setting : Setting} {w v : Walk}

theorem resolutionAt_of_lookup {name : Text} {i : Nat} {s : Snippet}
    (h : w.lookup setting name = some (i, s)) : resolutionAt w.snippets i = some s.resolution := by
  simp [resolutionAt, resolution_of_lookup h]

theorem Fits.lookup_some (hf : Fits base policy setting) {name : Text} {i : Nat} {s : Snippet}
    (h : w.lookup setting name = some (i, s)) : firstAnswering base name = some i :=
  (hf.index name).symm.trans (lookup_iff.mp h).1

theorem Fits.lookup_none (hf : Fits base policy setting) (hm : Memo base policy w.snippets)
    {name : Text} (h : w.lookup setting name = none) : firstAnswering base name = none := by
  cases hi : firstAnswering base name with
  | none => rfl
  | some i =>
    have hlt : i < w.snippets.length := by
      rw [length_eq_of_written hm.written]
      exact lt_of_firstAnswering hi
    simp [lookup, hf.index, hi, List.getElem?_eq_getElem hlt] at h

/-- A move changes nothing of a snippet but how far it is expanded. -/
theorem written_of_move (m : Move setting w v) :
    v.snippets.map Snippet.written = w.snippets.map Snippet.written := by
  cases m with
  | skip | reuse | read => rfl
  | enter => exact map_written_mark ..
  | leave => exact map_written_mark ..

theorem written_of_moves (m : Relation.ReflTransGen (Move setting) w v) :
    v.snippets.map Snippet.written = w.snippets.map Snippet.written := by
  induction m with
  | refl => rfl
  | tail _ m ih => exact (written_of_move m).trans ih

namespace Sound

theorem top {f : Frame} {below : List Frame} (h : Sound base policy root w)
    (hs : w.stack = f :: below) :
    f.Faithful base policy w.snippets (trail below) none ∧
      Stacked base policy w.snippets root (some f.position) below := by
  rcases h.frames with ⟨hn, -⟩ | hstacked
  · cases hn.symm.trans hs
  · rw [hs] at hstacked
    cases hstacked with
    | cons top rest => exact ⟨top, rest⟩

theorem not_resolved (h : Sound base policy root w) {i : Nat} (hi : i ∈ trail w.stack) :
    ¬ IsResolved w.snippets i := by
  rintro ⟨lines, hl⟩
  cases ((h.inProgress i).mpr hi).symm.trans hl

theorem reaches (h : Sound base policy root w) {i : Nat} (hi : i ∈ trail w.stack) :
    Relation.ReflTransGen (Includes base) root i := by
  rcases h.frames with ⟨hn, -⟩ | hstacked
  · simp [hn] at hi
  · exact hstacked.reaches.1 i hi

/-- Work on the frame at the top alone. -/
theorem replace_top {f f' : Frame} {below : List Frame} (h : Sound base policy root w)
    (hs : w.stack = f :: below) (hf : f'.Faithful base policy w.snippets (trail below) none)
    (hp : f'.position = f.position) (hv : v.snippets = w.snippets)
    (ht : v.stack = f' :: below) : Sound base policy root v := by
  have htrail : trail v.stack = trail w.stack := by simp [hs, ht, hp]
  refine ⟨hv ▸ h.memo, ?_, htrail ▸ h.nodup, .inr ?_⟩
  · rw [hv, htrail]
    exact h.inProgress
  · rw [hv, ht]
    exact .cons hf (hp ▸ (h.top hs).2)

theorem move_skip {f : Frame} {below : List Frame} {name : Text} {names : List Text}
    (h : Sound base policy root w) (hf : Fits base policy setting) (hs : w.stack = f :: below)
    (hp : f.pending = name :: names) (hl : w.lookup setting name = none)
    (hq : setting.policy = .lenient) :
    Sound base policy root ((w.toNames f names below).skip setting name f.label f.span) := by
  have hn := hf.lookup_none h.memo hl
  have hq' : policy = .lenient := hf.policy.elim (fun hp => hp.trans hq) id
  have hname : flattenName base policy (trail below) f.position f.span name = .ok none := by
    rw [flattenName_missing policy _ _ _ hn, hq']
  have hput := (h.top hs).1.put hp hname (by simp [hn])
  exact h.replace_top hs hput rfl rfl rfl

theorem move_reuse {f : Frame} {below : List Frame} {name : Text} {names : List Text} {i : Nat}
    {s : Snippet} {body : List Text} (h : Sound base policy root w) (hf : Fits base policy setting)
    (hs : w.stack = f :: below) (hp : f.pending = name :: names)
    (hl : w.lookup setting name = some (i, s)) (hr : s.resolution = .resolved body) :
    Sound base policy root
      { w with stack := ({ f with pending := names } : Frame).splice body :: below } := by
  have hi := hf.lookup_some hl
  have hres : resolutionAt w.snippets i = some (.resolved body) := by
    rw [resolutionAt_of_lookup hl, hr]
  have htrail : trail w.stack = trail below ++ [f.position] := by simp [hs]
  have hm : i ∉ trail below ++ [f.position] := by
    intro hi'
    exact h.not_resolved (htrail ▸ hi') ⟨body, hres⟩
  have hbody : flatten base policy (trail below ++ [f.position]) i = .ok body :=
    h.memo.flatten_below (fun k hk => h.not_resolved (htrail ▸ hk)) hres
  have hname : flattenName base policy (trail below) f.position f.span name = .ok (some body) := by
    rw [flattenName_found policy _ hi hm, hbody]
    rfl
  have hput := (h.top hs).1.put hp hname (fun j hj => by
    cases hi.symm.trans hj
    exact ⟨body, hres⟩)
  exact h.replace_top hs hput rfl rfl rfl

theorem move_enter {f : Frame} {below : List Frame} {name : Text} {names : List Text} {i : Nat}
    {s : Snippet} (h : Sound base policy root w) (hf : Fits base policy setting)
    (hs : w.stack = f :: below) (hp : f.pending = name :: names)
    (hl : w.lookup setting name = some (i, s)) (hr : s.resolution = .unvisited) :
    Sound base policy root ((w.toNames f names below).enter i s) := by
  have hi := hf.lookup_some hl
  have hat := resolution_of_lookup hl
  have hres : resolutionAt w.snippets i = some .unvisited := by
    rw [resolutionAt_of_lookup hl, hr]
  have hopen : ¬ IsResolved w.snippets i := by
    rintro ⟨lines, hlines⟩
    cases hres.symm.trans hlines
  have htrail : trail w.stack = trail below ++ [f.position] := by simp [hs]
  have hm : i ∉ trail below ++ [f.position] := by
    intro hi'
    cases ((h.inProgress i).mpr (htrail ▸ hi')).symm.trans hres
  obtain ⟨htop, hrest⟩ := h.top hs
  have hstack : trail ((w.toNames f names below).enter i s).stack = trail w.stack ++ [i] := by
    simp [Walk.enter, toNames, Frame.enter, hs]
  refine ⟨h.memo.mark_open hopen (by simp), fun k => ?_, ?_, .inr ?_⟩
  · rw [hstack, List.mem_append, ← h.inProgress, List.mem_singleton]
    change resolutionAt (mark w.snippets i .inProgress) k = _ ↔ _
    rw [resolutionAt_mark]
    by_cases hk : k = i
    · simp [hk, hres]
    · simp [hk]
  · rw [hstack]
    exact List.nodup_append.mpr ⟨h.nodup, by simp, by
      rintro k hk j hj rfl
      exact hm (htrail ▸ List.mem_singleton.mp hj ▸ hk)⟩
  · refine .cons (.enter ?_ ?_) (.cons ((htop.ask hp hi hm).mono ?_) (hrest.mono ?_))
    · rw [← labelAt_eq_of_written h.memo.written]
      simp [labelAt, hat]
    · rw [← linesAt_eq_of_written h.memo.written]
      simp [linesAt, hat]
    · exact fun k hk => hk.mark hopen _
    · exact fun k hk => hk.mark hopen _

theorem move_leave {f : Frame} {below : List Frame} (h : Sound base policy root w)
    (hs : w.stack = f :: below) (hp : f.pending = []) (hu : f.unread = []) :
    Sound base policy root (w.leave f below) := by
  obtain ⟨htop, hrest⟩ := h.top hs
  have htrail : trail w.stack = trail below ++ [f.position] := by simp [hs]
  have hmem : f.position ∈ trail w.stack := by simp [htrail]
  have hopen := h.not_resolved hmem
  have hlines := htop.lines hp hu
  have hleft : resolutionAt (mark w.snippets f.position (.resolved f.lines)) f.position =
      some (.resolved f.lines) := by
    rw [resolutionAt_mark, if_pos rfl, (h.inProgress _).mpr hmem]
    rfl
  have hstack : trail (w.leave f below).stack = trail below := by
    cases below with
    | nil => rfl
    | cons g rest => simp [leave, Frame.splice]
  have hnodup := h.nodup
  rw [htrail] at hnodup
  refine ⟨?_, fun k => ?_, ?_, ?_⟩
  · exact h.memo.mark_resolved hopen (flatten_drop (trail below) [] _ (by simpa using hlines))
      fun j hj => htop.includes_resolved hp hu hj
  · rw [hstack]
    change resolutionAt (mark w.snippets f.position (.resolved f.lines)) k = _ ↔ _
    by_cases hk : k = f.position
    · rw [hk, hleft]
      have hnot : f.position ∉ trail below := fun hmem' =>
        (List.nodup_append.mp hnodup).2.2 _ hmem' _ (List.mem_singleton_self _) rfl
      simp [hnot]
    · rw [resolutionAt_mark, if_neg hk, h.inProgress, htrail]
      simp [hk]
  · rw [hstack]
    exact hnodup.of_append_left
  · cases hrest with
    | nil => exact .inl ⟨rfl, f.lines, hleft⟩
    | @cons _ g rest top under =>
      refine .inr (.cons ?_ (under.mono fun k hk => hk.mark hopen _))
      exact (top.mono fun k hk => hk.mark hopen _).receive (by simpa using hlines) ⟨f.lines, hleft⟩

theorem move (h : Sound base policy root w) (hf : Fits base policy setting)
    (m : Move setting w v) : Sound base policy root v := by
  cases m with
  | skip hs hp hl hq => exact h.move_skip hf hs hp hl hq
  | reuse hs hp hl hr => exact h.move_reuse hf hs hp hl hr
  | enter hs hp hl hr => exact h.move_enter hf hs hp hl hr
  | @read f below line unread hs hp hu =>
    exact h.replace_top hs ((h.top hs).1.read hp hu) (Frame.position_read f line unread) rfl rfl
  | leave hs hp hu => exact h.move_leave hs hp hu

theorem moves (h : Sound base policy root w) (hf : Fits base policy setting)
    (m : Relation.ReflTransGen (Move setting) w v) : Sound base policy root v := by
  induction m with
  | refl => exact h
  | tail _ m ih => exact ih.move hf m

end Sound

/-- A move touches only what is within reach of the root, and only adds notices. -/
theorem kept_of_move (h : Sound base policy root w) (hf : Fits base policy setting)
    (m : Move setting w v) :
    Kept (Relation.ReflTransGen (Includes base) root) w.snippets v.snippets ∧
      w.notices <+: v.notices := by
  cases m with
  | skip => exact ⟨.refl _ _, List.prefix_append _ _⟩
  | reuse => exact ⟨.refl _ _, List.prefix_rfl⟩
  | read => exact ⟨.refl _ _, List.prefix_rfl⟩
  | @enter f below name names i s hs hp hl hr =>
    refine ⟨.mark ?_ ?_ _, List.prefix_rfl⟩
    · have hleft : name ∈ f.left := by simp [Frame.left, hp]
      exact (h.reaches (by simp [hs])).tail
        ⟨name, (h.top hs).1.left name hleft, hf.lookup_some hl⟩
    · rintro ⟨lines, hlines⟩
      rw [resolutionAt_of_lookup hl, hr] at hlines
      cases hlines
  | @leave f below hs hp hu =>
    have hmem : f.position ∈ trail w.stack := by simp [hs]
    exact ⟨.mark (h.reaches hmem) (h.not_resolved hmem) _, List.prefix_rfl⟩

theorem kept_of_moves (h : Sound base policy root w) (hf : Fits base policy setting)
    (m : Relation.ReflTransGen (Move setting) w v) :
    Kept (Relation.ReflTransGen (Includes base) root) w.snippets v.snippets ∧
      w.notices <+: v.notices := by
  induction m with
  | refl => exact ⟨.refl _ _, List.prefix_rfl⟩
  | @tail u v hu m ih =>
    obtain ⟨hk, hn⟩ := kept_of_move (h.moves hf hu) hf m
    exact ⟨ih.1.trans hk, ih.2.trans hn⟩

/-- A walk is stuck with the error at which the flattening of the root stops. -/
theorem flatten_of_stuck (h : Sound base policy root w) (hf : Fits base policy setting)
    (hq : policy = setting.policy) {e : IncludeError} (hstuck : Stuck setting w e) :
    flatten base policy [] root = .error e := by
  cases hstuck with
  | @missing f below name names hs hp hl hstrict =>
    obtain ⟨htop, hrest⟩ := h.top hs
    refine hrest.error (htop.error hp ?_)
    rw [flattenName_missing policy _ _ _ (hf.lookup_none h.memo hl), hq, hstrict, htop.label]
  | @cyclic f below name names i s hs hp hl hr =>
    obtain ⟨htop, hrest⟩ := h.top hs
    refine hrest.error (htop.error hp ?_)
    have hm : i ∈ trail below ++ [f.position] := by
      have hi := (h.inProgress i).mp (by rw [resolutionAt_of_lookup hl, hr])
      simpa [hs] using hi
    rw [flattenName_cyclic policy _ (hf.lookup_some hl) hm, hrest.labels, htop.label]
    simp

end Snippetry.Include.Walk
