import Mathlib.Algebra.GroupWithZero.Nat
import Snippetry.Proofs.Include.Move
import Snippetry.Proofs.Include.Session

/-! # How many turns a walk takes

The walk is a loop. Each of its turns takes a name, a line or a frame off what lies on the stack, and
only entering a snippet puts its lines there. A snippet is entered when it has not been met, and it
stays met as long as the walk goes on. So the loop ends, and it takes no more turns than the snippets
entered have lines and names, and one more for each. -/
namespace Snippetry

namespace Include

/-! ## Work on the stack -/

theorem linesWork_eq (lines : List SourceLine) :
    linesWork lines = lines.length + (listed lines).length := by
  induction lines with
  | nil => rfl
  | cons line lines ih =>
    have hlisted : listed (line :: lines) = namesOf line ++ listed lines := rfl
    have hwork : linesWork (line :: lines) = 1 + (namesOf line).length + linesWork lines := rfl
    rw [hwork, ih, hlisted, List.length_append, List.length_cons]
    omega

/-- The turns it takes to go through the snippet at `i`: one for each of its lines and for each of the
names they list, and one to leave it. -/
def turnsFor (snippets : List Snippet) (i : Nat) : Nat :=
  (linesAt snippets i).length + (listed (linesAt snippets i)).length + 1

theorem turnsFor_eq_of_written {snippets base : List Snippet}
    (h : snippets.map Snippet.written = base.map Snippet.written) (i : Nat) :
    turnsFor snippets i = turnsFor base i := by
  unfold turnsFor
  rw [linesAt_eq_of_written h]

theorem work_enter {snippets : List Snippet} {i : Nat} {s : Snippet} (hs : snippets[i]? = some s) :
    (Frame.enter i s).work = turnsFor snippets i := by
  have hlines : linesAt snippets i = s.rawLines := by simp [linesAt, hs]
  have hwork : (Frame.enter i s).work = 1 + linesWork s.rawLines := rfl
  rw [hwork, linesWork_eq, turnsFor, hlines]
  omega

theorem Frame.work_names {f : Frame} {name : Text} {names : List Text} (hp : f.pending = name :: names) :
    ({ f with pending := names } : Frame).work + 1 = f.work := by
  simp only [Frame.work, hp, List.length_cons]
  omega

namespace Walk

variable {setting : Setting} {w v : Walk}

/-- The snippet that the turn taken at `w` enters: it comes to lie on the stack. -/
def entering? (setting : Setting) (w : Walk) : Option Nat :=
  match w.step setting with
  | .next v => if w.stack.length < v.stack.length then v.stack.head?.map Frame.position else none
  | _ => none

/-- From `w` on the loop takes a turn at each of the walks listed, and then it ends with a result. -/
inductive Turns (setting : Setting) : Walk → List Walk → Walk × Option IncludeError → Prop
  /-- The stack is empty. -/
  | done {w : Walk} (h : w.step setting = .done) : Turns setting w [] (w, none)
  /-- The loop is left in the middle of a turn. -/
  | failed {w : Walk} {e : IncludeError} (h : w.step setting = .failed e) :
      Turns setting w [w] (w, some e)
  | next {w v : Walk} {turns : List Walk} {result : Walk × Option IncludeError}
      (h : w.step setting = .next v) (rest : Turns setting v turns result) :
      Turns setting w (w :: turns) result

def entered (setting : Setting) (turns : List Walk) : List Nat := turns.filterMap (entering? setting)

theorem exists_turns (setting : Setting) (w : Walk) : ∃ turns, Turns setting w turns (w.run setting) := by
  fun_induction run setting w with
  | case1 w h => exact ⟨[], .done h⟩
  | case2 w e h => exact ⟨[w], .failed h⟩
  | case3 w v h ih =>
    obtain ⟨turns, hturns⟩ := ih
    exact ⟨w :: turns, .next h hturns⟩

/-! ## One turn -/

/-- What a turn that does not end the loop does: it takes one off the work on the stack, and may enter a
snippet that has not been met. No turn makes a snippet count as not met. -/
structure Turn (setting : Setting) (w v : Walk) : Prop where
  written : v.snippets.map Snippet.written = w.snippets.map Snippet.written
  work : stackWork v.stack + 1 =
    stackWork w.stack + ((w.entering? setting).elim 0 (turnsFor w.snippets))
  unmet : ∀ i, resolutionAt v.snippets i = some .unvisited → resolutionAt w.snippets i = some .unvisited
  enters : ∀ i, w.entering? setting = some i → resolutionAt w.snippets i = some .unvisited ∧
    resolutionAt v.snippets i = some .inProgress

theorem entering?_eq (h : w.step setting = .next v) : w.entering? setting =
    if w.stack.length < v.stack.length then v.stack.head?.map Frame.position else none := by
  unfold entering?
  rw [h]

/-- A turn that leaves the snippets alone works on the frame at the top. -/
theorem Turn.of_top (h : w.step setting = .next v) {f g : Frame} {below : List Frame}
    (hw : w.stack = f :: below) (hv : v.stack = g :: below) (hs : v.snippets = w.snippets)
    (hwork : g.work + 1 = f.work) : Turn setting w v := by
  have hnone : w.entering? setting = none := by
    rw [entering?_eq h, hw, hv]
    simp
  refine ⟨congrArg _ hs, ?_, ?_, ?_⟩
  · rw [hnone, hw, hv]
    simp only [stackWork, Option.elim_none]
    omega
  · intro i hi
    rwa [hs] at hi
  · intro i hi
    cases hnone.symm.trans hi

theorem Turn.of_enter {f : Frame} {below : List Frame} {name : Text} {names : List Text} {i : Nat}
    {s : Snippet} (h : w.step setting = .next ((w.toNames f names below).enter i s))
    (hs : w.stack = f :: below) (hp : f.pending = name :: names)
    (hl : w.lookup setting name = some (i, s)) (hr : s.resolution = .unvisited) :
    Turn setting w ((w.toNames f names below).enter i s) := by
  have hat : w.snippets[i]? = some s := resolution_of_lookup hl
  have hunmet : resolutionAt w.snippets i = some .unvisited :=
    hr ▸ resolutionAt_of_lookup hl
  have henters : w.entering? setting = some i := by
    rw [entering?_eq h, hs]
    simp [Walk.enter, toNames, Frame.enter]
  have hsnippets : ((w.toNames f names below).enter i s).snippets =
      mark w.snippets i .inProgress := rfl
  have hstack : ((w.toNames f names below).enter i s).stack =
      Frame.enter i s :: { f with pending := names } :: below := rfl
  refine ⟨hsnippets ▸ map_written_mark w.snippets i _, ?_, ?_, ?_⟩
  · have hnames := Frame.work_names hp
    rw [henters, hstack, hs]
    simp only [stackWork, work_enter hat, Option.elim_some]
    omega
  · intro k hk
    rw [hsnippets, resolutionAt_mark] at hk
    split at hk
    · next hki => rwa [hki]
    · exact hk
  · intro k hk
    have hki : i = k := Option.some.inj (henters.symm.trans hk)
    subst hki
    refine ⟨hunmet, ?_⟩
    rw [hsnippets, resolutionAt_mark, if_pos rfl, hunmet]
    rfl

theorem Turn.of_leave {f : Frame} {below : List Frame} (h : w.step setting = .next (w.leave f below))
    (hs : w.stack = f :: below) (hp : f.pending = []) (hu : f.unread = []) :
    Turn setting w (w.leave f below) := by
  have hsnippets : (w.leave f below).snippets = mark w.snippets f.position (.resolved f.lines) := rfl
  have hlength : (w.leave f below).stack.length = below.length := by
    cases below <;> rfl
  have hnone : w.entering? setting = none := by
    rw [entering?_eq h, hlength, hs]
    simp
  have hwork : stackWork (w.leave f below).stack = stackWork below := by
    cases below <;> rfl
  have htop : f.work = 1 := by simp [Frame.work, hp, hu, linesWork]
  refine ⟨hsnippets ▸ map_written_mark w.snippets _ _, ?_, ?_, ?_⟩
  · rw [hnone, hwork, hs]
    simp only [stackWork, htop, Option.elim_none]
    omega
  · intro k hk
    rw [hsnippets, resolutionAt_mark] at hk
    split at hk
    · cases hr : resolutionAt w.snippets k <;> simp [hr] at hk
    · exact hk
  · intro i hi
    cases hnone.symm.trans hi

theorem turn_of_step (h : w.step setting = .next v) : Turn setting w v := by
  cases move_of_step h with
  | skip hs hp hl hq => exact .of_top h hs rfl rfl (Frame.work_names hp)
  | reuse hs hp hl hr => exact .of_top h hs rfl rfl (Frame.work_names hp)
  | enter hs hp hl hr => exact .of_enter h hs hp hl hr
  | read hs hp hu => exact .of_top h hs rfl rfl (Frame.work_read _ _ _ hp hu)
  | leave hs hp hu => exact .of_leave h hs hp hu

/-! ## The stack -/

structure Nested (w : Walk) : Prop where
  nodup : (trail w.stack).Nodup
  inProgress : ∀ i ∈ trail w.stack, resolutionAt w.snippets i = some .inProgress

namespace Nested

theorem of_trail (h : w.Nested) (ht : trail v.stack = trail w.stack) (hs : v.snippets = w.snippets) :
    v.Nested := by
  constructor
  · rw [ht]
    exact h.nodup
  · rw [ht, hs]
    exact h.inProgress

theorem enter {f : Frame} {below : List Frame} {name : Text} {names : List Text} {i : Nat} {s : Snippet}
    (h : w.Nested) (hs : w.stack = f :: below) (hl : w.lookup setting name = some (i, s))
    (hr : s.resolution = .unvisited) : ((w.toNames f names below).enter i s).Nested := by
  have hunmet : resolutionAt w.snippets i = some .unvisited :=
    hr ▸ resolutionAt_of_lookup hl
  have hnot : i ∉ trail w.stack := by
    intro hi
    cases (h.inProgress i hi).symm.trans hunmet
  have hstack : trail ((w.toNames f names below).enter i s).stack = trail w.stack ++ [i] := by
    simp [Walk.enter, toNames, Frame.enter, hs]
  have hsnippets : ((w.toNames f names below).enter i s).snippets =
      mark w.snippets i .inProgress := rfl
  constructor
  · rw [hstack]
    exact List.nodup_append.mpr ⟨h.nodup, List.nodup_singleton i, by
      intro k hk j hj hkj
      exact hnot (List.mem_singleton.mp hj ▸ hkj ▸ hk)⟩
  · intro k hk
    rw [hsnippets, resolutionAt_mark]
    by_cases hki : k = i
    · rw [if_pos hki, hki, hunmet]
      rfl
    · rw [hstack, List.mem_append, List.mem_singleton] at hk
      rw [if_neg hki]
      exact h.inProgress k (hk.resolve_right hki)

theorem leave {f : Frame} {below : List Frame} (h : w.Nested) (hs : w.stack = f :: below) :
    (w.leave f below).Nested := by
  have htrail : trail w.stack = trail below ++ [f.position] := by simp [hs]
  have hstack : trail (w.leave f below).stack = trail below := by
    cases below with
    | nil => rfl
    | cons g rest => simp [Walk.leave, Frame.splice]
  have hsnippets : (w.leave f below).snippets = mark w.snippets f.position (.resolved f.lines) := rfl
  obtain ⟨hbelow, -, hapart⟩ := List.nodup_append.mp (htrail ▸ h.nodup)
  constructor
  · rw [hstack]
    exact hbelow
  · intro k hk
    rw [hstack] at hk
    have hne : k ≠ f.position := hapart k hk f.position (List.mem_singleton_self _)
    rw [hsnippets, resolutionAt_mark, if_neg hne]
    exact h.inProgress k (htrail ▸ List.mem_append_left _ hk)

theorem move (h : w.Nested) (m : Move setting w v) : v.Nested := by
  cases m with
  | skip hs => exact h.of_trail (by simp [Walk.skip, toNames, hs]) rfl
  | reuse hs => exact h.of_trail (by simp [Frame.splice, hs]) rfl
  | enter hs hp hl hr => exact h.enter hs hl hr
  | read hs => exact h.of_trail (by simp [hs]) rfl
  | leave hs => exact h.leave hs

end Nested

/-! ## The loop as a whole -/

namespace Turns

variable {turns : List Walk} {result : Walk × Option IncludeError}

theorem nested (t : Turns setting w turns result) (h : w.Nested) :
    ∀ u ∈ turns ++ [result.1], u.Nested := by
  induction t with
  | done => simpa using h
  | failed => simpa using h
  | next hstep _ ih => exact List.forall_mem_cons.mpr ⟨h, ih (h.move (move_of_step hstep))⟩

/-- What is entered in some turn has not been met before, so it is entered once. -/
theorem entered_nodup (t : Turns setting w turns result) : (entered setting turns).Nodup ∧
    ∀ i ∈ entered setting turns, resolutionAt w.snippets i = some .unvisited := by
  induction t with
  | done => simp [entered]
  | failed h => simp [entered, entering?, h]
  | @next w v turns result hstep rest ih =>
    obtain ⟨hnodup, hunmet⟩ := ih
    have hturn := turn_of_step hstep
    cases henters : w.entering? setting with
    | none =>
      have hentered : entered setting (w :: turns) = entered setting turns :=
        List.filterMap_cons_none henters
      rw [hentered]
      exact ⟨hnodup, fun i hi => hturn.unmet i (hunmet i hi)⟩
    | some k =>
      have hentered : entered setting (w :: turns) = k :: entered setting turns :=
        List.filterMap_cons_some henters
      obtain ⟨hbefore, hafter⟩ := hturn.enters k henters
      have hnew : k ∉ entered setting turns := by
        intro hk
        cases hafter.symm.trans (hunmet k hk)
      rw [hentered]
      refine ⟨List.nodup_cons.mpr ⟨hnew, hnodup⟩, List.forall_mem_cons.mpr ⟨hbefore, ?_⟩⟩
      intro i hi
      exact hturn.unmet i (hunmet i hi)

/-- There are as many turns as there is work on the stack and as the snippets entered put there. -/
theorem length_le (t : Turns setting w turns result) :
    turns.length ≤ stackWork w.stack + ((entered setting turns).map (turnsFor w.snippets)).sum := by
  induction t with
  | done => simp
  | @failed w e h =>
    have hstack : 1 ≤ stackWork w.stack := by
      cases stuck_of_step h with
      | missing hs => simp only [hs, stackWork, Frame.work]; omega
      | cyclic hs => simp only [hs, stackWork, Frame.work]; omega
    simpa using Nat.le_add_right_of_le hstack
  | @next w v turns result hstep rest ih =>
    have hturn := turn_of_step hstep
    have hwork := hturn.work
    have hshare : turnsFor v.snippets = turnsFor w.snippets :=
      funext (turnsFor_eq_of_written hturn.written)
    rw [hshare] at ih
    cases henters : w.entering? setting with
    | none =>
      have hentered : entered setting (w :: turns) = entered setting turns :=
        List.filterMap_cons_none henters
      rw [henters, Option.elim_none] at hwork
      rw [hentered, List.length_cons]
      omega
    | some k =>
      have hentered : entered setting (w :: turns) = k :: entered setting turns :=
        List.filterMap_cons_some henters
      rw [henters, Option.elim_some] at hwork
      rw [hentered, List.length_cons, List.map_cons, List.sum_cons]
      omega

end Turns
end Walk
end Include

namespace Document

open Include

theorem nested_walkInto {d : Document} {root : Nat} {s : Snippet} (hs : d.snippets[root]? = some s) :
    (d.walkInto root s).Nested := by
  have hstack : trail (d.walkInto root s).stack = [root] := rfl
  have hsnippets : (d.walkInto root s).snippets = mark d.snippets root .inProgress := rfl
  constructor
  · rw [hstack]
    exact List.nodup_singleton root
  · intro i hi
    rw [hstack, List.mem_singleton] at hi
    rw [hsnippets, resolutionAt_mark, if_pos hi, hi, resolutionAt_of_getElem? hs]
    rfl

/-- Into whichever snippet of whichever document a walk goes, its loop ends. It enters no snippet twice,
has none on the stack twice, and takes no more turns than the snippets it enters have lines and names
listed by those, and one more for each of them. -/
theorem exists_turns_walkInto (d : Document) (policy : MissingPolicy) {root : Nat}
    (hr : root < d.snippets.length) :
    ∃ turns, Walk.Turns (d.setting policy) (d.walkInto root d.snippets[root]) turns
        ((d.walkInto root d.snippets[root]).run (d.setting policy)) ∧
      (root :: Walk.entered (d.setting policy) turns).Nodup ∧
      (∀ w ∈ turns ++ [((d.walkInto root d.snippets[root]).run (d.setting policy)).1],
        (w.stack.map Frame.position).Nodup) ∧
      turns.length ≤ ((root :: Walk.entered (d.setting policy) turns).map fun i =>
        (linesAt d.snippets i).length + (listed (linesAt d.snippets i)).length + 1).sum := by
  have hs : d.snippets[root]? = some d.snippets[root] := List.getElem?_eq_getElem hr
  obtain ⟨turns, hturns⟩ :=
    Walk.exists_turns (d.setting policy) (d.walkInto root d.snippets[root])
  have hnested := nested_walkInto hs
  obtain ⟨hnodup, hunmet⟩ := hturns.entered_nodup
  have hroot : root ∉ Walk.entered (d.setting policy) turns := by
    intro hmem
    have htrail : root ∈ trail (d.walkInto root d.snippets[root]).stack := List.mem_singleton_self _
    cases (hnested.inProgress root htrail).symm.trans (hunmet root hmem)
  have hwritten : (d.walkInto root d.snippets[root]).snippets.map Snippet.written =
      d.snippets.map Snippet.written := map_written_mark d.snippets root _
  have hshare : turnsFor (d.walkInto root d.snippets[root]).snippets = turnsFor d.snippets :=
    funext (turnsFor_eq_of_written hwritten)
  have hstack : stackWork (d.walkInto root d.snippets[root]).stack = turnsFor d.snippets root :=
    work_enter hs
  have hlength := hturns.length_le
  rw [hstack, hshare] at hlength
  refine ⟨turns, hturns, List.nodup_cons.mpr ⟨hroot, hnodup⟩, ?_, ?_⟩
  · intro w hw
    exact List.nodup_reverse.mp (hturns.nested hnested w hw).nodup
  · rw [List.map_cons, List.sum_cons]
    exact hlength

/-- A snippet that includes itself, behind one that lists it and a library over and over. -/
def knotSource : Text :=
  "```sh\n#%name: a\n#%inc: c, b, c, b\n```\n```sh\n#%lib: b\n#%inc: c, b\n```\n```sh\n#%lib: c\nx\n```\n"

def knot : Document := (read .plain 0 knotSource).after [(.strict, .one (.name "c"))]

theorem exists_turns_knot : ∃ _ : 0 < knot.snippets.length,
    ∃ turns, Walk.Turns (knot.setting .lenient) (knot.walkInto 0 knot.snippets[0]) turns
        ((knot.walkInto 0 knot.snippets[0]).run (knot.setting .lenient)) ∧
      (0 :: Walk.entered (knot.setting .lenient) turns).Nodup ∧
      (∀ w ∈ turns ++ [((knot.walkInto 0 knot.snippets[0]).run (knot.setting .lenient)).1],
        (w.stack.map Frame.position).Nodup) ∧
      turns.length ≤ ((0 :: Walk.entered (knot.setting .lenient) turns).map fun i =>
        (linesAt knot.snippets i).length + (listed (linesAt knot.snippets i)).length + 1).sum := by
  have hroot : 0 < knot.snippets.length := by decide +kernel
  exact ⟨hroot, exists_turns_walkInto knot .lenient hroot⟩

end Document
end Snippetry
