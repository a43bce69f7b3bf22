import Mathlib.Logic.Relation
import Snippetry.Include.Walk

/-! # The moves of the walk

A step that does not end the walk is one of five moves, and one that fails has met a name that nothing
answers to or a snippet that the walk is inside of. A run is a sequence of moves up to an empty stack or
such a failure. -/
namespace Snippetry.Include.Walk

def toNames (w : Walk) (f : Frame) (names : List Text) (below : List Frame) : Walk :=
  { w with stack := { f with pending := names } :: below }

inductive Move (setting : Setting) (w : Walk) : Walk → Prop
  /-- Nothing answers to the name, which is left out. -/
  | skip {f : Frame} {below : List Frame} {name : Text} {names : List Text}
      (hs : w.stack = f :: below) (hp : f.pending = name :: names)
      (hl : w.lookup setting name = none) (hq : setting.policy = .lenient) :
      Move setting w ((w.toNames f names below).skip setting name f.label f.span)
  /-- The snippet is expanded already. -/
  | reuse {f : Frame} {below : List Frame} {name : Text} {names : List Text} {i : Nat} {s : Snippet}
      {body : List Text} (hs : w.stack = f :: below) (hp : f.pending = name :: names)
      (hl : w.lookup setting name = some (i, s)) (hr : s.resolution = .resolved body) :
      Move setting w { w with stack := ({ f with pending := names } : Frame).splice body :: below }
  | enter {f : Frame} {below : List Frame} {name : Text} {names : List Text} {i : Nat} {s : Snippet}
      (hs : w.stack = f :: below) (hp : f.pending = name :: names)
      (hl : w.lookup setting name = some (i, s)) (hr : s.resolution = .unvisited) :
      Move setting w ((w.toNames f names below).enter i s)
  | read {f : Frame} {below : List Frame} {line : SourceLine} {unread : List SourceLine}
      (hs : w.stack = f :: below) (hp : f.pending = []) (hu : f.unread = line :: unread) :
      Move setting w { w with stack := f.read line unread :: below }
  | leave {f : Frame} {below : List Frame} (hs : w.stack = f :: below) (hp : f.pending = [])
      (hu : f.unread = []) : Move setting w (w.leave f below)

inductive Stuck (setting : Setting) (w : Walk) : IncludeError → Prop
  | missing {f : Frame} {below : List Frame} {name : Text} {names : List Text}
      (hs : w.stack = f :: below) (hp : f.pending = name :: names)
      (hl : w.lookup setting name = none) (hq : setting.policy = .strict) :
      Stuck setting w (.missing name f.label f.span)
  | cyclic {f : Frame} {below : List Frame} {name : Text} {names : List Text} {i : Nat} {s : Snippet}
      (hs : w.stack = f :: below) (hp : f.pending = name :: names)
      (hl : w.lookup setting name = some (i, s)) (hr : s.resolution = .inProgress) :
      Stuck setting w (.cyclic name (below.reverse.map Frame.label ++ [f.label, name]) f.span)

variable {setting : Setting} {w v : Walk}

theorem stack_of_step_done (h : w.step setting = .done) : w.stack = [] := by
  unfold step stepName at h
  repeat' split at h
  all_goals first | assumption | cases h

theorem move_of_step (h : w.step setting = .next v) : Move setting w v := by
  unfold step at h
  split at h
  · cases h
  · next f below hs =>
    split at h
    · next _ name names hp =>
      unfold stepName at h
      split at h
      · next hl =>
        split at h
        · cases h
        · next hq =>
          cases h
          exact .skip hs hp hl hq
      · next i s hl =>
        split at h
        · next body hr =>
          cases h
          exact .reuse hs hp hl hr
        · cases h
        · next hr =>
          cases h
          exact .enter hs hp hl hr
    · next line unread hp hu =>
      cases h
      exact .read hs hp hu
    · next hp hu =>
      cases h
      exact .leave hs hp hu

theorem stuck_of_step {e : IncludeError} (h : w.step setting = .failed e) : Stuck setting w e := by
  unfold step at h
  split at h
  · cases h
  · next f below hs =>
    split at h
    · next _ name names hp =>
      unfold stepName at h
      split at h
      · next hl =>
        split at h
        · next hq =>
          cases h
          exact .missing (f := f) hs hp hl hq
        · cases h
      · next i s hl =>
        split at h
        · cases h
        · next hr =>
          cases h
          simpa using Stuck.cyclic hs hp hl hr
        · cases h
    · cases h
    · cases h

/-- Every run is moves up to where the stack is empty or no move is possible. -/
theorem run_moves (setting : Setting) (w : Walk) : ∃ v, Relation.ReflTransGen (Move setting) w v ∧
    ((v.stack = [] ∧ w.run setting = (v, none)) ∨
      ∃ e, Stuck setting v e ∧ w.run setting = (v, some e)) := by
  fun_induction run setting w with
  | case1 w h => exact ⟨w, .refl, .inl ⟨stack_of_step_done h, rfl⟩⟩
  | case2 w e h => exact ⟨w, .refl, .inr ⟨e, stuck_of_step h, rfl⟩⟩
  | case3 w u h ih =>
    obtain ⟨v, hv, hend⟩ := ih
    exact ⟨v, .head (move_of_step h) hv, hend⟩

end Snippetry.Include.Walk
