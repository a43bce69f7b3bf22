import Snippetry.Proofs.Include.Frame
import Snippetry.Proofs.Include.Resolution
import Mathlib.Logic.Relation

/-! # The stack of a walk against the flattening

Every frame on the stack stands for the flattening of its snippet below the snippets under it. The
frame at the top does so by itself, every other one with the snippet it waits for still to come. So a
failure at the top is the failure of the flattening from the root. -/
namespace Snippetry.Include

/-- What a frame comes to below the snippets on `path`, once the snippet it waits for is expanded. -/
def Frame.resume (base : List Snippet) (policy : MissingPolicy) (path : List Nat) (f : Frame) :
    Option Nat → Except IncludeError (List Text)
  | none => f.finish (flattenName base policy path f.position)
  | some j => do
    let body ← flatten base policy (path ++ [f.position]) j
    (f.splice body).finish (flattenName base policy path f.position)

structure Frame.Faithful (base : List Snippet) (policy : MissingPolicy) (snippets : List Snippet)
    (path : List Nat) (asked : Option Nat) (f : Frame) : Prop where
  label : f.label = labelAt base f.position
  left : ∀ name ∈ f.left, name ∈ listed (linesAt base f.position)
  asks : ∀ j, asked = some j → Includes base f.position j
  settled : ∀ j, Includes base f.position j → IsResolved snippets j ∨ asked = some j ∨
    ∃ name ∈ f.left, firstAnswering base name = some j
  value : flatten base policy path f.position = f.resume base policy path asked

namespace Frame.Faithful

variable {base snippets later : List Snippet} {policy : MissingPolicy} {path : List Nat} {f : Frame}
  {asked : Option Nat}

theorem mono (h : f.Faithful base policy snippets path asked)
    (hm : ∀ i, IsResolved snippets i → IsResolved later i) :
    f.Faithful base policy later path asked :=
  ⟨h.label, h.left, h.asks, fun j hj => (h.settled j hj).imp_left (hm j), h.value⟩

theorem enter {i : Nat} {s : Snippet} (hl : s.label = labelAt base i)
    (hr : s.rawLines = linesAt base i) :
    (Frame.enter i s).Faithful base policy snippets path none := by
  have hleft : (Frame.enter i s).left = listed (linesAt base i) := by rw [Frame.left_enter, hr]
  refine ⟨hl, fun name hn => hleft ▸ hn, by simp, ?_, ?_⟩
  · rintro j ⟨name, hn, hj⟩
    exact .inr (.inr ⟨name, hleft ▸ hn, hj⟩)
  · rw [Frame.resume, Frame.finish_enter, hr]
    exact flatten_eq path i

section Names

variable {name : Text} {names : List Text}

/-- Once a name has been taken, what it leads to has to be expanded or waited for. -/
theorem settled_names (h : f.Faithful base policy snippets path none) (hp : f.pending = name :: names)
    {j : Nat} (hj : Includes base f.position j) :
    IsResolved snippets j ∨ firstAnswering base name = some j ∨
      ∃ other ∈ ({ f with pending := names } : Frame).left, firstAnswering base other = some j := by
  rcases h.settled j hj with hs | hs | ⟨other, hn, ho⟩
  · exact .inl hs
  · cases hs
  · rw [Frame.left_eq_cons hp] at hn
    rcases List.mem_cons.mp hn with rfl | hn
    · exact .inr (.inl ho)
    · exact .inr (.inr ⟨other, hn, ho⟩)

theorem left_names (h : f.Faithful base policy snippets path none) (hp : f.pending = name :: names)
    {other : Text} (hn : other ∈ ({ f with pending := names } : Frame).left) :
    other ∈ listed (linesAt base f.position) :=
  h.left other (Frame.left_eq_cons hp ▸ List.mem_cons_of_mem _ hn)

/-- A name is dealt with by putting its body in. -/
theorem put (h : f.Faithful base policy snippets path none) (hp : f.pending = name :: names)
    {body : Option (List Text)}
    (hb : flattenName base policy path f.position f.span name = .ok body)
    (hr : ∀ j, firstAnswering base name = some j → IsResolved snippets j) :
    (({ f with pending := names } : Frame).put body).Faithful base policy snippets path none := by
  refine ⟨by simpa using h.label, ?_, by simp, ?_, ?_⟩
  · intro other hn
    rw [Frame.left_put] at hn
    simpa using h.left_names hp hn
  · intro j hj
    rw [Frame.position_put] at hj
    rcases h.settled_names hp hj with hs | hs | hs
    · exact .inl hs
    · exact .inl (hr j hs)
    · exact .inr (.inr (by rwa [Frame.left_put]))
  · rw [Frame.position_put]
    rw [h.value, resume, resume, Frame.finish_name hp, hb, Frame.position_put]
    rfl

theorem ask (h : f.Faithful base policy snippets path none) (hp : f.pending = name :: names) {j : Nat}
    (hj : firstAnswering base name = some j) (hm : j ∉ path ++ [f.position]) :
    ({ f with pending := names } : Frame).Faithful base policy snippets path (some j) := by
  refine ⟨h.label, fun other hn => h.left_names hp hn, ?_, ?_, ?_⟩
  · intro k hk
    cases hk
    exact ⟨name, h.left name (Frame.left_eq_cons hp ▸ List.mem_cons_self), hj⟩
  · intro k hk
    rcases h.settled_names hp hk with hs | hs | hs
    · exact .inl hs
    · exact .inr (.inl (hj.symm.trans hs))
    · exact .inr (.inr hs)
  · rw [h.value, resume, resume, Frame.finish_name hp, flattenName_found policy _ hj hm]
    simp [Frame.put]

/-- What fails in a frame fails in the flattening of its snippet. -/
theorem error (h : f.Faithful base policy snippets path none) (hp : f.pending = name :: names)
    {e : IncludeError} (he : flattenName base policy path f.position f.span name = .error e) :
    flatten base policy path f.position = .error e := by
  rw [h.value, resume, Frame.finish_name hp, he]
  rfl

end Names

theorem read (h : f.Faithful base policy snippets path none) (hp : f.pending = [])
    {line : SourceLine} {unread : List SourceLine} (hu : f.unread = line :: unread) :
    (f.read line unread).Faithful base policy snippets path none := by
  refine ⟨by simpa using h.label, ?_, by simp, ?_, ?_⟩
  · rw [Frame.left_read hp hu, Frame.position_read]
    exact h.left
  · rw [Frame.left_read hp hu, Frame.position_read]
    exact h.settled
  · rw [Frame.position_read, h.value, resume, resume, Frame.finish_read hp hu, Frame.position_read]

theorem receive {j : Nat} (h : f.Faithful base policy snippets path (some j)) {body : List Text}
    (hb : flatten base policy (path ++ [f.position]) j = .ok body) (hj : IsResolved snippets j) :
    (f.splice body).Faithful base policy snippets path none := by
  refine ⟨h.label, h.left, by simp, ?_, ?_⟩
  · intro k hk
    rcases h.settled k hk with hs | hs | hs
    · exact .inl hs
    · cases hs
      exact .inl hj
    · exact .inr (.inr hs)
  · have hv := h.value
    rw [resume, hb] at hv
    exact hv

theorem lines (h : f.Faithful base policy snippets path none) (hp : f.pending = [])
    (hu : f.unread = []) : flatten base policy path f.position = .ok f.lines := by
  rw [h.value, resume, Frame.finish_done hp hu]

theorem includes_resolved (h : f.Faithful base policy snippets path none) (hp : f.pending = [])
    (hu : f.unread = []) {j : Nat} (hj : Includes base f.position j) : IsResolved snippets j := by
  rcases h.settled j hj with hs | hs | ⟨name, hn, -⟩
  · exact hs
  · cases hs
  · simp [Frame.left, hp, hu, listed] at hn

end Frame.Faithful

def trail (stack : List Frame) : List Nat := (stack.map Frame.position).reverse

@[simp] theorem trail_nil : trail [] = [] := rfl

@[simp] theorem trail_cons (f : Frame) (below : List Frame) :
    trail (f :: below) = trail below ++ [f.position] := by
  simp [trail]

/-- Frames one above the other; below the last of them is the wish to have the root expanded. -/
inductive Stacked (base : List Snippet) (policy : MissingPolicy) (snippets : List Snippet)
    (root : Nat) : Option Nat → List Frame → Prop
  | nil : Stacked base policy snippets root (some root) []
  | cons {asked : Option Nat} {f : Frame} {below : List Frame}
      (top : f.Faithful base policy snippets (trail below) asked)
      (rest : Stacked base policy snippets root (some f.position) below) :
      Stacked base policy snippets root asked (f :: below)

namespace Stacked

variable {base snippets later : List Snippet} {policy : MissingPolicy} {root : Nat}
  {asked : Option Nat} {stack : List Frame}

theorem mono (h : Stacked base policy snippets root asked stack)
    (hm : ∀ i, IsResolved snippets i → IsResolved later i) :
    Stacked base policy later root asked stack := by
  induction h with
  | nil => exact .nil
  | cons top rest ih => exact .cons (top.mono hm) ih

theorem labels (h : Stacked base policy snippets root asked stack) :
    stack.reverse.map Frame.label = (trail stack).map (labelAt base) := by
  induction h with
  | nil => rfl
  | cons top rest ih => simp [ih, top.label]

/-- Everything on the stack, and what its top waits for, is within reach of the root. -/
theorem reaches (h : Stacked base policy snippets root asked stack) :
    (∀ i ∈ trail stack, Relation.ReflTransGen (Includes base) root i) ∧
      ∀ j, asked = some j → Relation.ReflTransGen (Includes base) root j := by
  induction h with
  | nil =>
    refine ⟨by simp, fun j hj => ?_⟩
    cases hj
    exact .refl
  | @cons asked f below top rest ih =>
    have hf := ih.2 f.position rfl
    refine ⟨fun i hi => ?_, fun j hj => hf.tail (top.asks j hj)⟩
    rw [trail_cons] at hi
    rcases List.mem_append.mp hi with hi | hi
    · exact ih.1 i hi
    · rwa [List.mem_singleton.mp hi]

theorem error {j : Nat} (h : Stacked base policy snippets root (some j) stack) {e : IncludeError}
    (he : flatten base policy (trail stack) j = .error e) : flatten base policy [] root = .error e := by
  generalize hw : some j = wish at h
  induction h generalizing j with
  | nil =>
    cases hw
    exact he
  | @cons asked f below top rest ih =>
    subst hw
    refine ih ?_ rfl
    rw [trail_cons] at he
    rw [top.value, Frame.resume, he]
    rfl

end Stacked

end Snippetry.Include
