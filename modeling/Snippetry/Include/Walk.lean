import Snippetry.Include.Index
import Snippetry.Include.Error
import Snippetry.Document
import Snippetry.Directive
import Snippetry.Log

/-! # The walk that expands includes

Depth-first over a stack of snippets that are being expanded. The resolution of a snippet tells
whether the walk has not met it, is inside it, or is done with it. Every step takes one name, one line
or one snippet off the work that is left. -/
namespace Snippetry.Include

/-- What to do with a name that no snippet answers to. -/
inductive MissingPolicy
  | strict
  | lenient
deriving DecidableEq, Repr

/-- A snippet being expanded. -/
structure Frame where
  position : Nat
  label : Text
  unread : List SourceLine
  /-- Names of the current include line that are still to be expanded. -/
  pending : List Text
  /-- Bodies put in for the current include line so far. -/
  included : Nat
  span : Span
  lines : List Text

namespace Frame

def enter (position : Nat) (s : Snippet) : Frame := ⟨position, s.label, s.rawLines, [], 0, ⟨0, 0⟩, []⟩

/-- Put a body in; bodies of one include line are separated by an empty line. -/
def splice (f : Frame) (body : List Text) : Frame :=
  { f with
    lines := f.lines ++ (if f.included = 0 then body else [] :: body)
    included := f.included + 1 }

/-- Take the next line of the body. -/
def read (f : Frame) (line : SourceLine) (unread : List SourceLine) : Frame :=
  match includeNames? line.text with
  | some names => { f with unread, pending := names, included := 0, span := line.span }
  | none => { f with unread, lines := f.lines ++ [line.text] }

end Frame

/-- What does not change during a walk. -/
structure Setting where
  index : Index
  policy : MissingPolicy
  fileId : Nat

structure Walk where
  snippets : List Snippet
  notices : List Notice
  log : Log
  /-- Innermost first. -/
  stack : List Frame

def mark (snippets : List Snippet) (position : Nat) (resolution : Resolution) : List Snippet :=
  snippets.modify position fun s => { s with resolution }

namespace Walk

/-- The first snippet that answers to a name, as far as it is expanded. -/
def lookup (setting : Setting) (w : Walk) (name : Text) : Option (Nat × Snippet) := do
  let position ← setting.index.lookup name
  let snippet ← w.snippets[position]?
  pure (position, snippet)

def enter (w : Walk) (position : Nat) (s : Snippet) : Walk :=
  { w with
    snippets := mark w.snippets position .inProgress
    stack := .enter position s :: w.stack }

def skip (setting : Setting) (w : Walk) (name includer : Text) (span : Span) : Walk :=
  { w with
    notices := w.notices ++ [⟨.missingReference name includer, span, setting.fileId⟩]
    log := w.log ++ [.referenceSkipped name includer] }

/-- Leave a snippet whose body is complete, and put the body into the one that asked for it. -/
def leave (w : Walk) (f : Frame) (below : List Frame) : Walk :=
  { w with
    snippets := mark w.snippets f.position (.resolved f.lines)
    log := w.log ++ [.snippetResolved f.label f.lines.length]
    stack := match below with
      | [] => []
      | parent :: rest => parent.splice f.lines :: rest }

end Walk

inductive Step
  | done
  | failed (e : IncludeError)
  | next (w : Walk)

namespace Walk

/-- Expand `name`, which `f` asks for. -/
def stepName (setting : Setting) (w : Walk) (f : Frame) (below : List Frame) (name : Text) : Step :=
  match w.lookup setting name with
  | none =>
    match setting.policy with
    | .strict => .failed (.missing name f.label f.span)
    | .lenient => .next ({ w with stack := f :: below }.skip setting name f.label f.span)
  | some (position, s) =>
    match s.resolution with
    | .resolved body => .next { w with stack := f.splice body :: below }
    | .inProgress =>
      .failed (.cyclic name (((f :: below).reverse.map Frame.label) ++ [name]) f.span)
    | .unvisited => .next ({ w with stack := f :: below }.enter position s)

def step (setting : Setting) (w : Walk) : Step :=
  match w.stack with
  | [] => .done
  | f :: below =>
    match f.pending, f.unread with
    | name :: names, _ => w.stepName setting { f with pending := names } below name
    | [], line :: unread => .next { w with stack := f.read line unread :: below }
    | [], [] => .next (w.leave f below)

end Walk

/-! ## The work that is left -/

def lineWork (line : SourceLine) : Nat := 1 + ((includeNames? line.text).getD []).length

def linesWork : List SourceLine → Nat
  | [] => 0
  | line :: lines => lineWork line + linesWork lines

def Frame.work (f : Frame) : Nat := 1 + f.pending.length + linesWork f.unread

/-- A snippet that was met already makes no more work. -/
def snippetWork (s : Snippet) : Nat :=
  match s.resolution with
  | .unvisited => 1 + linesWork s.rawLines
  | _ => 0

def snippetsWork : List Snippet → Nat
  | [] => 0
  | s :: snippets => snippetWork s + snippetsWork snippets

def stackWork : List Frame → Nat
  | [] => 0
  | f :: stack => f.work + stackWork stack

def Walk.work (w : Walk) : Nat := snippetsWork w.snippets + stackWork w.stack

theorem snippetsWork_mark_met (snippets : List Snippet) (position : Nat) {r : Resolution}
    (met : r ≠ .unvisited) {s : Snippet} (found : snippets[position]? = some s) :
    snippetsWork (mark snippets position r) + snippetWork s = snippetsWork snippets := by
  induction snippets generalizing position with
  | nil => simp at found
  | cons first rest ih =>
    cases position with
    | zero =>
      obtain rfl : first = s := by simpa using found
      cases r <;> simp_all [mark, snippetsWork, snippetWork, Nat.add_comm]
    | succ n =>
      have := ih n (by simpa using found)
      simp only [mark, List.modify_succ_cons, snippetsWork] at this ⊢
      omega

theorem snippetsWork_mark_le (snippets : List Snippet) (position : Nat) {r : Resolution}
    (met : r ≠ .unvisited) : snippetsWork (mark snippets position r) ≤ snippetsWork snippets := by
  cases found : snippets[position]? with
  | some s => have := snippetsWork_mark_met snippets position met found; omega
  | none =>
    have : mark snippets position r = snippets := by
      unfold mark
      exact List.modify_eq_self (by simpa using found)
    exact Nat.le_of_eq (congrArg snippetsWork this)

theorem Frame.work_splice (f : Frame) (body : List Text) : (f.splice body).work = f.work := rfl

theorem Frame.work_read (f : Frame) (line : SourceLine) (unread : List SourceLine)
    (idle : f.pending = []) (reads : f.unread = line :: unread) :
    (f.read line unread).work + 1 = f.work := by
  unfold Frame.read
  cases named : includeNames? line.text <;>
    simp [Frame.work, idle, reads, linesWork, lineWork, named] <;> omega

namespace Walk

theorem lookup_iff {setting : Setting} {w : Walk} {name : Text} {position : Nat} {s : Snippet} :
    w.lookup setting name = some (position, s) ↔
      setting.index.lookup name = some position ∧ w.snippets[position]? = some s := by
  simp only [lookup, Option.bind_eq_bind, Option.bind_eq_some_iff]
  constructor
  · rintro ⟨p, hp, t, ht, found⟩
    cases found
    exact ⟨hp, ht⟩
  · rintro ⟨hp, hs⟩
    exact ⟨position, hp, s, hs, rfl⟩

theorem resolution_of_lookup {setting : Setting} {w : Walk} {name : Text} {position : Nat}
    {s : Snippet} (found : w.lookup setting name = some (position, s)) :
    w.snippets[position]? = some s :=
  (lookup_iff.mp found).2

theorem work_stepName {setting : Setting} {w v : Walk} {f : Frame} {below : List Frame} {name : Text}
    (moved : w.stepName setting f below name = .next v) :
    v.work = snippetsWork w.snippets + f.work + stackWork below := by
  unfold stepName at moved
  split at moved
  · split at moved
    · cases moved
    · cases moved
      simp [skip, work, stackWork, Nat.add_assoc]
  · next position s found =>
    have there := resolution_of_lookup found
    split at moved
    · cases moved
      simp [work, stackWork, Frame.work_splice, Nat.add_assoc]
    · cases moved
    · next fresh =>
      cases moved
      have taken := snippetsWork_mark_met w.snippets position (r := .inProgress) (by simp) there
      simp only [snippetWork, fresh] at taken
      simp only [enter, work, stackWork, Frame.enter, Frame.work, List.length_nil]
      omega

/-- Every step takes one off the work. -/
theorem work_step {setting : Setting} {w v : Walk} (moved : w.step setting = .next v) :
    v.work < w.work := by
  unfold step at moved
  split at moved
  · cases moved
  · next f below onStack =>
    split at moved
    · next _ name names wanted =>
      have := work_stepName moved
      simp only [work, onStack, stackWork, Frame.work, wanted, List.length_cons] at this ⊢
      omega
    · next line unread idle reads =>
      cases moved
      have := Frame.work_read f line unread idle reads
      simp only [work, onStack, stackWork]
      omega
    · next idle reads =>
      cases moved
      have := snippetsWork_mark_le w.snippets f.position (r := .resolved f.lines) (by simp)
      simp only [leave, work, onStack, stackWork, Frame.work, idle, reads, linesWork]
      cases below with
      | nil => simp only [stackWork, List.length_nil]; omega
      | cons parent rest =>
        simp only [stackWork, Frame.work_splice, List.length_nil]; omega

/-- Walk until the stack is empty, or something cannot be expanded. -/
def run (setting : Setting) (w : Walk) : Walk × Option IncludeError :=
  match _moved : w.step setting with
  | .done => (w, none)
  | .failed e => (w, some e)
  | .next v => run setting v
termination_by w.work
decreasing_by exact work_step _moved

/-- Snippets that a failed walk was inside of count as not visited again. -/
def abandon (w : Walk) : List Snippet :=
  w.stack.foldl (fun snippets f => mark snippets f.position .unvisited) w.snippets

end Walk
end Snippetry.Include
