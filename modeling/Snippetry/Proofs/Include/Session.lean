import Snippetry.Proofs.Include.Expand

/-! # Sessions: one request after another on a document

A request expands one snippet or all of them, under either policy. Whatever was asked before, a
document stays settled for lenient flattening, and for strict flattening as long as all requests are
strict. So what a target comes to under one policy is a property of the source alone. -/
namespace Snippetry

open Include

namespace Document

def locate (d : Document) : Target → Option Nat
  | .id id => d.snippets.findIdx? fun s => s.id = some id
  | .name key => firstAnswering d.snippets key

/-- What a target comes to by recursion over the includes. -/
def flattened (d : Document) (policy : MissingPolicy) (target : Target) :
    Except IncludeError (List Text) :=
  match d.locate target with
  | none => .error (.unknownTarget target)
  | some i => flatten d.snippets policy [] i

inductive Request
  | one (target : Target)
  | all

/-- The document after a request; what the request returns does not matter. -/
def Request.run (policy : MissingPolicy) (d : Document) : Request → Document
  | one target => (d.resolve policy target).document
  | all => (d.resolveAll policy).document

def Request.roots (d : Document) : Request → List Nat
  | one target => (d.locate target).toList
  | all => List.range d.snippets.length

def Request.Reaches (d : Document) (r : Request) (i : Nat) : Prop :=
  ∃ root ∈ r.roots d, Relation.ReflTransGen (Includes d.snippets) root i

/-- A document after requests, each under a policy of its own. -/
def after (d : Document) (requests : List (MissingPolicy × Request)) : Document :=
  requests.foldl (fun d r => r.2.run r.1 d) d

variable {base : List Snippet} {policy walked : MissingPolicy} {d : Document}

theorem locate_lt {target : Target} {i : Nat} (h : d.locate target = some i) :
    i < d.snippets.length := by
  cases target with
  | id id =>
    obtain ⟨hi, -⟩ := List.findIdx?_eq_some_iff_getElem.mp h
    exact hi
  | name key => exact lt_of_firstAnswering h

theorem locate_eq_of_written {e : Document}
    (h : d.snippets.map Snippet.written = e.snippets.map Snippet.written) (target : Target) :
    d.locate target = e.locate target := by
  cases target with
  | id id =>
    have hw (ss : List Snippet) : (ss.map Snippet.written).findIdx? (fun s => s.id = some id) =
        ss.findIdx? fun s => s.id = some id := by
      rw [List.findIdx?_map]
      rfl
    rw [locate, locate, ← hw d.snippets, h, hw]
  | name key => exact firstAnswering_eq_of_written h key

theorem Request.roots_eq_of_written {e : Document}
    (h : d.snippets.map Snippet.written = e.snippets.map Snippet.written) (r : Request) :
    r.roots d = r.roots e := by
  cases r with
  | one target => rw [roots, roots, locate_eq_of_written h]
  | all => rw [roots, roots, length_eq_of_written h]

theorem position?_setting (d : Document) (target : Target) :
    d.position? (d.setting walked) target = d.locate target := by
  cases target with
  | id id => rfl
  | name key => exact Index.lookup_ofSnippets d.snippets key

theorem Settled.fits (h : d.Settled base policy) (hq : policy = walked ∨ policy = .lenient) :
    Walk.Fits base policy (d.setting walked) :=
  ⟨fun name => (Index.lookup_ofSnippets d.snippets name).trans
    (firstAnswering_eq_of_written h.memo.written name), hq⟩

theorem resolve_of_not_located {target : Target} (h : d.locate target = none) :
    d.resolve walked target = ⟨.error (.unknownTarget target), d, []⟩ := by
  simp only [resolve, position?_setting, h]

theorem resolve_of_located {target : Target} {i : Nat} (h : d.locate target = some i) :
    d.resolve walked target =
      ⟨(d.expand (d.setting walked) i).result.map fun _ =>
          (((d.expand (d.setting walked) i).document.snippets[i]?.bind Snippet.resolvedLines?).getD []),
        (d.expand (d.setting walked) i).document, (d.expand (d.setting walked) i).log⟩ := by
  simp only [resolve, position?_setting, h]
  rcases d.expand (d.setting walked) i with ⟨result, e, log⟩
  cases result <;> rfl

/-- Expanding a target gives what flattening does, however much has been expanded already. -/
theorem resolve_result (h : d.Settled base policy) (target : Target) :
    (d.resolve policy target).result =
      match d.locate target with
      | none => .error (.unknownTarget target)
      | some i => flatten base policy [] i := by
  cases hi : d.locate target with
  | none => rw [resolve_of_not_located hi]
  | some i =>
    rw [resolve_of_located hi]
    exact ((expansion h (h.fits (.inl rfl)) (locate_lt hi)).result rfl).symm

theorem resolve_settled (h : d.Settled base policy) (hq : policy = walked ∨ policy = .lenient)
    (target : Target) : (d.resolve walked target).document.Settled base policy ∧
      d.Kept (fun i => ∃ root ∈ (d.locate target).toList,
        Relation.ReflTransGen (Includes base) root i) (d.resolve walked target).document := by
  cases hi : d.locate target with
  | none =>
    rw [resolve_of_not_located hi]
    exact ⟨h, .refl _ _⟩
  | some i =>
    rw [resolve_of_located hi]
    have hexp := expansion h (h.fits hq) (locate_lt hi)
    exact ⟨hexp.settled, hexp.kept.mono fun k hk => ⟨i, by simp, hk⟩⟩

theorem expandEach_settled {setting : Setting} (hf : Walk.Fits base policy setting)
    (positions : List Nat) (h : d.Settled base policy) (hp : ∀ i ∈ positions, i < d.snippets.length) :
    (d.expandEach setting positions).document.Settled base policy ∧
      d.Kept (fun i => ∃ root ∈ positions, Relation.ReflTransGen (Includes base) root i)
        (d.expandEach setting positions).document := by
  induction positions generalizing d with
  | nil => exact ⟨h, .refl _ _⟩
  | cons i positions ih =>
    have hexp := expansion h hf (hp i List.mem_cons_self)
    have hfirst := hexp.kept.mono fun k hk => (⟨i, List.mem_cons_self, hk⟩ :
      ∃ root ∈ i :: positions, Relation.ReflTransGen (Includes base) root k)
    rcases expandEach_cons setting d i positions with ⟨e, -, hstops⟩ | ⟨-, -, hdocument⟩
    · rw [hstops]
      exact ⟨hexp.settled, hfirst⟩
    · obtain ⟨hrest, hkeptRest⟩ := ih hexp.settled (hexp.lt_of_mem hp)
      rw [hdocument]
      refine ⟨hrest, hfirst.trans (hkeptRest.mono ?_)⟩
      rintro k ⟨root, hroot, hk⟩
      exact ⟨root, List.mem_cons_of_mem _ hroot, hk⟩

theorem Settled.run (h : d.Settled base policy) (hq : policy = walked ∨ policy = .lenient)
    (r : Request) : (r.run walked d).Settled base policy ∧
      d.Kept (fun i => ∃ root ∈ r.roots d, Relation.ReflTransGen (Includes base) root i)
        (r.run walked d) := by
  cases r with
  | one target => exact resolve_settled h hq target
  | all => exact expandEach_settled (h.fits hq) _ h fun i hi => List.mem_range.mp hi

/-- A document stays settled through a session whose policies suit it. -/
theorem Settled.after (h : d.Settled base policy) (requests : List (MissingPolicy × Request))
    (hq : ∀ r ∈ requests, policy = r.1 ∨ policy = .lenient) :
    (d.after requests).Settled base policy := by
  induction requests generalizing d with
  | nil => exact h
  | cons r requests ih =>
    exact ih (h.run (hq r List.mem_cons_self) r.2).1 fun r' hr' => hq r' (List.mem_cons_of_mem _ hr')

section Invariant

variable {P : Document → Prop}

theorem invariant_expandEach {setting : Setting} (hf : Walk.Fits base policy setting)
    (step : ∀ (d : Document) (root : Nat), d.Settled base policy → root < d.snippets.length →
      P d → P (d.expand setting root).document)
    (positions : List Nat) (h : d.Settled base policy) (hp : ∀ i ∈ positions, i < d.snippets.length)
    (hd : P d) : P (d.expandEach setting positions).document := by
  induction positions generalizing d with
  | nil => exact hd
  | cons i positions ih =>
    have hi := hp i List.mem_cons_self
    have hexp := expansion h hf hi
    have hfirst := step d i h hi hd
    rcases expandEach_cons setting d i positions with ⟨e, -, hstops⟩ | ⟨-, -, hdocument⟩
    · rwa [hstops]
    · rw [hdocument]
      exact ih hexp.settled (hexp.lt_of_mem hp) hfirst

variable (step : ∀ (setting : Setting) (d : Document) (root : Nat), Walk.Fits base policy setting →
  d.Settled base policy → root < d.snippets.length → P d → P (d.expand setting root).document)
include step

theorem invariant_run (h : d.Settled base policy) (hq : policy = walked ∨ policy = .lenient)
    (r : Request) (hd : P d) : P (r.run walked d) := by
  have hf := h.fits hq
  cases r with
  | one target =>
    rw [Request.run]
    cases hi : d.locate target with
    | none => rwa [resolve_of_not_located hi]
    | some i =>
      rw [resolve_of_located hi]
      exact step _ d i hf h (locate_lt hi) hd
  | all =>
    exact invariant_expandEach hf (fun d root => step _ d root hf) _ h (fun _ => List.mem_range.mp) hd

/-- What every expansion keeps up, a session does. -/
theorem invariant_after (h : d.Settled base policy) (requests : List (MissingPolicy × Request))
    (hq : ∀ r ∈ requests, policy = r.1 ∨ policy = .lenient) (hd : P d) : P (d.after requests) := by
  induction requests generalizing d with
  | nil => exact hd
  | cons r requests ih =>
    obtain ⟨hfirst, hrest⟩ := List.forall_mem_cons.mp hq
    exact ih (h.run hfirst r.2).1 hrest (invariant_run step h hfirst r.2 hd)

end Invariant

/-- On a document that has just been read the stack and the memory make no difference: what comes out
is the flattening, or the error at which it stops first. -/
theorem resolve_eq_flattened (h : d.Fresh) (policy : MissingPolicy) (target : Target) :
    (d.resolve policy target).result = d.flattened policy target :=
  resolve_result (h.settled policy) target

/-- A body included over two ways, an empty one, and a name that nothing answers to. -/
def sharedSource : Text :=
  "```sh\n#%name: top\n#%inc: left, none, right\nend\n```\n" ++
  "```sh\n#%lib: left\n#%inc: base\nl\n```\n```sh\n#%lib: right\n#%inc: base, empty\n```\n" ++
  "```sh\n#%lib: base\nb\n```\n```sh\n#%lib: empty\n```\n"

theorem resolve_sharedSource : (read .plain 0 sharedSource).Fresh ∧
    ((read .plain 0 sharedSource).resolve .lenient (.name "top")).result =
      .ok ["b", "l", "", "b", "", "end"] ∧
    (read .plain 0 sharedSource).flattened .lenient (.name "top") =
      .ok ["b", "l", "", "b", "", "end"] := by
  have hfresh := fresh_read .plain 0 sharedSource
  have hrun : ((read .plain 0 sharedSource).resolve .lenient (.name "top")).result =
      .ok ["b", "l", "", "b", "", "end"] := by decide +kernel
  exact ⟨hfresh, hrun, (resolve_eq_flattened hfresh .lenient (.name "top")).symm.trans hrun⟩

/-- No request leaves a snippet in progress, takes lines from an expanded one or touches what it
cannot get to; all that is expanded has the lines of the lenient flattening of the document as it was
read, under whichever policies and with whichever outcome it was asked for. -/
theorem settled_and_kept_of_run (h : d.Fresh) (requests : List (MissingPolicy × Request))
    (policy : MissingPolicy) (r : Request) :
    (r.run policy (d.after requests)).Settled d.snippets .lenient ∧
      (d.after requests).Kept (r.Reaches d) (r.run policy (d.after requests)) := by
  have hafter := (h.settled .lenient).after requests fun _ _ => .inr rfl
  obtain ⟨hsettled, hkept⟩ := hafter.run (.inr rfl : _ ∨ _) r
  exact ⟨hsettled, hkept.mono fun i hi => by rwa [r.roots_eq_of_written hafter.memo.written] at hi⟩

/-- A strict attempt that stops after some bodies are expanded, and a lenient one. -/
def mixedRequests : List (MissingPolicy × Request) :=
  [(.strict, .all), (.lenient, .one (.name "right"))]

theorem settled_and_kept_sharedSource : (read .plain 0 sharedSource).Fresh ∧
    ((read .plain 0 sharedSource).after mixedRequests).snippets.map Snippet.resolvedLines? =
      ([none, some ["b", "l"], some ["b", ""], some ["b"], some []] : List (Option (List Text))) ∧
    (Request.run .strict ((read .plain 0 sharedSource).after mixedRequests) (.one (.name "top"))).Settled
      (read .plain 0 sharedSource).snippets .lenient ∧
    ((read .plain 0 sharedSource).after mixedRequests).Kept
      (Request.Reaches (read .plain 0 sharedSource) (.one (.name "top")))
      (Request.run .strict ((read .plain 0 sharedSource).after mixedRequests) (.one (.name "top"))) := by
  have hfresh := fresh_read .plain 0 sharedSource
  have hafter : ((read .plain 0 sharedSource).after mixedRequests).snippets.map Snippet.resolvedLines? =
      ([none, some ["b", "l"], some ["b", ""], some ["b"], some []] : List (Option (List Text))) := by
    decide +kernel
  exact ⟨hfresh, hafter, settled_and_kept_of_run hfresh mixedRequests .strict (.one (.name "top"))⟩

/-- What a target comes to under a policy does not depend on what was asked before under that policy. -/
theorem resolve_after_eq (h : d.Fresh) (policy : MissingPolicy) (target : Target)
    (requests requests' : List Request) :
    ((d.after (requests.map (policy, ·))).resolve policy target).result =
      ((d.after (requests'.map (policy, ·))).resolve policy target).result := by
  have hafter (rs : List Request) := (h.settled policy).after (rs.map (policy, ·)) (by simp)
  rw [resolve_result (hafter requests), resolve_result (hafter requests'),
    locate_eq_of_written (hafter requests).memo.written,
    locate_eq_of_written (hafter requests').memo.written]

theorem resolve_after_eq_sharedSource : (read .plain 0 sharedSource).Fresh ∧
    (((read .plain 0 sharedSource).after []).resolve .strict (.name "top")).result =
      .error (.missing "none" "top" ⟨18, 42⟩) ∧
    (((read .plain 0 sharedSource).after
        ([.one (.name "right"), .all, .one (.name "top")].map (.strict, ·))).resolve .strict
      (.name "top")).result = .error (.missing "none" "top" ⟨18, 42⟩) := by
  have hfresh := fresh_read .plain 0 sharedSource
  have hfirst : (((read .plain 0 sharedSource).after ([].map (.strict, ·))).resolve .strict
      (.name "top")).result = .error (.missing "none" "top" ⟨18, 42⟩) := by decide +kernel
  exact ⟨hfresh, hfirst, (resolve_after_eq hfresh .strict (.name "top") _ []).trans hfirst⟩

end Document
end Snippetry
