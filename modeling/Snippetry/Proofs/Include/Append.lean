import Snippetry.Proofs.Include.Complete
import Snippetry.Proofs.Include.Policy

/-! # Snippets put after a document do not disturb what it expands

The first snippet that answers to a name stays the first when more are put behind. So a strict walk goes
on behind them as it did without, turn by turn, until it ends or asks for a name that only they could
answer to. -/
namespace Snippetry

namespace Include

theorem mark_append {snippets : List Snippet} {i : Nat} (hi : i < snippets.length)
    (more : List Snippet) (r : Resolution) :
    mark (snippets ++ more) i r = mark snippets i r ++ more := by
  unfold mark
  induction snippets generalizing i with
  | nil => cases hi
  | cons s snippets ih =>
    cases i with
    | zero => rfl
    | succ i =>
      have htail := ih (Nat.lt_of_succ_lt_succ hi)
      simp only [List.cons_append, List.modify_succ_cons, htail]

theorem length_mark (snippets : List Snippet) (i : Nat) (r : Resolution) :
    (mark snippets i r).length = snippets.length := by
  unfold mark
  exact List.length_modify ..

theorem firstAnswering_append {snippets : List Snippet} {name : Text} {i : Nat} (more : List Snippet)
    (h : firstAnswering snippets name = some i) : firstAnswering (snippets ++ more) name = some i := by
  unfold firstAnswering at h ⊢
  rw [List.findIdx?_append, h, Option.some_or]

namespace Walk

variable {setting wider : Setting} {more : List Snippet} {notices : List Notice} {w v : Walk}

/-- The walk in a document that has more snippets behind, and other notices. -/
def widen (w : Walk) (more : List Snippet) (notices : List Notice) : Walk :=
  { w with snippets := w.snippets ++ more, notices }

theorem length_move (m : Move setting w v) : v.snippets.length = w.snippets.length :=
  length_eq_of_written (written_of_move m)

theorem length_run (setting : Setting) (w : Walk) :
    (w.run setting).1.snippets.length = w.snippets.length := by
  fun_induction run setting w with
  | case1 | case2 => rfl
  | case3 w v h ih => exact ih.trans (length_move (move_of_step h))

def Grounded (w : Walk) : Prop := ∀ f ∈ w.stack, f.position < w.snippets.length

theorem Grounded.top {f : Frame} {below : List Frame} (h : w.Grounded) (hs : w.stack = f :: below) :
    f.position < w.snippets.length ∧ ∀ g ∈ below, g.position < w.snippets.length := by
  unfold Grounded at h
  rw [hs] at h
  exact List.forall_mem_cons.mp h

theorem Grounded.move (h : w.Grounded) (m : Move setting w v) : v.Grounded := by
  have hlength := length_move m
  unfold Grounded
  rw [hlength]
  cases m with
  | skip hs =>
    obtain ⟨htop, hrest⟩ := h.top hs
    exact List.forall_mem_cons.mpr ⟨htop, hrest⟩
  | reuse hs =>
    obtain ⟨htop, hrest⟩ := h.top hs
    exact List.forall_mem_cons.mpr ⟨htop, hrest⟩
  | enter hs hp hl =>
    obtain ⟨htop, hrest⟩ := h.top hs
    have hi := (List.getElem?_eq_some_iff.mp (resolution_of_lookup hl)).1
    exact List.forall_mem_cons.mpr ⟨hi, List.forall_mem_cons.mpr ⟨htop, hrest⟩⟩
  | @read f below line unread hs =>
    obtain ⟨htop, hrest⟩ := h.top hs
    rw [← Frame.position_read f line unread] at htop
    exact List.forall_mem_cons.mpr ⟨htop, hrest⟩
  | @leave f below hs =>
    obtain ⟨-, hrest⟩ := h.top hs
    cases below with
    | nil => simp [Walk.leave]
    | cons parent rest =>
      obtain ⟨hparent, hunder⟩ := List.forall_mem_cons.mp hrest
      exact List.forall_mem_cons.mpr ⟨hparent, hunder⟩

/-- What answers to a name goes on doing so in a wider document. -/
def Answers (setting wider : Setting) : Prop :=
  ∀ name i, setting.index.lookup name = some i → wider.index.lookup name = some i

theorem lookup_widen (ha : Answers setting wider) {name : Text} {i : Nat} {s : Snippet}
    (h : w.lookup setting name = some (i, s)) :
    (w.widen more notices).lookup wider name = some (i, s) := by
  obtain ⟨hindex, hat⟩ := lookup_iff.mp h
  have hlt : i < w.snippets.length := (List.getElem?_eq_some_iff.mp hat).1
  refine lookup_iff.mpr ⟨ha name i hindex, ?_⟩
  rw [widen, List.getElem?_append_left hlt, hat]

end Walk

def Step.widen (more : List Snippet) (notices : List Notice) : Step → Step
  | .done => .done
  | .failed e => .failed e
  | .next v => .next (v.widen more notices)

namespace Walk

variable {setting wider : Setting} {more : List Snippet} {notices : List Notice} {w v : Walk}

/-- A strict step is the same in a wider document, unless it fails for a missing name. -/
theorem step_widen (hq : setting.policy = .strict) (ha : Answers setting wider) (hg : w.Grounded) :
    (∃ name includer span, w.step setting = .failed (.missing name includer span)) ∨
      (w.widen more notices).step wider = (w.step setting).widen more notices := by
  have hstack : (w.widen more notices).stack = w.stack := rfl
  unfold step
  rw [hstack]
  split
  · exact .inr rfl
  · next f below hs =>
    split
    · next _ name names hp =>
      unfold stepName
      cases hl : w.lookup setting name with
      | none =>
        rw [hq]
        exact .inl ⟨name, f.label, f.span, rfl⟩
      | some found =>
        obtain ⟨i, s⟩ := found
        have hlt : i < w.snippets.length :=
          (List.getElem?_eq_some_iff.mp (resolution_of_lookup hl)).1
        rw [lookup_widen ha hl]
        cases hr : s.resolution with
        | resolved body => exact .inr (by simp only [hr]; rfl)
        | inProgress => exact .inr (by simp only [hr]; rfl)
        | unvisited =>
          refine .inr ?_
          simp only [hr, Step.widen, widen, enter, mark_append hlt]
    · exact .inr rfl
    · have hlt : f.position < w.snippets.length := hg f (hs ▸ List.mem_cons_self)
      refine .inr ?_
      simp only [Step.widen, widen, leave, mark_append hlt]

/-- A strict run that misses no name is the same in a wider document. -/
theorem run_widen (more : List Snippet) (notices : List Notice) (hq : setting.policy = .strict)
    (ha : Answers setting wider) (hg : w.Grounded) {e? : Option IncludeError}
    (hrun : w.run setting = (v, e?)) (hm : ∀ name includer span, e? ≠ some (.missing name includer span)) :
    (w.widen more notices).run wider = (v.widen more notices, e?) ∧ v.Grounded := by
  fun_induction run setting w with
  | case1 w h =>
    cases hrun
    rcases step_widen hq ha hg with ⟨_, _, _, hf⟩ | hs
    · cases h.symm.trans hf
    · rw [h] at hs
      exact ⟨run_of_step_done hs, hg⟩
  | case2 w e h =>
    cases hrun
    rcases step_widen hq ha hg with ⟨name, includer, span, hf⟩ | hs
    · cases h.symm.trans hf
      exact absurd rfl (hm name includer span)
    · rw [h] at hs
      exact ⟨run_of_step_failed hs, hg⟩
  | case3 w u h ih =>
    rcases step_widen hq ha hg with ⟨_, _, _, hf⟩ | hs
    · cases h.symm.trans hf
    · rw [h] at hs
      rw [run_of_step_next hs]
      exact ih (hg.move (move_of_step h)) hrun

theorem abandon_widen (hg : w.Grounded) : (w.widen more notices).abandon = w.abandon ++ more := by
  have hfold (stack : List Frame) (snippets : List Snippet)
      (hs : ∀ f ∈ stack, f.position < snippets.length) :
      stack.foldl (fun snippets f => mark snippets f.position .unvisited) (snippets ++ more) =
        stack.foldl (fun snippets f => mark snippets f.position .unvisited) snippets ++ more := by
    induction stack generalizing snippets with
    | nil => rfl
    | cons f stack ih =>
      obtain ⟨htop, hrest⟩ := List.forall_mem_cons.mp hs
      rw [List.foldl_cons, List.foldl_cons, mark_append htop]
      apply ih
      intro g hg
      rw [length_mark]
      exact hrest g hg
  exact hfold w.stack w.snippets hg

end Walk
end Include

namespace Document

open Include

variable {d e : Document} {more : List Snippet} {setting wider : Setting}

theorem length_expand (d : Document) (setting : Setting) (i : Nat) :
    (d.expand setting i).document.snippets.length = d.snippets.length := by
  cases hs : d.snippets[i]? with
  | none => simp only [expand, hs]
  | some s =>
    by_cases hdone : s.isResolved = true
    · rw [expand_of_resolved setting hs hdone]
    · rcases hrun : (d.walkInto i s).run setting with ⟨w, e?⟩
      have henter : (d.walkInto i s).snippets.length = d.snippets.length := length_mark ..
      have hlength : w.snippets.length = d.snippets.length := by
        have hend := Walk.length_run setting (d.walkInto i s)
        rw [hrun, henter] at hend
        exact hend
      rw [expand_of_open setting hs hdone hrun]
      cases e? with
      | none => exact hlength
      | some error => exact (length_eq_of_written (Walk.map_written_abandon w)).trans hlength

/-- The expansion of a snippet in a wider document is that without what was put behind. -/
theorem expand_widen (he : e.snippets = d.snippets ++ more) (hq : setting.policy = .strict)
    (ha : Walk.Answers setting wider) {root : Nat} (hr : root < d.snippets.length)
    (hm : ∀ name includer span, (d.expand setting root).result ≠ .error (.missing name includer span)) :
    (e.expand wider root).result = (d.expand setting root).result ∧
      (e.expand wider root).document.snippets = (d.expand setting root).document.snippets ++ more := by
  have hs : d.snippets[root]? = some d.snippets[root] := List.getElem?_eq_getElem hr
  have hs' : e.snippets[root]? = some d.snippets[root] := by
    rw [he, List.getElem?_append_left hr, hs]
  by_cases hdone : d.snippets[root].isResolved = true
  · rw [expand_of_resolved wider hs' hdone, expand_of_resolved setting hs hdone]
    exact ⟨rfl, he⟩
  · have hstart : e.walkInto root d.snippets[root] =
        (d.walkInto root d.snippets[root]).widen more e.notices := by
      simp only [walkInto, Walk.enter, Walk.widen, he, mark_append hr]
    have hground : (d.walkInto root d.snippets[root]).Grounded := by
      intro f hf
      rw [List.mem_singleton.mp hf]
      exact hr.trans_eq (length_mark d.snippets root .inProgress).symm
    rcases hrun : (d.walkInto root d.snippets[root]).run setting with ⟨w, e?⟩
    rw [expand_of_open setting hs hdone hrun] at hm ⊢
    have hfound : ∀ name includer span, e? ≠ some (.missing name includer span) := by
      rintro name includer span rfl
      exact hm name includer span rfl
    obtain ⟨hwide, hfinal⟩ := Walk.run_widen more e.notices hq ha hground hrun hfound
    rw [← hstart] at hwide
    rw [expand_of_open wider hs' hdone hwide]
    refine ⟨rfl, ?_⟩
    cases e? with
    | none => rfl
    | some error => exact Walk.abandon_widen hfinal

theorem locate_append (he : e.snippets = d.snippets ++ more) {target : Target} {i : Nat}
    (hi : d.locate target = some i) : e.locate target = some i := by
  cases target with
  | id id =>
    have hi : d.snippets.findIdx? (fun s => s.id = some id) = some i := hi
    change e.snippets.findIdx? (fun s => s.id = some id) = some i
    rw [he, List.findIdx?_append, hi, Option.some_or]
  | name key =>
    change firstAnswering e.snippets key = some i
    rw [he]
    exact firstAnswering_append more hi

theorem answers_append (he : e.snippets = d.snippets ++ more) (policy policy' : MissingPolicy) :
    Walk.Answers (d.setting policy) (e.setting policy') := by
  intro name i hi
  have hfirst : firstAnswering d.snippets name = some i :=
    (Index.lookup_ofSnippets d.snippets name).symm.trans hi
  have hwide : firstAnswering e.snippets name = some i := by
    rw [he]
    exact firstAnswering_append more hfirst
  exact (Index.lookup_ofSnippets e.snippets name).trans hwide

/-- A target that was found and did not miss a name comes to the same in a wider document. -/
theorem resolve_widen (he : e.snippets = d.snippets ++ more) {target : Target} {i : Nat}
    (hi : d.locate target = some i) (hm : ∀ name includer span,
      (d.resolve .strict target).result ≠ .error (.missing name includer span)) :
    (e.resolve .strict target).result = (d.resolve .strict target).result ∧
      (e.resolve .strict target).document.snippets =
        (d.resolve .strict target).document.snippets ++ more := by
  have hlt := locate_lt hi
  have hfound : ∀ name includer span,
      (d.expand (d.setting .strict) i).result ≠ .error (.missing name includer span) := by
    intro name includer span herror
    exact hm name includer span (by rw [resolve_of_located hi, herror]; rfl)
  obtain ⟨hresult, hsnippets⟩ :=
    expand_widen he rfl (answers_append he .strict .strict) hlt hfound
  have hlength := length_expand d (d.setting .strict) i
  rw [resolve_of_located hi, resolve_of_located (locate_append he hi)]
  refine ⟨?_, hsnippets⟩
  rw [hresult, hsnippets, List.getElem?_append_left (hlength.symm ▸ hlt)]

/-- A strict request that succeeds, or that meets a cycle, comes to the same when more snippets are put
behind, whatever names, aliases and numbers they have. They are left as they are. -/
theorem resolve_appended (he : e.snippets = d.snippets ++ more) (target : Target) :
    (∀ lines, (d.resolve .strict target).result = .ok lines →
      (e.resolve .strict target).result = .ok lines ∧
        (e.resolve .strict target).document.snippets =
          (d.resolve .strict target).document.snippets ++ more) ∧
    (∀ name chain span, (d.resolve .strict target).result = .error (.cyclic name chain span) →
      (e.resolve .strict target).result = .error (.cyclic name chain span) ∧
        (e.resolve .strict target).document.snippets =
          (d.resolve .strict target).document.snippets ++ more) := by
  cases hi : d.locate target with
  | none =>
    rw [resolve_of_not_located hi]
    simp
  | some i =>
    constructor
    · intro lines h
      obtain ⟨hresult, hsnippets⟩ := resolve_widen he hi (by simp [h])
      exact ⟨hresult.trans h, hsnippets⟩
    · intro name chain span h
      obtain ⟨hresult, hsnippets⟩ := resolve_widen he hi (by simp [h])
      exact ⟨hresult.trans h, hsnippets⟩

/-- A snippet that takes a library in, and two that include each other before a name that is missing. -/
def shelteredSource : Text :=
  "```sh\n#%name: a\n#%inc: b\n```\n```sh\n#%lib: b\nx\n```\n" ++
  "```sh\n#%name: c\n#%inc: d, gone\n```\n```sh\n#%lib: d\n#%inc: c, lost\n```\n"

/-- Libraries that take the names of others, or one that is missing there. -/
def intrudingSource : Text :=
  "```sh\n#%name: b\n#%lib: a\ny\n```\n```sh\n#%lib: gone\nz\n```\n```sh\n#%name: c\n#%lib: d\n```\n"

def intruded : Document :=
  ⟨(read .plain 0 shelteredSource).snippets ++ (read .plain 1 intrudingSource).snippets, 2, []⟩

theorem resolve_intruded :
    intruded.snippets =
      (read .plain 0 shelteredSource).snippets ++ (read .plain 1 intrudingSource).snippets ∧
    (intruded.resolve .strict (.name "a")).result = .ok ["x"] ∧
    (intruded.resolve .strict (.name "c")).result = .error (.cyclic "c" ["c", "d", "c"] ⟨100, 114⟩) ∧
    (intruded.resolve .strict (.name "c")).document.snippets =
      ((read .plain 0 shelteredSource).resolve .strict (.name "c")).document.snippets ++
        (read .plain 1 intrudingSource).snippets := by
  have hok : ((read .plain 0 shelteredSource).resolve .strict (.name "a")).result = .ok ["x"] := by
    decide +kernel
  have hcyclic : ((read .plain 0 shelteredSource).resolve .strict (.name "c")).result =
      .error (.cyclic "c" ["c", "d", "c"] ⟨100, 114⟩) := by
    decide +kernel
  have ha := (resolve_appended (e := intruded) rfl (.name "a")).1 _ hok
  have hc := (resolve_appended (e := intruded) rfl (.name "c")).2 _ _ _ hcyclic
  exact ⟨rfl, ha.1, hc.1, hc.2⟩

end Document
end Snippetry
