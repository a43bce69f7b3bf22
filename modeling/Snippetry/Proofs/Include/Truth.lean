import Mathlib.Data.List.Chain
import Snippetry.Proofs.Include.Session
import Snippetry.Proofs.Fence.Scan

/-! # Errors of an expansion are true, and point to the line at fault

The names a frame still has to deal with are those of one line of its snippet, and the frame carries the
span of that line while the snippets it asks for are expanded. So an error shows a line of the source
that lists the name in question, and the chain of a cycle is a way through the includes. -/
namespace Snippetry

open Relation (ReflTransGen)

namespace Include

/-- The line of the source that has this span is an include line of the snippet at `i` and lists a
name. -/
def ListedAt (source : Text) (snippets : List Snippet) (i : Nat) (name : Text) (span : Span) : Prop :=
  ∃ line ∈ Text.lines source, line.span = span ∧ Text.slice? source span = some line.text ∧
    ⟨line.text, span⟩ ∈ linesAt snippets i ∧ ("#%inc:" : Text) <+: line.text ∧
    name ∈ namesOf ⟨line.text, span⟩

/-- What an error says of the snippets and their source, when the snippet at `root` is expanded. -/
inductive Truthful (source : Text) (snippets : List Snippet) (root : Nat) : IncludeError → Prop
  | missing {name : Text} {span : Span} {i : Nat} (reached : ReflTransGen (Includes snippets) root i)
      (listed : ListedAt source snippets i name span)
      (unanswered : ∀ s ∈ snippets, s.answersTo name = false) :
      Truthful source snippets root (.missing name (labelAt snippets i) span)
  | cyclic {name : Text} {span : Span} {path : List Nat} {last : Nat} (distinct : path.Nodup)
      (chain : path.IsChain (Includes snippets)) (head : path.head? = some root)
      (ends : path.getLast? = some last) (listed : ListedAt source snippets last name span)
      (met : ∃ i ∈ path, firstAnswering snippets name = some i) :
      Truthful source snippets root (.cyclic name (path.map (labelAt snippets) ++ [name]) span)

/-! ## The line a frame is at -/

/-- The names at hand are those of a line with the frame's span, and what is not read yet is in the
snippet. -/
structure Frame.Reads (base : List Snippet) (f : Frame) : Prop where
  unread : ∀ line ∈ f.unread, line ∈ linesAt base f.position
  pending : ∀ name ∈ f.pending, ∃ line ∈ linesAt base f.position, line.span = f.span ∧
    name ∈ namesOf line

namespace Frame.Reads

variable {base : List Snippet} {f : Frame}

theorem names {name : Text} {names : List Text} (h : f.Reads base) (hp : f.pending = name :: names) :
    ({ f with pending := names } : Frame).Reads base :=
  ⟨h.unread, fun other hn => h.pending other (hp ▸ List.mem_cons_of_mem _ hn)⟩

theorem splice (h : f.Reads base) (body : List Text) : (f.splice body).Reads base :=
  ⟨h.unread, h.pending⟩

theorem enter {i : Nat} {s : Snippet} (hr : s.rawLines = linesAt base i) :
    (Frame.enter i s).Reads base :=
  ⟨fun line hl => hr ▸ hl, by simp [Frame.enter]⟩

theorem read {line : SourceLine} {unread : List SourceLine} (h : f.Reads base)
    (hp : f.pending = []) (hu : f.unread = line :: unread) : (f.read line unread).Reads base := by
  have hline : line ∈ linesAt base f.position := h.unread line (hu ▸ List.mem_cons_self)
  have hrest : ∀ l ∈ unread, l ∈ linesAt base f.position :=
    fun l hl => h.unread l (hu ▸ List.mem_cons_of_mem _ hl)
  unfold Frame.read
  cases hnames : includeNames? line.text with
  | none => exact ⟨hrest, by simp [hp]⟩
  | some names => exact ⟨hrest, fun name hn => ⟨line, hline, rfl, by simpa [namesOf, hnames] using hn⟩⟩

end Frame.Reads

theorem prefix_of_mem_namesOf {line : SourceLine} {name : Text} (h : name ∈ namesOf line) :
    ("#%inc:" : Text) <+: line.text := by
  unfold namesOf includeNames? at h
  cases hp : ("#%inc:" : Text).isPrefixOf? line.text with
  | none => rw [hp] at h; cases h
  | some rest => exact ⟨rest, List.isPrefixOf?_eq_some_iff_append_eq.mp hp⟩

def Quotes (source : Text) (snippets : List Snippet) : Prop :=
  ∀ i, ∀ line ∈ linesAt snippets i, ∃ l ∈ Text.lines source, line = ⟨l.text, l.span⟩

theorem Frame.Reads.listedAt {base : List Snippet} {source : Text} {f : Frame} {name : Text}
    (h : f.Reads base) (hs : Quotes source base) (hn : name ∈ f.pending) :
    ListedAt source base f.position name f.span := by
  obtain ⟨line, hline, hspan, hnames⟩ := h.pending name hn
  obtain ⟨l, hl, rfl⟩ := hs _ line hline
  have hspan : l.span = f.span := hspan
  rw [← hspan]
  exact ⟨l, hl, rfl, Text.slice?_of_mem_lines hl, hline, prefix_of_mem_namesOf hnames, hnames⟩

/-- The stack, with what its top waits for, is a way from the root through the includes. -/
theorem Stacked.chain {base snippets : List Snippet} {policy : MissingPolicy} {root : Nat}
    {asked : Option Nat} {stack : List Frame} (h : Stacked base policy snippets root asked stack) :
    (trail stack ++ asked.toList).IsChain (Includes base) ∧
      (trail stack ++ asked.toList).head? = some root := by
  induction h with
  | nil => simp
  | @cons asked f below top rest ih =>
    obtain ⟨hchain, hhead⟩ := ih
    rw [Option.toList_some] at hchain hhead
    rw [trail_cons]
    cases asked with
    | none =>
      rw [Option.toList_none, List.append_nil]
      exact ⟨hchain, hhead⟩
    | some j =>
      refine ⟨List.isChain_append.mpr ⟨hchain, List.isChain_singleton j, ?_⟩, ?_⟩
      · rintro i hi k hk
        obtain rfl : f.position = i := by simpa using hi
        obtain rfl : j = k := by simpa using hk
        exact top.asks j rfl
      · rw [List.head?_append, hhead]
        rfl

namespace Walk

variable {base : List Snippet} {policy : MissingPolicy} {root : Nat} {setting : Setting} {w v : Walk}

/-- A move leaves every frame at a line of its snippet. -/
theorem reads_move (h : Sound base policy root w) (hr : ∀ f ∈ w.stack, f.Reads base)
    (m : Move setting w v) : ∀ f ∈ v.stack, f.Reads base := by
  have hbelow {f : Frame} {below : List Frame} (hs : w.stack = f :: below) :
      ∀ g ∈ below, g.Reads base := fun g hg => hr g (hs ▸ List.mem_cons_of_mem _ hg)
  have htop {f : Frame} {below : List Frame} (hs : w.stack = f :: below) : f.Reads base :=
    hr f (hs ▸ List.mem_cons_self)
  cases m with
  | skip hs hp hl hq => exact List.forall_mem_cons.mpr ⟨(htop hs).names hp, hbelow hs⟩
  | reuse hs hp hl hres =>
    exact List.forall_mem_cons.mpr ⟨((htop hs).names hp).splice _, hbelow hs⟩
  | @enter f below name names i s hs hp hl hres =>
    have hlines : s.rawLines = linesAt base i := by
      rw [← linesAt_eq_of_written h.memo.written]
      simp [linesAt, resolution_of_lookup hl]
    exact List.forall_mem_cons.mpr
      ⟨.enter hlines, List.forall_mem_cons.mpr ⟨(htop hs).names hp, hbelow hs⟩⟩
  | read hs hp hu => exact List.forall_mem_cons.mpr ⟨(htop hs).read hp hu, hbelow hs⟩
  | @leave f below hs hp hu =>
    cases below with
    | nil => simp [Walk.leave]
    | cons parent rest =>
      obtain ⟨hparent, hrest⟩ := List.forall_mem_cons.mp (hbelow hs)
      exact List.forall_mem_cons.mpr ⟨hparent.splice _, hrest⟩

theorem reads_moves (h : Sound base policy root w) (hf : Fits base policy setting)
    (hr : ∀ f ∈ w.stack, f.Reads base) (m : ReflTransGen (Move setting) w v) :
    ∀ f ∈ v.stack, f.Reads base := by
  induction m with
  | refl => exact hr
  | tail hu m ih => exact reads_move (h.moves hf hu) ih m

/-- A walk is stuck with an error that is true. -/
theorem truthful_of_stuck {source : Text} (h : Sound base policy root w)
    (hf : Fits base policy setting) (hr : ∀ f ∈ w.stack, f.Reads base) (hs : Quotes source base)
    {e : IncludeError} (hstuck : Stuck setting w e) : Truthful source base root e := by
  cases hstuck with
  | @missing f below name names hstack hp hl hq =>
    have hlisted := (hr f (by simp [hstack])).listedAt hs (hp ▸ List.mem_cons_self : name ∈ f.pending)
    have hnone := hf.lookup_none h.memo hl
    rw [(h.top hstack).1.label]
    exact .missing (h.reaches (by simp [hstack])) hlisted (List.findIdx?_eq_none_iff.mp hnone)
  | @cyclic f below name names i s hstack hp hl hres =>
    have hlisted := (hr f (by simp [hstack])).listedAt hs (hp ▸ List.mem_cons_self : name ∈ f.pending)
    obtain ⟨htop, hrest⟩ := h.top hstack
    obtain ⟨hchain, hhead⟩ := hrest.chain
    have htrail : trail w.stack = trail below ++ [f.position] := by simp [hstack]
    have hmet := (h.inProgress i).mp (by rw [resolutionAt_of_lookup hl, hres])
    have hlabels : below.reverse.map Frame.label ++ [f.label, name] =
        (trail w.stack).map (labelAt base) ++ [name] := by
      rw [hrest.labels, htop.label, htrail]
      simp
    rw [hlabels]
    exact .cyclic h.nodup (htrail ▸ hchain) (htrail ▸ hhead) (by simp [htrail]) hlisted
      ⟨i, hmet, hf.lookup_some hl⟩

/-- A walk with something on its stack is still inside its root. -/
theorem Sound.root_mem_trail (h : Sound base policy root w) (hs : w.stack ≠ []) :
    root ∈ trail w.stack := by
  rcases h.frames with ⟨hn, -⟩ | hstacked
  · exact absurd hn hs
  · have hhead := hstacked.chain.2
    rw [Option.toList_none, List.append_nil] at hhead
    exact List.mem_of_mem_head? hhead

theorem Stuck.stack_ne_nil {e : IncludeError} (h : Stuck setting w e) : w.stack ≠ [] := by
  cases h with
  | missing hs => simp [hs]
  | cyclic hs => simp [hs]

/-- The root of a failed walk is left as not expanded. -/
theorem Sound.not_resolved_abandon (h : Sound base policy root w) {e : IncludeError}
    (hstuck : Stuck setting w e) : ¬ IsResolved w.abandon root := by
  rintro ⟨lines, hl⟩
  exact h.not_resolved (h.root_mem_trail hstuck.stack_ne_nil) ⟨lines, h.resolved_abandon.mp hl⟩

end Walk

end Include

namespace Document

open Include

variable {base : List Snippet} {policy : MissingPolicy} {setting : Setting} {d : Document}

def StuckAt (base : List Snippet) (policy : MissingPolicy) (setting : Setting) (root : Nat)
    (e : IncludeError) (after : List Snippet) : Prop :=
  ∃ w, Walk.Sound base policy root w ∧ (∀ f ∈ w.stack, f.Reads base) ∧ Walk.Stuck setting w e ∧
    after = w.abandon

theorem reads_walkInto (h : d.Settled base policy) {root : Nat} {s : Snippet}
    (hs : d.snippets[root]? = some s) : ∀ f ∈ (d.walkInto root s).stack, f.Reads base := by
  have hlines : s.rawLines = linesAt base root := by
    rw [← linesAt_eq_of_written h.memo.written]
    simp [linesAt, hs]
  simpa [walkInto, Walk.enter] using Frame.Reads.enter hlines

theorem stuckAt_of_expand_error {root : Nat} (h : d.Settled base policy)
    (hf : Walk.Fits base policy setting) (hr : root < d.snippets.length) {e : IncludeError}
    (he : (d.expand setting root).result = .error e) :
    StuckAt base policy setting root e (d.expand setting root).document.snippets := by
  have hs : d.snippets[root]? = some d.snippets[root] := List.getElem?_eq_getElem hr
  by_cases hdone : d.snippets[root].isResolved = true
  · rw [expand_of_resolved setting hs hdone] at he
    cases he
  · have hstart := Walk.sound_start h hs (fun hr => hdone ((isResolved_iff hs).mpr hr))
    have hreads := reads_walkInto h hs
    obtain ⟨w, hw, hend⟩ := Walk.run_moves setting (d.walkInto root d.snippets[root])
    rcases hend with ⟨-, hrun⟩ | ⟨e', hstuck, hrun⟩
    · rw [expand_of_open setting hs hdone hrun] at he
      cases he
    · rw [expand_of_open setting hs hdone hrun] at he ⊢
      cases he
      exact ⟨w, hstart.moves hf hw, Walk.reads_moves hstart hf hreads hw, hstuck, rfl⟩

/-- Of several expansions in turn the first that fails is the last; the ones before are done. -/
theorem stuckAt_of_expandEach_error (hf : Walk.Fits base policy setting) (positions : List Nat)
    (h : d.Settled base policy) (hp : ∀ i ∈ positions, i < d.snippets.length) {e : IncludeError}
    (he : (d.expandEach setting positions).result = .error e) :
    ∃ before root later, positions = before ++ root :: later ∧
      (∀ i ∈ before, IsResolved (d.expandEach setting positions).document.snippets i) ∧
      StuckAt base policy setting root e (d.expandEach setting positions).document.snippets := by
  induction positions generalizing d with
  | nil => cases he
  | cons i positions ih =>
    have hi := hp i List.mem_cons_self
    have hexp := expansion h hf hi
    rcases expandEach_cons setting d i positions with ⟨e', -, hstops⟩ | ⟨hok, hresult, hdocument⟩
    · rw [hstops] at he ⊢
      exact ⟨[], i, positions, rfl, by simp, stuckAt_of_expand_error h hf hi he⟩
    · have hp' := hexp.lt_of_mem hp
      rw [hresult] at he
      obtain ⟨before, root, later, rfl, hbefore, hroot⟩ := ih hexp.settled hp' he
      obtain ⟨lines, hdone⟩ := hexp.done hok
      have hkept := (expandEach_settled hf _ hexp.settled hp').2.snippets.resolved i lines hdone
      rw [hdocument]
      exact ⟨i :: before, root, later, rfl,
        List.forall_mem_cons.mpr ⟨⟨lines, hkept⟩, hbefore⟩, hroot⟩

def Request.failure? (policy : MissingPolicy) (d : Document) (r : Request) : Option IncludeError :=
  let result := match r with
    | one target => (d.resolve policy target).result.map fun _ => ()
    | all => (d.resolveAll policy).result
  match result with
  | .error e => some e
  | .ok () => none

/-- The snippet at which a request fails: the target, or of all snippets the first that is not expanded
afterwards. -/
def Request.FailsAt (policy : MissingPolicy) (d : Document) (root : Nat) : Request → Prop
  | one target => d.locate target = some root
  | all => root < d.snippets.length ∧ ¬ IsResolved (d.resolveAll policy).document.snippets root ∧
      ∀ i < root, IsResolved (d.resolveAll policy).document.snippets i

theorem stuckAt_of_failure {walked : MissingPolicy} (h : d.Settled base policy)
    (hq : policy = walked ∨ policy = .lenient) {r : Request} {e : IncludeError}
    (he : r.failure? walked d = some e) :
    (∃ target, r = .one target ∧ e = .unknownTarget target ∧ d.locate target = none) ∨
      ∃ root after, r.FailsAt walked d root ∧ StuckAt base policy (d.setting walked) root e after := by
  cases r with
  | one target =>
    cases hi : d.locate target with
    | none =>
      simp only [Request.failure?, resolve_of_not_located hi, Except.map, Option.some.injEq] at he
      exact .inl ⟨target, rfl, he.symm, hi⟩
    | some i =>
      have herror : (d.expand (d.setting walked) i).result = .error e := by
        simp only [Request.failure?, resolve_of_located hi] at he
        cases hr : (d.expand (d.setting walked) i).result <;> simp_all [Except.map]
      exact .inr ⟨i, _, hi, stuckAt_of_expand_error h (h.fits hq) (locate_lt hi) herror⟩
  | all =>
    have herror : (d.resolveAll walked).result = .error e := by
      simp only [Request.failure?] at he
      cases hr : (d.resolveAll walked).result <;> simp_all
    obtain ⟨before, root, later, hrange, hbefore, hstuck⟩ :=
      stuckAt_of_expandEach_error (h.fits hq) _ h (fun i hi => List.mem_range.mp hi) herror
    have hsorted := List.pairwise_lt_range (n := d.snippets.length)
    rw [hrange] at hsorted
    have hroot : root < d.snippets.length := List.mem_range.mp (by rw [hrange]; simp)
    refine .inr ⟨root, _, ⟨hroot, ?_, fun i hi => ?_⟩, hstuck⟩
    · obtain ⟨w, hsound, -, hw, habandon⟩ := hstuck
      rw [resolveAll, habandon]
      exact hsound.not_resolved_abandon hw
    · have hmem : i ∈ before ++ root :: later := hrange ▸ List.mem_range.mpr (hi.trans hroot)
      rcases List.mem_append.mp hmem with hb | hl
      · exact hbefore i hb
      · have hle := (List.pairwise_cons.mp (List.pairwise_append.mp hsorted).2.1).1
        rcases List.mem_cons.mp hl with rfl | hl
        · exact absurd hi (Nat.lt_irrefl _)
        · exact absurd hi (Nat.lt_asymm (hle i hl))

theorem quotes_read_plain (fileId : Nat) (source : Text) :
    Quotes source (read .plain fileId source).snippets := by
  intro i line hline
  unfold linesAt at hline
  cases hs : (read .plain fileId source).snippets[i]? with
  | none => simp [hs] at hline
  | some s =>
    rw [hs, Option.elim_some] at hline
    exact Plain.mem_lines_of_mem_rawLines (List.mem_of_getElem? hs) hline

/-- Whatever was asked before and under whichever policies, an error of a request on a document with
plain fences names a snippet or a target that is not there, or a cycle that is, and shows the line of
the source that asks for it. -/
theorem truthful_of_failure (fileId : Nat) (source : Text) (requests : List (MissingPolicy × Request))
    (policy : MissingPolicy) (r : Request) {e : IncludeError}
    (h : r.failure? policy ((read .plain fileId source).after requests) = some e) :
    (∃ target, r = .one target ∧ e = .unknownTarget target ∧
      (read .plain fileId source).locate target = none) ∨
    ∃ root, r.FailsAt policy ((read .plain fileId source).after requests) root ∧
      Truthful source (read .plain fileId source).snippets root e := by
  have hafter := ((fresh_read .plain fileId source).settled .lenient).after requests
    fun _ _ => .inr rfl
  rcases stuckAt_of_failure hafter (.inr rfl) h with
    ⟨target, hr, he, hnone⟩ | ⟨root, after, hroot, w, hsound, hreads, hstuck, -⟩
  · exact .inl ⟨target, hr, he, by rwa [← locate_eq_of_written hafter.memo.written]⟩
  · exact .inr ⟨root, hroot, Walk.truthful_of_stuck hsound (hafter.fits (.inr rfl)) hreads
      (quotes_read_plain fileId source) hstuck⟩

/-- A cycle that is met after a library has been put in, and behind a name that is not there. -/
def faultSource : Text :=
  "```sh\n#%lib: a\nx\n```\n```sh\n#%name: top\n#%inc: a, b\n```\n```sh\n#%lib: b\n#%inc: gone, top\n```\n"

theorem truthful_faultSource :
    Request.failure? .lenient ((read .plain 0 faultSource).after
        [(.strict, .all), (.strict, .one (.name "b"))]) .all =
      some (.cyclic "top" ["top", "b", "top"] ⟨70, 86⟩) ∧
    ((∃ target, Request.all = .one target ∧
        (.cyclic "top" ["top", "b", "top"] ⟨70, 86⟩ : IncludeError) = .unknownTarget target ∧
        (read .plain 0 faultSource).locate target = none) ∨
      ∃ root, Request.all.FailsAt .lenient ((read .plain 0 faultSource).after
          [(.strict, .all), (.strict, .one (.name "b"))]) root ∧
        Truthful faultSource (read .plain 0 faultSource).snippets root
          (.cyclic "top" ["top", "b", "top"] ⟨70, 86⟩)) := by
  have hfails : Request.failure? .lenient ((read .plain 0 faultSource).after
      [(.strict, .all), (.strict, .one (.name "b"))]) .all =
        some (.cyclic "top" ["top", "b", "top"] ⟨70, 86⟩) := by decide +kernel
  exact ⟨hfails, truthful_of_failure 0 faultSource _ .lenient .all hfails⟩

end Document
end Snippetry
