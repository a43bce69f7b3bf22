import Snippetry.CommandLine.Program
import Snippetry.Proofs.Include.Complete
import Snippetry.Proofs.Run.Limits
import Snippetry.Proofs.Selection

/-! # Running the snippets of a document

Nothing is run before the whole document is expanded and all requested snippets are there. From then on
every request finds its snippet expanded, so that each becomes one job for the host, in the order of the
requests and whatever came of the jobs before, unless one of them brings the program down. -/
namespace Snippetry

open Include

namespace Document

/-- Some snippet cannot be expanded, or there is none with some of the ids. -/
def Refuses (d : Document) (policy : MissingPolicy) (ids : List SnippetId) : Prop :=
  (∃ i, (d.expand (d.setting policy) i).result ≠ .ok ()) ∨ ∃ id ∈ ids, id ∉ d.ids

end Document

namespace Host

structure Call where
  mode : RunMode
  job : Job
  ending : Ending

variable {σ : Type}

def recorded (host : Host σ) : Host (σ × List Call) where
  files s := host.files s.1
  blocks := host.blocks
  run mode job s :=
    let (r, state) := host.run mode job s.1
    (r, state, s.2 ++ [⟨mode, job, r.1⟩])
  run_ne_crashed mode job s h := host.run_ne_crashed mode job s.1 h

theorem run_recorded (host : Host σ) (mode : RunMode) (job : Job) (state : σ) (calls : List Call) :
    host.recorded.run mode job (state, calls) = ((host.run mode job state).1,
      (host.run mode job state).2, calls ++ [⟨mode, job, (host.run mode job state).1.1⟩]) := rfl

/-- The host never says of a job that its snippet was not expanded. -/
def Informed (host : Host σ) : Prop :=
  ∀ mode job state label, (host.run mode job state).1.1 ≠ .failed (.unresolved label)

/-- The interpreter exited with 0 and wrote nothing to its standard error. -/
def Call.Succeeded (c : Call) : Prop := c.ending = .finished ⟨some 0, 0, .exited⟩

instance (c : Call) : Decidable c.Succeeded :=
  inferInstanceAs (Decidable (c.ending = .finished ⟨some 0, 0, .exited⟩))

def Call.Of (d : Document) (o : RunOptions) (id : SnippetId) (c : Call) : Prop :=
  ∃ s, d.get? id = some s ∧ o.prepare s = .ok c.job ∧ c.mode = o.mode

theorem execute_of_complete (host : Host σ) (o : RunOptions) (policy : MissingPolicy) {d : Document}
    (h : d.Complete) {id : SnippetId} (hid : id ∈ d.ids) : ∃ s job, d.get? id = some s ∧
      o.prepare s = .ok job ∧ ∀ state, host.execute o policy d id state =
        ⟨.ok (host.run o.mode job state).1.1, (host.run o.mode job state).1.2, d,
          (host.run o.mode job state).2⟩ := by
  obtain ⟨s, hs, hget⟩ := Document.exists_get? hid
  obtain ⟨lines, hl⟩ := Option.isSome_iff_exists.mp (h s hs)
  obtain ⟨body, hresolve⟩ := h.resolve policy hid
  have hjob : ∃ job, o.prepare s = .ok job := by simp [RunOptions.prepare, hl]
  obtain ⟨job, hjob⟩ := hjob
  refine ⟨s, job, hget, hjob, fun state => ?_⟩
  simp only [execute, hresolve, hget, dispatch, hjob]
  rfl

end Host

/-- A supervisor fails only for reading, writing or waiting. -/
theorem World.Supervised.exists_io {program : Text} {timeout : Option Nat} {calls : List World.Call}
    {e : RunError} (h : Supervised program timeout calls (.done (.failed e))) :
    ∃ reason, e = .io reason := by
  cases h with
  | run _ course =>
    cases course.story with
    | broken c reason | unpolled reason | unreaped reason => exact ⟨reason, rfl⟩

namespace Machine

theorem supervised_ne_unresolved (t : Timeline) (reading : Reading) (program : Text)
    (timeout : Option Nat) (cancelled : Bool) (label : Text) :
    (t.supervised reading program timeout cancelled).1 ≠ .failed (.unresolved label) := by
  have hsupervised := Playback.world.supervised
    (Playback.start reading cancelled t).steps program timeout (.start reading cancelled t)
  simp only [Timeline.supervised]
  split
  · next hrun =>
    rintro rfl
    rw [hrun] at hsupervised
    obtain ⟨reason, he⟩ := hsupervised.exists_io
    cases he
  · simp

theorem informed_host : host.Informed := by
  intro mode job m label
  simp only [host, execute]
  split
  · simp
  · exact supervised_ne_unresolved _ _ _ _ _ label

end Machine

namespace CommandLine

def RunArguments.requested (args : RunArguments) (d : Document) : List SnippetId :=
  match args.document.ids with
  | none => [.first]
  | some .all => d.ids
  | some (.ids ids) => ids

open Host

/-- The jobs of snippets one after the other, with the number of failures; a job may bring down the
program, which leaves out those after it. -/
inductive Ran (d : Document) (o : RunOptions) : List SnippetId → List Call → Nat → Bool → Prop
  | nil : Ran d o [] [] 0 false
  | crash {id : SnippetId} {ids : List SnippetId} {c : Call} (h : c.Of d o id)
      (crashed : c.ending = .crashed) : Ran d o (id :: ids) [c] 1 true
  | success {id : SnippetId} {ids : List SnippetId} {c : Call} {calls : List Call} {failures : Nat}
      {crashed : Bool} (h : c.Of d o id) (succeeded : c.Succeeded)
      (rest : Ran d o ids calls failures crashed) : Ran d o (id :: ids) (c :: calls) failures crashed
  | failure {id : SnippetId} {ids : List SnippetId} {c : Call} {calls : List Call} {failures : Nat}
      {crashed : Bool} (h : c.Of d o id) (stays : c.ending ≠ .crashed) (failed : ¬ c.Succeeded)
      (rest : Ran d o ids calls failures crashed) :
      Ran d o (id :: ids) (c :: calls) (failures + 1) crashed

namespace Ran

variable {d : Document} {o : RunOptions} {ids : List SnippetId} {calls : List Call} {failures : Nat}
  {crashed : Bool}

theorem of_prefix (h : Ran d o ids calls failures crashed) :
    List.Forall₂ (fun id c => c.Of d o id) (ids.take calls.length) calls := by
  induction h with
  | nil => exact .nil
  | crash h => exact .cons h .nil
  | success h _ _ ih => exact .cons h ih
  | failure h _ _ _ ih => exact .cons h ih

theorem length_eq (h : Ran d o ids calls failures false) : calls.length = ids.length := by
  generalize hc : false = crashed at h
  induction h with
  | nil => rfl
  | crash => cases hc
  | success _ _ _ ih => simp [ih hc]
  | failure _ _ _ _ ih => simp [ih hc]

theorem crashed_iff (h : Ran d o ids calls failures crashed) :
    crashed = true ↔ ∃ c ∈ calls, c.ending = .crashed := by
  induction h with
  | nil => simp
  | crash _ crashed => simp [crashed]
  | success _ succeeded _ ih =>
    rw [Call.Succeeded] at succeeded
    simp [ih, succeeded]
  | failure _ stays _ _ ih => simp [ih, stays]

theorem failures_eq_zero_iff (h : Ran d o ids calls failures crashed) :
    failures = 0 ↔ ∀ c ∈ calls, c.Succeeded := by
  induction h with
  | nil => simp
  | crash _ crashed => simp [Call.Succeeded, crashed]
  | success _ succeeded _ ih => simp [ih, succeeded]
  | failure _ _ failed => simp [failed]

end Ran

section Running

variable {σ : Type} (host : Host σ) (args : RunArguments) (noColor : Bool) (l : Loaded)

/-- What is made of the end of a job. -/
theorem judge_ok (noColor : Bool) (source : Report.SourceFile) (id : SnippetId) (ending : Ending) :
    (ending = .crashed ∧ judge noColor source id (.ok ending) = .crash) ∨
    (ending = .finished ⟨some 0, 0, .exited⟩ ∧ judge noColor source id (.ok ending) = .success) ∨
    (ending ≠ .crashed ∧ ending ≠ .finished ⟨some 0, 0, .exited⟩ ∧
      ∃ e, judge noColor source id (.ok ending) = .failure e) := by
  cases ending with
  | crashed => exact .inl ⟨rfl, rfl⟩
  | failed e => exact .inr (.inr ⟨by simp, by simp, _, rfl⟩)
  | finished o =>
    obtain ⟨exitCode, stderrBytes, termination⟩ := o
    by_cases h : (⟨exitCode, stderrBytes, termination⟩ : Outcome).isSuccess = true
    · refine .inr (.inl ⟨?_, by rw [judge, if_pos h]⟩)
      simp only [Outcome.isSuccess, Bool.and_eq_true, decide_eq_true_eq] at h
      obtain ⟨⟨rfl, rfl⟩, rfl⟩ := h
      rfl
    · refine .inr (.inr ⟨by simp, ?_, _, by rw [judge, if_neg h]⟩)
      intro he
      cases he
      exact h rfl

/-- One of several snippets in a document that is expanded: its job, and then the others. -/
theorem runEach_cons {d : Document} {id : SnippetId} {s : Snippet} {job : Job}
    (h : d.Complete) (hget : d.get? id = some s)
    (hjob : (args.options l.config).prepare s = .ok job) (ids : List SnippetId) (state : σ) :
    runEach host args noColor l (id :: ids) d state =
      let r := host.run (args.options l.config).mode job state
      let before := Emission.shown (args.announcement s) :: r.1.2
      let rest := runEach host args noColor l ids d r.2
      match judge noColor l.source id (.ok r.1.1) with
      | .crash => ⟨1, true, before, r.2⟩
      | .success => { rest with emissions := before ++ rest.emissions }
      | .failure e =>
        { rest with failures := rest.failures + 1, emissions := before ++ e :: rest.emissions } := by
  have hid : id ∈ d.ids :=
    List.mem_filterMap.mpr ⟨s, List.mem_of_find?_eq_some hget, by simpa using List.find?_some hget⟩
  obtain ⟨s', job', hget', hjob', hexecute⟩ :=
    host.execute_of_complete (args.options l.config) l.policy h hid
  cases hget.symm.trans hget'
  cases hjob.symm.trans hjob'
  rw [runEach]
  simp only [hexecute, hget]
  rfl

/-- A record changes nothing, and it has the jobs of the snippets. -/
theorem ran_runEach {d : Document} (h : d.Complete) (ids : List SnippetId)
    (hids : ∀ id ∈ ids, id ∈ d.ids) (state : σ) (before : List Call) : ∃ calls,
      runEach host.recorded args noColor l ids d (state, before) =
        ⟨(runEach host args noColor l ids d state).failures,
          (runEach host args noColor l ids d state).crashed,
          (runEach host args noColor l ids d state).emissions,
          (runEach host args noColor l ids d state).state, before ++ calls⟩ ∧
      Ran d (args.options l.config) ids calls (runEach host args noColor l ids d state).failures
        (runEach host args noColor l ids d state).crashed := by
  induction ids generalizing state before with
  | nil => exact ⟨[], by simp [runEach], .nil⟩
  | cons id ids ih =>
    obtain ⟨s, job, hget, hjob, -⟩ := host.execute_of_complete (args.options l.config) l.policy h
      (hids id List.mem_cons_self)
    rw [runEach_cons host args noColor l h hget hjob,
      runEach_cons host.recorded args noColor l h hget hjob]
    simp only [run_recorded]
    generalize host.run (args.options l.config).mode job state = r
    have hof : (⟨(args.options l.config).mode, job, r.1.1⟩ : Call).Of d (args.options l.config) id :=
      ⟨s, hget, hjob, rfl⟩
    obtain ⟨calls, hrest, hran⟩ := ih (fun id' hid' => hids id' (List.mem_cons_of_mem _ hid')) r.2
      (before ++ [⟨(args.options l.config).mode, job, r.1.1⟩])
    rw [hrest]
    rcases judge_ok noColor l.source id r.1.1 with ⟨he, hj⟩ | ⟨he, hj⟩ | ⟨hstays, hfailed, e, hj⟩
    · simp only [hj]
      exact ⟨[_], rfl, .crash hof he⟩
    · simp only [hj]
      exact ⟨_ :: calls, by simp, .success hof he hran⟩
    · simp only [hj]
      exact ⟨_ :: calls, by simp, .failure hof hstays hfailed hran⟩

end Running

section Selecting

variable {d : Document} {args : RunArguments}

theorem requested_eq_of_ids {e : Document} (h : d.ids = e.ids) :
    args.requested d = args.requested e := by
  unfold RunArguments.requested
  rw [h]

theorem select_requested (h : ∀ id ∈ args.requested d, id ∈ d.ids) :
    d.select (args.document.ids.getD (.ids [.first])) = .ok (args.requested d) := by
  have hids (ids : List SnippetId) (h : ∀ id ∈ ids, id ∈ d.ids) : d.select (.ids ids) = .ok ids :=
    Document.select_ids_iff.mpr ⟨rfl, h⟩
  unfold RunArguments.requested at h ⊢
  cases hs : args.document.ids with
  | none => exact hids _ (by simpa [hs] using h)
  | some selection =>
    cases selection with
    | all => rfl
    | ids ids => exact hids _ (by simpa [hs] using h)

theorem select_unknown {id : SnippetId} (hid : id ∈ args.requested d) (hn : id ∉ d.ids) :
    ∃ e, d.select (args.document.ids.getD (.ids [.first])) = .error e := by
  have hids (ids : List SnippetId) (hid : id ∈ ids) : ∃ e, d.select (.ids ids) = .error e := by
    cases hselect : d.select (.ids ids) with
    | error e => exact ⟨e, rfl⟩
    | ok found => exact absurd ((Document.select_ids_iff.mp hselect).2 id hid) hn
  unfold RunArguments.requested at hid
  cases hs : args.document.ids with
  | none => exact hids _ (by simpa [hs] using hid)
  | some selection =>
    cases selection with
    | all => exact absurd (by simpa [hs] using hid) hn
    | ids ids => exact hids _ (by simpa [hs] using hid)

end Selecting

/-- What the end of a run command and the jobs that the host was given have to do with a document that
has been read. -/
structure Honoured {σ : Type} (host : Host σ) (args : RunArguments) (config : Config) (d : Document)
    (exit : Exit) (calls : List Call) : Prop where
  refused : d.Refuses (args.document.policy config) (args.requested d) → exit = .code 1 ∧ calls = []
  /-- From an expanded document a snippet is run, whatever the state is. -/
  attempted : ¬ d.Refuses (args.document.policy config) (args.requested d) →
    ∀ id ∈ args.requested d, ∀ state, ∃ ending,
      (host.execute (args.options config) (args.document.policy config)
        (d.resolveAll (args.document.policy config)).document id state).result = .ok ending ∧
      ∀ label, ending ≠ .failed (.unresolved label)
  carriedOut : ¬ d.Refuses (args.document.policy config) (args.requested d) →
    (∀ c ∈ calls, c.ending ≠ .crashed) →
      List.Forall₂ (fun id c => c.Of (d.resolveAll (args.document.policy config)).document
        (args.options config) id) (args.requested d) calls ∧
      exit = .code (if ∀ c ∈ calls, c.Succeeded then 0 else 1)
  brokenOff : ¬ d.Refuses (args.document.policy config) (args.requested d) →
    (∃ c ∈ calls, c.ending = .crashed) →
      List.Forall₂ (fun id c => c.Of (d.resolveAll (args.document.policy config)).document
        (args.options config) id) ((args.requested d).take calls.length) calls ∧
      exit = .crash
  ascending : args.document.ids = some .all →
    ((args.requested d).map SnippetId.value).Pairwise (· ≤ ·)

theorem readSource_of_read {files : Files} (input : Bytes) {path text : Text} (hp : path ≠ ['-'])
    (h : files.read path = .ok text) : readSource files input (some path) = .ok ⟨path, text⟩ := by
  unfold readSource
  split
  · next hnone => cases hnone
  · next hdash => exact absurd (Option.some.inj hdash) hp
  · next hpath =>
    cases hpath
    rw [h]
    rfl

/-- A document is loaded if all its snippets can be expanded. -/
theorem load_eq {blocks : Text → List Markdown.FencedBlock} {files : Files} {input : Bytes}
    {args : DocumentArguments} {config : Config} {source : Report.SourceFile} (noColor : Bool)
    {d : Document} (hd : d = .readWith blocks (args.style config) 0 source.source)
    (hconfig : (Config.load files args.config).1 = .ok config)
    (hsource : readSource files input args.file = .ok source) :
    (load blocks files input args noColor).2 =
      match (d.resolveAll (args.policy config)).result with
      | .ok () => some ⟨(d.resolveAll (args.policy config)).document, config, args.policy config, source⟩
      | .error _ => none := by
  unfold load
  rcases hload : Config.load files args.config with ⟨result, log⟩
  obtain rfl : result = .ok config := by rw [← hconfig, hload]
  have hread : (Document.collectWith blocks (args.style config) 0 source.source).document = d :=
    hd.symm
  simp only [hsource, expandSource, hread]
  cases (d.resolveAll (args.policy config)).result <;> rfl

namespace Honoured

variable {σ : Type} {host : Host σ} {args : RunArguments} {config : Config} {d : Document}

theorem of_refused (h : d.Refuses (args.document.policy config) (args.requested d))
    (hasc : (d.ids.map SnippetId.value).Pairwise (· ≤ ·)) :
    Honoured host args config d (.code 1) [] where
  refused _ := ⟨rfl, rfl⟩
  attempted hn := absurd h hn
  carriedOut hn := absurd h hn
  brokenOff hn := absurd h hn
  ascending hall := by rwa [RunArguments.requested, hall]

theorem of_ran (hhost : host.Informed)
    (hn : ¬ d.Refuses (args.document.policy config) (args.requested d))
    (hcomplete : (d.resolveAll (args.document.policy config)).document.Complete)
    (hids : ∀ id ∈ args.requested d, id ∈ (d.resolveAll (args.document.policy config)).document.ids)
    (hasc : (d.ids.map SnippetId.value).Pairwise (· ≤ ·))
    {calls : List Call} {failures : Nat} {crashed : Bool}
    (h : Ran (d.resolveAll (args.document.policy config)).document (args.options config)
      (args.requested d) calls failures crashed) :
    Honoured host args config d
      (if crashed then .crash else .code (if failures = 0 then 0 else 1)) calls where
  refused hr := absurd hr hn
  attempted _ id hid state := by
    obtain ⟨s, job, -, -, hexecute⟩ := host.execute_of_complete (args.options config)
      (args.document.policy config) hcomplete (hids id hid)
    exact ⟨_, by rw [hexecute], hhost _ _ _⟩
  carriedOut _ hquiet := by
    obtain rfl : crashed = false := by
      refine Bool.eq_false_iff.mpr fun hc => ?_
      obtain ⟨c, hc, he⟩ := h.crashed_iff.mp hc
      exact hquiet c hc he
    have hof := h.of_prefix
    rw [h.length_eq, List.take_length] at hof
    exact ⟨hof, by simp [h.failures_eq_zero_iff]⟩
  brokenOff _ hbroken := ⟨h.of_prefix, by rw [h.crashed_iff.mpr hbroken, if_pos rfl]⟩
  ascending hall := by rwa [RunArguments.requested, hall]

end Honoured

section Commands

variable {σ : Type} (host : Host σ) {r : Request} {args : RunArguments} {config : Config}
  {source : Report.SourceFile}

theorem ran_runDocument (hdump : args.document.dump = false) (noColor : Bool) {l : Loaded}
    (hcomplete : l.document.Complete) (hids : ∀ id ∈ args.requested l.document, id ∈ l.document.ids)
    (state : σ) : ∃ exit emissions after calls failures crashed,
      runDocument host args noColor l state = ⟨exit, emissions, after⟩ ∧
      runDocument host.recorded args noColor l (state, []) = ⟨exit, emissions, after, calls⟩ ∧
      Ran l.document (args.options l.config) (args.requested l.document) calls failures crashed ∧
      exit = if crashed then .crash else .code (if failures = 0 then 0 else 1) := by
  obtain ⟨calls, hrun, hran⟩ := ran_runEach host args noColor l hcomplete _ hids state []
  simp only [runDocument, hdump, select_requested hids, hrun]
  generalize runEach host args noColor l (args.requested l.document) l.document state = t at hran ⊢
  by_cases hcrashed : t.crashed = true
  · exact ⟨.crash, t.emissions, t.state, calls, t.failures, t.crashed, by simp [hcrashed],
      by simp [hcrashed], hran, by simp [hcrashed]⟩
  · by_cases hfailures : t.failures = 0
    · exact ⟨.code 0, t.emissions, t.state, calls, t.failures, t.crashed, by simp [hcrashed, hfailures],
        by simp [hcrashed, hfailures], hran, by simp [hcrashed, hfailures]⟩
    · exact ⟨.code 1, t.emissions ++ [.logged (.snippetsFailed t.failures)], t.state, calls,
        t.failures, t.crashed, by simp [hcrashed, hfailures], by simp [hcrashed, hfailures], hran,
        by simp [hcrashed, hfailures]⟩

theorem runDocument_of_unknown (hdump : args.document.dump = false) (noColor : Bool) {l : Loaded}
    {id : SnippetId} (hid : id ∈ args.requested l.document) (hn : id ∉ l.document.ids) :
    ∃ emissions, ∀ {τ : Type} (host : Host τ) (state : τ),
      runDocument host args noColor l state = ⟨.code 1, emissions, state⟩ := by
  obtain ⟨e, he⟩ := select_unknown hid hn
  refine ⟨[errorLine e.message], fun host state => ?_⟩
  simp [runDocument, hdump, he]

/-- The requests are seen to once the whole document is expanded, and not before all their ids are
found. -/
theorem honoured_runDocument (hhost : host.Informed) (hdump : args.document.dump = false)
    (noColor : Bool) {d : Document} (hsettled : d.Settled d.snippets (args.document.policy config))
    (hasc : (d.ids.map SnippetId.value).Pairwise (· ≤ ·))
    (hresult : (d.resolveAll (args.document.policy config)).result = .ok ()) {l : Loaded}
    (hdocument : l.document = (d.resolveAll (args.document.policy config)).document)
    (hconfig : l.config = config) (state : σ) : ∃ exit emissions after calls,
      runDocument host args noColor l state = ⟨exit, emissions, after⟩ ∧
      runDocument host.recorded args noColor l (state, []) = ⟨exit, emissions, after, calls⟩ ∧
      Honoured host args config d exit calls := by
  have hcomplete : l.document.Complete := hdocument ▸ Document.complete_resolveAll hsettled hresult
  have hids : l.document.ids = d.ids := hdocument ▸ Document.ids_resolveAll hsettled
  have hrequested : args.requested l.document = args.requested d := requested_eq_of_ids hids
  by_cases hall : ∀ id ∈ args.requested d, id ∈ d.ids
  · obtain ⟨exit, emissions, after, calls, failures, crashed, hplain, hrecorded, hran, rfl⟩ :=
      ran_runDocument host hdump noColor hcomplete (by rwa [hrequested, hids]) state
    have hn : ¬ d.Refuses (args.document.policy config) (args.requested d) := by
      rintro (⟨i, hi⟩ | ⟨id, hid, hn⟩)
      · exact hi ((Document.resolveAll_eq_ok_iff hsettled).mp hresult i)
      · exact hn (hall id hid)
    rw [hrequested, hdocument, hconfig] at hran
    have hfound : ∀ id ∈ args.requested d,
        id ∈ (d.resolveAll (args.document.policy config)).document.ids := by
      rwa [← hdocument, hids]
    exact ⟨_, emissions, after, calls, hplain, hrecorded,
      .of_ran hhost hn (hdocument ▸ hcomplete) hfound hasc hran⟩
  · obtain ⟨id, hid, hn⟩ : ∃ id ∈ args.requested d, id ∉ d.ids := by simpa using hall
    obtain ⟨emissions, hrun⟩ :=
      runDocument_of_unknown hdump noColor (l := l) (by rwa [hrequested]) (by rwa [hids])
    exact ⟨.code 1, emissions, state, [], hrun host state, hrun host.recorded (state, []),
      .of_refused (.inr ⟨id, hid, hn⟩) hasc⟩

/-- A run command gives its jobs to the host only after the whole document is expanded and all the ids
are found. Then there is one for each id, in order, whatever came of those before, and the exit code
tells whether all succeeded; unless a job brings down the program, which then has no exit code. -/
theorem honoured_of_carryOut (hhost : host.Informed) (input : Bytes) (state : σ)
    (hcommand : r.command = .run args) (hdump : args.document.dump = false)
    (hconfig : (Config.load (host.files state) args.document.config).1 = .ok config)
    (hsource : readSource (host.files state) input args.document.file = .ok source) :
    ∃ exit emissions after calls,
      r.carryOut host input state = ⟨exit, emissions, after⟩ ∧
      r.carryOut host.recorded input (state, []) = ⟨exit, emissions, after, calls⟩ ∧
      Honoured host args config
        (.readWith host.blocks (args.document.style config) 0 source.source) exit calls := by
  generalize hd : Document.readWith host.blocks (args.document.style config) 0 source.source = d
  have hsettled : d.Settled d.snippets (args.document.policy config) :=
    (hd ▸ Document.fresh_readWith _ _ _ _ : d.Fresh).settled _
  have hasc : (d.ids.map SnippetId.value).Pairwise (· ≤ ·) :=
    hd ▸ Document.sorted_ids_readWith _ _ _ _
  have hload := load_eq r.noColor hd.symm hconfig hsource
  rcases hloaded : load host.blocks (host.files state) input args.document r.noColor with ⟨shown, loaded⟩
  have hrecorded : load host.recorded.blocks (host.recorded.files (state, [])) input args.document
    r.noColor = (shown, loaded) := hloaded
  rw [hloaded] at hload
  simp only [Request.carryOut, hcommand, loading, hloaded, hrecorded]
  cases hresult : (d.resolveAll (args.document.policy config)).result with
  | error e =>
    simp only [hresult] at hload
    subst hload
    have hrefuses : d.Refuses (args.document.policy config) (args.requested d) := by
      refine .inl (not_forall.mp fun hall => ?_)
      cases hresult.symm.trans ((Document.resolveAll_eq_ok_iff hsettled).mpr hall)
    exact ⟨.code 1, shown, state, [], rfl, rfl, .of_refused hrefuses hasc⟩
  | ok u =>
    simp only [hresult] at hload
    subst hload
    obtain ⟨exit, emissions, after, calls, hplain, hrun, hhonoured⟩ :=
      honoured_runDocument host hhost hdump r.noColor hsettled hasc hresult
        (l := ⟨_, config, args.document.policy config, source⟩) rfl rfl state
    exact ⟨exit, shown ++ emissions, after, calls, by simp only [hplain], by simp only [hrun],
      hhonoured⟩

end Commands

/-- One snippet fails, another does nothing, and a library is no snippet to ask for. -/
def deskSource : Text :=
  "```sh\necho out\nexit 3\n```\n```sh\n#%inc: none\n:\n```\n```sh\n#%lib: none\n```\n"

def desk : Machine :=
  ⟨[], ⟨(FileNode.file (Utf8.encode deskSource)).put ["work", "d.md"] Programs.system, ["work"]⟩⟩

def deskArguments (timeout : Option Nat) : RunArguments :=
  ⟨⟨some "d.md", some (.ids [SnippetId.first.next, .first, SnippetId.first.next]), false, none, none,
    false⟩, [], false, false, false, timeout, true, true⟩

def deskRequest (timeout : Option Nat) : Request := ⟨.run (deskArguments timeout), true, 0⟩

theorem honoured_desk : ∃ calls,
    Honoured Machine.host (deskArguments (some 5)) .default (.read .plain 0 deskSource) (.code 1)
      calls ∧
    calls.map Call.ending = [.finished ⟨some 0, 0, .exited⟩, .finished ⟨some 3, 0, .exited⟩,
      .finished ⟨some 0, 0, .exited⟩] := by
  have hended : ((deskRequest (some 5)).carryOut Machine.host.recorded [] (desk, [])).exit = .code 1 ∧
      ((deskRequest (some 5)).carryOut Machine.host.recorded [] (desk, [])).state.2.map Call.ending =
        [.finished ⟨some 0, 0, .exited⟩, .finished ⟨some 3, 0, .exited⟩,
          .finished ⟨some 0, 0, .exited⟩] := by
    decide +kernel
  have hsource : readSource (Machine.host.files desk) [] (some "d.md") = .ok ⟨"d.md", deskSource⟩ :=
    readSource_of_read [] (by decide) (by decide +kernel)
  have hcommand : (deskRequest (some 5)).command = .run (deskArguments (some 5)) := rfl
  obtain ⟨exit, emissions, after, calls, -, hrun, hhonoured⟩ :=
    honoured_of_carryOut Machine.host Machine.informed_host [] desk hcommand rfl rfl hsource
  rw [hrun] at hended
  obtain ⟨rfl, hendings⟩ := hended
  exact ⟨calls, hhonoured, hendings⟩

/-- Nothing stands in the way of three jobs, but the deadline of the first one is beyond what a clock can
show. -/
theorem crashed_desk : ((Document.read .plain 0 deskSource).resolveAll .strict).result = .ok () ∧
    (∀ id ∈ (deskArguments (some 18446744073709551615)).requested (.read .plain 0 deskSource),
      id ∈ (Document.read .plain 0 deskSource).ids) ∧
    ((deskRequest (some 18446744073709551615)).carryOut Machine.host [] desk).exit = .crash ∧
    ((deskRequest (some 18446744073709551615)).carryOut Machine.host.recorded [] (desk, [])).state.2.map
      Call.ending = [.crashed] := by
  decide +kernel

end CommandLine
end Snippetry
