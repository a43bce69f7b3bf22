import Snippetry.Proofs.Include.Listing
import Snippetry.Proofs.Include.Complete
import Snippetry.Proofs.Include.Truth

/-! # A lenient session warns of each missing name once

A frame owes a warning for every name it has still to deal with and nothing answers to. What has been
given and what the stack still owes is together, up to the order, what there is to warn of in the
snippets that have been met. A walk that ends well owes nothing, and a snippet that is expanded is
never entered again, so the warnings of a session are those of the snippets that it expanded. -/
namespace Snippetry

namespace Include

namespace Frame

variable {base : List Snippet} {sourceId : Nat} {f : Frame}

def owed (base : List Snippet) (sourceId : Nat) (f : Frame) : List Notice :=
  warningsFor base sourceId f.label f.span f.pending ++ warningsOf base sourceId f.label f.unread

theorem owed_enter {i : Nat} {s : Snippet} (hl : s.label = labelAt base i)
    (hr : s.rawLines = linesAt base i) : (enter i s).owed base sourceId = warningsIn base sourceId i := by
  have howed : (enter i s).owed base sourceId = warningsOf base sourceId s.label s.rawLines := rfl
  rw [howed, hl, hr, warningsIn]

theorem owed_unanswered {name : Text} {names : List Text} (hp : f.pending = name :: names)
    (hn : firstAnswering base name = none) : f.owed base sourceId =
      warning sourceId f.label f.span name :: ({ f with pending := names } : Frame).owed base sourceId := by
  simp [owed, hp, warningsFor, unanswered, hn]

theorem owed_answered {name : Text} {names : List Text} {i : Nat} (hp : f.pending = name :: names)
    (hn : firstAnswering base name = some i) :
    ({ f with pending := names } : Frame).owed base sourceId = f.owed base sourceId := by
  simp [owed, hp, warningsFor, unanswered, hn]

theorem owed_read {line : SourceLine} {unread : List SourceLine} (hp : f.pending = [])
    (hu : f.unread = line :: unread) :
    (f.read line unread).owed base sourceId = f.owed base sourceId := by
  unfold read
  cases hi : includeNames? line.text <;>
    simp [owed, hp, hu, warningsFor, warningsOf, namesOf, hi]

theorem owed_done (hp : f.pending = []) (hu : f.unread = []) : f.owed base sourceId = [] := by
  simp [owed, hp, hu, warningsFor, warningsOf]

end Frame

/-! ## The account of a walk -/

def IsMet (snippets : List Snippet) (i : Nat) : Prop :=
  IsResolved snippets i ∨ resolutionAt snippets i = some .inProgress

theorem isMet_mark {snippets : List Snippet} {i : Nat} {r r' : Resolution}
    (hi : resolutionAt snippets i = some r') (hr : r ≠ .unvisited) (k : Nat) :
    IsMet (mark snippets i r) k ↔ k = i ∨ IsMet snippets k := by
  unfold IsMet IsResolved
  rw [resolutionAt_mark]
  by_cases hk : k = i
  · subst hk
    cases r with
    | unvisited => exact absurd rfl hr
    | inProgress => simp [hi]
    | resolved lines => simp [hi]
  · simp [hk]

namespace Walk

/-- The warnings given since `before`, together with those the stack owes, are what the snippets met
call for. -/
structure Account (base : List Snippet) (sourceId : Nat) (before : List Notice) (w : Walk)
    (met : List Nat) (given : List Notice) : Prop where
  nodup : met.Nodup
  mem : ∀ i, i ∈ met ↔ IsMet w.snippets i
  notices : w.notices = before ++ given
  perm : (given ++ w.stack.flatMap (Frame.owed base sourceId)).Perm
    (met.flatMap (warningsIn base sourceId))

variable {base : List Snippet} {sourceId root : Nat} {before given : List Notice} {met : List Nat}
  {setting : Setting} {w v : Walk}

namespace Account

/-- A turn of work on the stack that leaves open what was open. -/
theorem of_owed (h : Account base sourceId before w met given)
    (hmet : ∀ i, IsMet v.snippets i ↔ IsMet w.snippets i) (hn : v.notices = w.notices)
    (howed : v.stack.flatMap (Frame.owed base sourceId) = w.stack.flatMap (Frame.owed base sourceId)) :
    Account base sourceId before v met given := by
  refine ⟨h.nodup, fun i => (h.mem i).trans (hmet i).symm, hn.trans h.notices, ?_⟩
  rw [howed]
  exact h.perm

theorem skip {f : Frame} {below : List Frame} {name : Text} {names : List Text}
    (h : Account base setting.fileId before w met given) (hs : w.stack = f :: below)
    (hp : f.pending = name :: names) (hn : firstAnswering base name = none) :
    Account base setting.fileId before ((w.toNames f names below).skip setting name f.label f.span) met
      (given ++ [warning setting.fileId f.label f.span name]) := by
  have hnotices : ((w.toNames f names below).skip setting name f.label f.span).notices =
      w.notices ++ [warning setting.fileId f.label f.span name] := rfl
  have hstack : ((w.toNames f names below).skip setting name f.label f.span).stack =
      { f with pending := names } :: below := rfl
  have hperm := h.perm
  refine ⟨h.nodup, h.mem, ?_, ?_⟩
  · rw [hnotices, h.notices, List.append_assoc]
  · rw [hs, List.flatMap_cons, Frame.owed_unanswered hp hn] at hperm
    rw [hstack, List.flatMap_cons, List.append_assoc]
    exact hperm

/-- A snippet that has not been met comes to lie on the stack, and owes all that it calls for. -/
theorem push {i : Nat} {s : Snippet} (h : Account base sourceId before w met given)
    (hw : w.snippets.map Snippet.written = base.map Snippet.written) (hat : w.snippets[i]? = some s)
    (hr : s.resolution = .unvisited) (hv : v.snippets = mark w.snippets i .inProgress)
    (hn : v.notices = w.notices) (howed : v.stack.flatMap (Frame.owed base sourceId) =
      (Frame.enter i s).owed base sourceId ++ w.stack.flatMap (Frame.owed base sourceId)) :
    Account base sourceId before v (i :: met) given := by
  have hunmet : resolutionAt w.snippets i = some .unvisited :=
    hr ▸ resolutionAt_of_getElem? hat
  have hnew : i ∉ met := by
    rw [h.mem]
    rintro (⟨lines, hlines⟩ | hprogress)
    · cases hunmet.symm.trans hlines
    · cases hunmet.symm.trans hprogress
  have hframe : (Frame.enter i s).owed base sourceId = warningsIn base sourceId i := by
    apply Frame.owed_enter
    · rw [← labelAt_eq_of_written hw]
      simp [labelAt, hat]
    · rw [← linesAt_eq_of_written hw]
      simp [linesAt, hat]
  refine ⟨List.nodup_cons.mpr ⟨hnew, h.nodup⟩, fun k => ?_, hn.trans h.notices, ?_⟩
  · rw [List.mem_cons, h.mem, hv]
    exact (isMet_mark hunmet (by simp) k).symm
  · rw [howed, hframe, List.flatMap_cons]
    exact (List.perm_append_comm_assoc _ _ _).trans (h.perm.append_left _)

theorem enter {f : Frame} {below : List Frame} {name : Text} {names : List Text} {i : Nat} {s : Snippet}
    (h : Account base sourceId before w met given)
    (hw : w.snippets.map Snippet.written = base.map Snippet.written) (hs : w.stack = f :: below)
    (hp : f.pending = name :: names) (hl : w.lookup setting name = some (i, s))
    (hr : s.resolution = .unvisited) (hn : firstAnswering base name = some i) :
    Account base sourceId before ((w.toNames f names below).enter i s) (i :: met) given := by
  have hstack : ((w.toNames f names below).enter i s).stack =
      Frame.enter i s :: { f with pending := names } :: below := rfl
  refine h.push hw (resolution_of_lookup hl) hr rfl rfl ?_
  rw [hstack, hs, List.flatMap_cons, List.flatMap_cons, List.flatMap_cons, Frame.owed_answered hp hn]

/-- Whatever the walk does next, its account stays in order. -/
theorem move (h : Account base setting.fileId before w met given) (hsound : Sound base .lenient root w)
    (hf : Fits base .lenient setting) (m : Move setting w v) :
    ∃ met given, Account base setting.fileId before v met given := by
  cases m with
  | skip hs hp hl hq => exact ⟨_, _, h.skip hs hp (hf.lookup_none hsound.memo hl)⟩
  | reuse hs hp hl hr =>
    refine ⟨met, given, h.of_owed (fun _ => Iff.rfl) rfl ?_⟩
    rw [hs, List.flatMap_cons, List.flatMap_cons]
    exact congrArg (· ++ _) (Frame.owed_answered hp (hf.lookup_some hl))
  | enter hs hp hl hr =>
    exact ⟨_, _, h.enter hsound.memo.written hs hp hl hr (hf.lookup_some hl)⟩
  | read hs hp hu =>
    refine ⟨met, given, h.of_owed (fun _ => Iff.rfl) rfl ?_⟩
    rw [hs, List.flatMap_cons, List.flatMap_cons, Frame.owed_read hp hu]
  | @leave f below hs hp hu =>
    have hprogress : resolutionAt w.snippets f.position = some .inProgress :=
      (hsound.inProgress f.position).mpr (by simp [hs])
    refine ⟨met, given, h.of_owed (fun i => ?_) rfl ?_⟩
    · refine (isMet_mark hprogress (by simp) i).trans (or_iff_right_of_imp ?_)
      rintro rfl
      exact .inr hprogress
    · rw [hs, List.flatMap_cons, Frame.owed_done hp hu, List.nil_append]
      cases below <;> rfl

theorem moves (h : Account base setting.fileId before w met given)
    (hsound : Sound base .lenient root w) (hf : Fits base .lenient setting)
    (m : Relation.ReflTransGen (Move setting) w v) :
    ∃ met given, Account base setting.fileId before v met given := by
  induction m with
  | refl => exact ⟨met, given, h⟩
  | tail hu m ih =>
    obtain ⟨_, _, haccount⟩ := ih
    exact haccount.move (hsound.moves hf hu) hf m

end Account
end Walk
end Include

namespace Document

open Include

variable {base : List Snippet} {before : List Notice} {setting : Setting} {d : Document}

def Accounted (base : List Snippet) (before : List Notice) (d : Document) : Prop :=
  ∃ met given, Walk.Account base d.sourceId before ⟨d.snippets, d.notices, [], []⟩ met given

theorem Fresh.accounted (h : d.Fresh) : d.Accounted d.snippets d.notices := by
  refine ⟨[], [], List.nodup_nil, fun i => ?_, (List.append_nil _).symm, List.Perm.refl _⟩
  have hidle := (h.settled .lenient).idle i
  have hopen : ¬ IsResolved d.snippets i := by
    rintro ⟨lines, hlines⟩
    obtain ⟨s, hs, hr⟩ := Option.map_eq_some_iff.mp hlines
    cases (h s (List.mem_of_getElem? hs)).symm.trans hr
  simp [IsMet, hopen, hidle]

/-- An expansion that succeeds leaves the account in order. -/
theorem Accounted.expand (h : d.Accounted base before) (hd : d.Settled base .lenient)
    (hf : Walk.Fits base .lenient setting) (hfile : setting.fileId = d.sourceId) {root : Nat}
    (hr : root < d.snippets.length) (hok : (d.expand setting root).result = .ok ()) :
    (d.expand setting root).document.Accounted base before := by
  have hs : d.snippets[root]? = some d.snippets[root] := List.getElem?_eq_getElem hr
  by_cases hdone : d.snippets[root].isResolved = true
  · rwa [expand_of_resolved setting hs hdone]
  · have hopen : ¬ IsResolved d.snippets root := fun hres => hdone ((isResolved_iff hs).mpr hres)
    have hunvisited : d.snippets[root].resolution = .unvisited := by
      have hunmet := (hd.unvisited_or_resolved hr).resolve_right hopen
      exact Option.some.inj ((resolutionAt_of_getElem? hs).symm.trans hunmet)
    obtain ⟨met, given, haccount⟩ := h
    rw [← hfile] at haccount
    have hentered : Walk.Account base setting.fileId before (d.walkInto root d.snippets[root])
        (root :: met) given := haccount.push hd.memo.written hs hunvisited rfl rfl rfl
    have hstart := Walk.sound_start hd hs hopen
    obtain ⟨v, hv, hend⟩ := Walk.run_moves setting (d.walkInto root d.snippets[root])
    obtain ⟨met', given', hfinal⟩ := hentered.moves hstart hf hv
    rcases hend with ⟨hempty, hrun⟩ | ⟨e, -, hrun⟩
    · rw [expand_of_open setting hs hdone hrun]
      refine ⟨met', given', ?_⟩
      rw [← hfile]
      exact hfinal.of_owed (fun _ => Iff.rfl) rfl (by rw [hempty])
    · rw [expand_of_open setting hs hdone hrun] at hok
      cases hok

theorem Accounted.expandEach (hf : Walk.Fits base .lenient setting) (positions : List Nat)
    (h : d.Accounted base before) (hd : d.Settled base .lenient) (hfile : setting.fileId = d.sourceId)
    (hp : ∀ i ∈ positions, i < d.snippets.length)
    (hok : (d.expandEach setting positions).result = .ok ()) :
    (d.expandEach setting positions).document.Accounted base before := by
  induction positions generalizing d with
  | nil => exact h
  | cons i positions ih =>
    have hi := hp i List.mem_cons_self
    have hexp := expansion hd hf hi
    rcases expandEach_cons setting d i positions with ⟨e, he, hstops⟩ | ⟨hfirst, hresult, hdocument⟩
    · rw [hstops, he] at hok
      cases hok
    · rw [hresult] at hok
      rw [hdocument]
      have hfirst := h.expand hd hf hfile hi hfirst
      exact ih hfirst hexp.settled (hfile.trans hexp.kept.sourceId.symm) (hexp.lt_of_mem hp) hok

theorem Accounted.run (h : d.Accounted base before) (hd : d.Settled base .lenient) {r : Request}
    (hr : r.failure? .lenient d = none) : (r.run .lenient d).Accounted base before := by
  have hf := hd.fits (.inl rfl : MissingPolicy.lenient = .lenient ∨ _)
  cases r with
  | one target =>
    cases hi : d.locate target with
    | none => simp [Request.failure?, resolve_of_not_located hi, Except.map] at hr
    | some i =>
      have hok : (d.expand (d.setting .lenient) i).result = .ok () := by
        simp only [Request.failure?, resolve_of_located hi] at hr
        cases hres : (d.expand (d.setting .lenient) i).result <;> simp_all [Except.map]
      have hrun : Request.run .lenient d (.one target) =
          (d.expand (d.setting .lenient) i).document := by
        rw [Request.run, resolve_of_located hi]
      rw [hrun]
      exact h.expand hd hf rfl (locate_lt hi) hok
  | all =>
    have hok : (d.resolveAll .lenient).result = .ok () := by
      simp only [Request.failure?] at hr
      cases hres : (d.resolveAll .lenient).result <;> simp_all
    exact h.expandEach hf _ hd rfl (fun _ => List.mem_range.mp) hok

def Succeed (policy : MissingPolicy) : Document → List Request → Prop
  | _, [] => True
  | d, r :: requests => r.failure? policy d = none ∧ Succeed policy (r.run policy d) requests

theorem Accounted.after (requests : List Request) (h : d.Accounted base before)
    (hd : d.Settled base .lenient) (hr : d.Succeed .lenient requests) :
    (d.after (requests.map (.lenient, ·))).Accounted base before := by
  induction requests generalizing d with
  | nil => exact h
  | cons r requests ih =>
    obtain ⟨hfirst, hrest⟩ := hr
    exact ih (h.run hd hfirst) (hd.run (.inl rfl) r).1 hrest

/-- The notices that lenient requests add to a document that has just been read, when all of them
succeed, go one by one with the places in the expanded snippets where a name stands that no snippet
answers to. Each shows the line of its place, and names the name and the snippet. -/
theorem exists_reports_of_succeed (h : d.Fresh) (requests : List Request)
    (hr : d.Succeed .lenient requests) :
    ∃ reports : List (Listing × Notice),
      (d.after (requests.map (.lenient, ·))).notices = d.notices ++ reports.map Prod.snd ∧
      (reports.map Prod.fst).Nodup ∧
      (∀ o, o ∈ reports.map Prod.fst ↔ o.Missing d.snippets ∧
        IsResolved (d.after (requests.map (.lenient, ·))).snippets o.snippet) ∧
      ∀ r ∈ reports, r.1.WarnedBy d.snippets r.2 := by
  have hsettled := h.settled .lenient
  obtain ⟨met, given, haccount⟩ := h.accounted.after requests hsettled hr
  have hafter := hsettled.after (requests.map (.lenient, ·)) (by simp)
  have hperm := haccount.perm
  rw [List.flatMap_nil, List.append_nil, ← map_snd_flatMap_reportsIn] at hperm
  obtain ⟨reports, hreports, hgiven⟩ := exists_perm_map_snd hperm
  have hplaces := hreports.map Prod.fst
  refine ⟨reports, ?_, ?_, fun o => ?_, fun r hmem => ?_⟩
  · rw [← hgiven]
    exact haccount.notices
  · exact hplaces.nodup_iff.mpr (nodup_flatMap_reportsIn haccount.nodup)
  · have hmet : o.snippet ∈ met ↔
        IsResolved (d.after (requests.map (.lenient, ·))).snippets o.snippet :=
      (haccount.mem o.snippet).trans (or_iff_left (hafter.idle o.snippet))
    rw [hplaces.mem_iff, mem_flatMap_reportsIn, hmet, and_comm]
  · obtain ⟨i, -, hi⟩ := List.mem_flatMap.mp (hreports.mem_iff.mp hmem)
    exact warnedBy_of_mem_reportsIn hi

/-- A name that is missing twice on a line, an empty one, and a missing one in a library for two. -/
def litanySource : Text :=
  "```sh\n#%name: a\n#%inc: gone, l, gone\n```\n```sh\n#%inc: l,\n```\n```sh\n#%lib: l\n#%inc: lost\n```\n"

def litany : List Request := [.one (.name "l"), .one (.name "a"), .all, .one (.name "a")]

theorem exists_reports_litany : (read .plain 0 litanySource).Fresh ∧
    (read .plain 0 litanySource).Succeed .lenient litany ∧
    ∃ reports : List (Listing × Notice),
      ((read .plain 0 litanySource).after (litany.map (.lenient, ·))).notices =
        (read .plain 0 litanySource).notices ++ reports.map Prod.snd ∧
      (reports.map Prod.fst).Nodup ∧
      (∀ o, o ∈ reports.map Prod.fst ↔ o.Missing (read .plain 0 litanySource).snippets ∧
        IsResolved ((read .plain 0 litanySource).after (litany.map (.lenient, ·))).snippets o.snippet) ∧
      ∀ r ∈ reports, r.1.WarnedBy (read .plain 0 litanySource).snippets r.2 := by
  have hfresh := fresh_read .plain 0 litanySource
  have hsucceed : (read .plain 0 litanySource).Succeed .lenient litany :=
    ⟨by decide +kernel, by decide +kernel, by decide +kernel, by decide +kernel, trivial⟩
  exact ⟨hfresh, hsucceed, exists_reports_of_succeed hfresh litany hsucceed⟩

end Document
end Snippetry
