import Snippetry.Proofs.Include.Complete
import Snippetry.Proofs.Include.Truth

/-! # Expanding a whole document is expanding each of its snippets alone

The expansions of a whole document share what they remember, and an include gets a later snippet
expanded before its turn. None of that shows: every snippet has the lines it has when the document is
read and that snippet alone is expanded, and where this fails first the whole fails, with the same
error. -/
namespace Snippetry

namespace Include

variable {base snippets later : List Snippet} {policy : MissingPolicy}

/-- Two memories of the same flattening hold the same lines of a snippet. -/
theorem Memo.resolutionAt_eq (h : Memo base policy snippets) (h' : Memo base policy later) {i : Nat}
    (hi : IsResolved snippets i) (hi' : IsResolved later i) :
    resolutionAt later i = resolutionAt snippets i := by
  obtain ⟨lines, hlines⟩ := hi
  obtain ⟨lines', hlines'⟩ := hi'
  have hsame : (.ok lines' : Except IncludeError (List Text)) = .ok lines :=
    (h'.lines i lines' hlines').symm.trans (h.lines i lines hlines)
  rw [hlines, hlines', Except.ok.inj hsame]

end Include

namespace Document

open Include

variable {base : List Snippet} {policy : MissingPolicy} {d : Document}

def expandAlone (d : Document) (policy : MissingPolicy) (i : Nat) : Expanded Unit :=
  d.expand (d.setting policy) i

/-- In `after` the snippet at `i` is expanded to the lines that it has if it is expanded alone. -/
structure AsAlone (d : Document) (policy : MissingPolicy) (after : Document) (i : Nat) : Prop where
  succeeds : (d.expandAlone policy i).result = .ok ()
  resolved : IsResolved after.snippets i
  same : resolutionAt after.snippets i = resolutionAt (d.expandAlone policy i).document.snippets i

section Alone

variable {i : Nat} {e : IncludeError}

theorem expandAlone_eq_ok_iff (h : d.Settled base policy) (hi : i < d.snippets.length) :
    (d.expandAlone policy i).result = .ok () ↔ ∃ lines, flatten base policy [] i = .ok lines :=
  expand_eq_ok_iff h (h.fits (.inl rfl)) rfl hi

theorem expandAlone_eq_error_iff (h : d.Settled base policy) (hi : i < d.snippets.length) :
    (d.expandAlone policy i).result = .error e ↔ flatten base policy [] i = .error e := by
  have hresult := (expansion h (h.fits (.inl rfl : policy = policy ∨ _)) hi).result rfl
  rw [hresult]
  unfold expandAlone
  cases (d.expand (d.setting policy) i).result <;> simp [Except.map]

/-- What is expanded later has the lines that it has alone. -/
theorem AsAlone.of_resolved (h : d.Settled base policy) {after : Document}
    (hafter : after.Settled base policy) (hi : i < d.snippets.length)
    (hr : IsResolved after.snippets i) : d.AsAlone policy after i := by
  have hexp := expansion h (h.fits (.inl rfl : policy = policy ∨ _)) hi
  obtain ⟨lines, hlines⟩ := hr
  have hok : (d.expandAlone policy i).result = .ok () :=
    (expandAlone_eq_ok_iff h hi).mpr ⟨lines, hafter.memo.lines i lines hlines⟩
  have hdone : IsResolved (d.expandAlone policy i).document.snippets i := hexp.done hok
  exact ⟨hok, ⟨lines, hlines⟩, hexp.settled.memo.resolutionAt_eq hafter.memo hdone ⟨lines, hlines⟩⟩

end Alone

theorem resolveAll_eq_ok_iff_alone (h : d.Settled base policy) :
    (d.resolveAll policy).result = .ok () ↔
      ∀ i < d.snippets.length, (d.expandAlone policy i).result = .ok () := by
  rw [resolveAll_eq_ok_iff h]
  constructor
  · intro hall i _
    exact hall i
  · intro hall i
    by_cases hi : i < d.snippets.length
    · exact hall i hi
    · simp [expand, List.getElem?_eq_none (Nat.le_of_not_lt hi)]

/-- If the expansion of all fails, it is at a snippet that fails alone in the same way, and those before
it are expanded. -/
theorem exists_failing_of_resolveAll_error (h : d.Settled base policy) {e : IncludeError}
    (he : (d.resolveAll policy).result = .error e) :
    ∃ k < d.snippets.length, (d.expandAlone policy k).result = .error e ∧
      ¬ IsResolved (d.resolveAll policy).document.snippets k ∧
      ∀ i < k, IsResolved (d.resolveAll policy).document.snippets i := by
  have hfailure : Request.all.failure? policy d = some e := by
    simp only [Request.failure?, he]
  have hq : policy = policy ∨ policy = .lenient := .inl rfl
  rcases stuckAt_of_failure h hq hfailure with
    ⟨target, hall, -, -⟩ | ⟨k, after, ⟨hk, hopen, hbefore⟩, w, hsound, -, hstuck, -⟩
  · cases hall
  · have hflat := Walk.flatten_of_stuck hsound (h.fits hq) rfl hstuck
    exact ⟨k, hk, (expandAlone_eq_error_iff h hk).mpr hflat, hopen, hbefore⟩

/-- All snippets of a document that has just been read can be expanded one after the other if each can
be expanded alone, and then each has the lines it has alone. Otherwise the first that fails alone stops
the expansion with its own error: what stands before it is expanded, it is as it was read, and what
stands after it is so too or has the lines it has alone. -/
theorem resolveAll_eq_expandAlone (h : d.Fresh) (policy : MissingPolicy) :
    ((d.resolveAll policy).result = .ok () ↔
      ∀ i < d.snippets.length, (d.expandAlone policy i).result = .ok ()) ∧
    ((d.resolveAll policy).result = .ok () →
      ∀ i < d.snippets.length, d.AsAlone policy (d.resolveAll policy).document i) ∧
    ∀ k < d.snippets.length, (∀ i < k, (d.expandAlone policy i).result = .ok ()) →
      ∀ e, (d.expandAlone policy k).result = .error e →
        (d.resolveAll policy).result = .error e ∧
        (∀ i < k, d.AsAlone policy (d.resolveAll policy).document i) ∧
        resolutionAt (d.resolveAll policy).document.snippets k = some .unvisited ∧
        ∀ i, k < i → i < d.snippets.length →
          resolutionAt (d.resolveAll policy).document.snippets i = some .unvisited ∨
            d.AsAlone policy (d.resolveAll policy).document i := by
  have hsettled := h.settled policy
  obtain ⟨hafter, hkept⟩ : (d.resolveAll policy).document.Settled d.snippets policy ∧
      d.Kept _ (d.resolveAll policy).document := hsettled.run (.inl rfl) .all
  have hlength : (d.resolveAll policy).document.snippets.length = d.snippets.length :=
    length_eq_of_written hkept.snippets.written
  have hiff := resolveAll_eq_ok_iff_alone hsettled
  have halone {i : Nat} (hi : i < d.snippets.length)
      (hr : IsResolved (d.resolveAll policy).document.snippets i) :
      d.AsAlone policy (d.resolveAll policy).document i := .of_resolved hsettled hafter hi hr
  have hcases {i : Nat} (hi : i < d.snippets.length) :=
    hafter.unvisited_or_resolved (hlength.symm ▸ hi)
  refine ⟨hiff, ?_, ?_⟩
  · intro hok i hi
    have hrange : ∀ j ∈ List.range d.snippets.length, j < d.snippets.length :=
      fun j => List.mem_range.mp
    exact halone hi (isResolved_of_expandEach hsettled (hsettled.fits (.inl rfl)) hrange hok
      (List.mem_range.mpr hi))
  · intro k hk hbefore e he
    cases hr : (d.resolveAll policy).result with
    | ok u => cases (hiff.mp hr k hk).symm.trans he
    | error e' =>
      obtain ⟨j, hj, hjalone, hopen, hresolved⟩ := exists_failing_of_resolveAll_error hsettled hr
      have hjk : j = k := by
        rcases Nat.lt_trichotomy j k with hlt | heq | hgt
        · cases (hbefore j hlt).symm.trans hjalone
        · exact heq
        · cases (halone hk (hresolved k hgt)).succeeds.symm.trans he
      subst hjk
      have hsame : e' = e := Except.error.inj (hjalone.symm.trans he)
      refine ⟨congrArg _ hsame, ?_, (hcases hk).resolve_right hopen, ?_⟩
      · intro i hi
        exact halone (hi.trans hk) (hresolved i hi)
      · intro i _ hi
        exact (hcases hi).imp_right (halone hi)

/-- A library that an earlier snippet gets expanded, behind a snippet that asks for what is not there. -/
def forwardSource : Text :=
  "```sh\n#%name: a\n#%inc: c\n```\n```sh\n#%name: b\n#%inc: gone\n```\n```sh\n#%lib: c\nx\n```\n" ++
  "```sh\n#%inc: c\n```\n"

theorem resolveAll_forwardSource : (read .plain 0 forwardSource).Fresh ∧
    ((read .plain 0 forwardSource).resolveAll .strict).result =
      .error (.missing "gone" "b" ⟨45, 56⟩) ∧
    resolutionAt ((read .plain 0 forwardSource).resolveAll .strict).document.snippets 1 =
      some .unvisited ∧
    ((read .plain 0 forwardSource).AsAlone .strict
      ((read .plain 0 forwardSource).resolveAll .strict).document 0) ∧
    (resolutionAt ((read .plain 0 forwardSource).resolveAll .strict).document.snippets 2 =
        some .unvisited ∨
      (read .plain 0 forwardSource).AsAlone .strict
        ((read .plain 0 forwardSource).resolveAll .strict).document 2) := by
  have hfresh := fresh_read .plain 0 forwardSource
  have hbefore : ∀ i < 1, ((read .plain 0 forwardSource).expandAlone .strict i).result = .ok () := by
    decide +kernel
  have hfails : ((read .plain 0 forwardSource).expandAlone .strict 1).result =
      .error (.missing "gone" "b" ⟨45, 56⟩) := by
    decide +kernel
  obtain ⟨-, -, hstops⟩ := resolveAll_eq_expandAlone hfresh .strict
  obtain ⟨herror, hdone, hreset, hlater⟩ := hstops 1 (by decide) hbefore _ hfails
  exact ⟨hfresh, herror, hreset, hdone 0 (by decide), hlater 2 (by decide) (by decide)⟩

end Document
end Snippetry
