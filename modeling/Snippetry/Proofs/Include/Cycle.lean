import Snippetry.Proofs.Include.Session

/-! # Flattening fails on cycles and on missing names, and on nothing else

Whether flattening succeeds can be read off the graph of includes: under the lenient policy only a
cycle within reach makes it fail, under the strict one also a name within reach that nothing answers
to. Sharing does no harm. -/
namespace Snippetry

namespace Include

open Relation (ReflTransGen TransGen)

/-- A snippet that includes itself, perhaps through others, is within reach of `root`. -/
def CycleBelow (snippets : List Snippet) (root : Nat) : Prop :=
  ∃ i, ReflTransGen (Includes snippets) root i ∧ TransGen (Includes snippets) i i

def MissingBelow (snippets : List Snippet) (root : Nat) : Prop :=
  ∃ i, ReflTransGen (Includes snippets) root i ∧
    ∃ name ∈ listed (linesAt snippets i), firstAnswering snippets name = none

variable {snippets : List Snippet} {policy : MissingPolicy} {path : List Nat} {root i j : Nat}
  {out : List Text}

/-- Every name of a flattened snippet has been dealt with. -/
theorem flattenName_ok_of_flatten (h : flatten snippets policy path i = .ok out) {name : Text}
    (hn : name ∈ listed (linesAt snippets i)) :
    ∃ span body, flattenName snippets policy path i span name = .ok body := by
  rw [flatten_eq] at h
  obtain ⟨line, hl, hn⟩ := List.mem_flatMap.mp hn
  obtain ⟨body, hb⟩ := flattenLines_ok h hl hn
  exact ⟨line.span, body, hb⟩

theorem flatten_ok_of_includes (h : flatten snippets policy path i = .ok out)
    (hj : Includes snippets i j) :
    j ∉ path ++ [i] ∧ ∃ inner, flatten snippets policy (path ++ [i]) j = .ok inner := by
  obtain ⟨name, hn, hf⟩ := hj
  obtain ⟨span, body, hb⟩ := flattenName_ok_of_flatten h hn
  rcases flattenName_eq_ok hb with ⟨hnone, -⟩ | ⟨k, inner, hk, hm, hi, -⟩
  · cases hf.symm.trans hnone
  · cases hf.symm.trans hk
    exact ⟨hm, inner, hi⟩

/-- Flattening goes all the way down, and never meets again what it has passed. -/
theorem flatten_ok_of_transGen (h : flatten snippets policy path i = .ok out)
    (hj : TransGen (Includes snippets) i j) :
    ∃ passed, (∀ k ∈ path ++ [i], k ∈ passed) ∧ j ∉ passed ∧
      ∃ inner, flatten snippets policy passed j = .ok inner := by
  induction hj with
  | single hj =>
    obtain ⟨hm, hinner⟩ := flatten_ok_of_includes h hj
    exact ⟨path ++ [i], fun _ hk => hk, hm, hinner⟩
  | @tail k j _ hj ih =>
    obtain ⟨passed, hsub, -, inner, hi⟩ := ih
    obtain ⟨hm, hinner⟩ := flatten_ok_of_includes hi hj
    exact ⟨passed ++ [k], fun l hl => List.mem_append_left _ (hsub l hl), hm, hinner⟩

theorem flatten_ok_of_reflTransGen (h : flatten snippets policy path i = .ok out)
    (hj : ReflTransGen (Includes snippets) i j) :
    ∃ passed inner, flatten snippets policy passed j = .ok inner := by
  rcases Relation.reflTransGen_iff_eq_or_transGen.mp hj with rfl | hj
  · exact ⟨path, out, h⟩
  · obtain ⟨passed, -, -, inner, hi⟩ := flatten_ok_of_transGen h hj
    exact ⟨passed, inner, hi⟩

theorem not_cycleBelow_of_flatten_ok (h : flatten snippets policy [] root = .ok out) :
    ¬ CycleBelow snippets root := by
  rintro ⟨i, hi, hcycle⟩
  obtain ⟨path, inner, hf⟩ := flatten_ok_of_reflTransGen h hi
  obtain ⟨passed, hsub, hm, -⟩ := flatten_ok_of_transGen hf hcycle
  exact hm (hsub i (by simp))

theorem not_missingBelow_of_flatten_ok (h : flatten snippets .strict [] root = .ok out) :
    ¬ MissingBelow snippets root := by
  rintro ⟨i, hi, name, hn, hf⟩
  obtain ⟨path, inner, hflat⟩ := flatten_ok_of_reflTransGen h hi
  obtain ⟨span, body, hb⟩ := flattenName_ok_of_flatten hflat hn
  rw [flattenName_missing _ _ _ _ hf] at hb
  cases hb

/-- Why flattening `i` below `path` fails, where all on `path` lead to `i`, and so does `root`. -/
theorem cause_of_flatten_error (path : List Nat) (i : Nat) {e : IncludeError}
    (hp : ∀ k ∈ path, TransGen (Includes snippets) k i) (hr : ReflTransGen (Includes snippets) root i)
    (h : flatten snippets policy path i = .error e) :
    ((∃ name chain span, e = .cyclic name chain span) ∧ CycleBelow snippets root) ∨
      policy = .strict ∧ (∃ name includer span, e = .missing name includer span) ∧
        MissingBelow snippets root := by
  induction path, i using path_induction snippets with
  | step path i ih =>
    rw [flatten_eq] at h
    obtain ⟨line, hl, name, hn, he⟩ := flattenLines_error h
    have hlisted : name ∈ listed (linesAt snippets i) := List.mem_flatMap.mpr ⟨line, hl, hn⟩
    cases hf : firstAnswering snippets name with
    | none =>
      rw [flattenName_missing policy _ _ _ hf] at he
      cases policy with
      | lenient => cases he
      | strict =>
        cases he
        exact .inr ⟨rfl, ⟨_, _, _, rfl⟩, i, hr, name, hlisted, hf⟩
    | some j =>
      have hedge : Includes snippets i j := ⟨name, hlisted, hf⟩
      have hp' : ∀ k ∈ path ++ [i], TransGen (Includes snippets) k j := by
        intro k hk
        rcases List.mem_append.mp hk with hk | hk
        · exact (hp k hk).tail hedge
        · rw [List.mem_singleton.mp hk]
          exact .single hedge
      by_cases hm : j ∈ path ++ [i]
      · rw [flattenName_cyclic policy _ hf hm] at he
        cases he
        exact .inl ⟨⟨_, _, _, rfl⟩, j, hr.tail hedge, hp' j hm⟩
      · rw [flattenName_found policy _ hf hm] at he
        rcases bind_eq_error.mp he with he | ⟨inner, -, he⟩
        · exact ih name j hf hm hp' (hr.tail hedge) he
        · cases he

theorem flatten_lenient_error_iff :
    (∃ e, flatten snippets .lenient [] root = .error e) ↔ CycleBelow snippets root := by
  constructor
  · rintro ⟨e, he⟩
    rcases cause_of_flatten_error [] root (by simp) .refl he with ⟨-, hc⟩ | ⟨hq, -⟩
    · exact hc
    · cases hq
  · intro hc
    cases hr : flatten snippets .lenient [] root with
    | error e => exact ⟨e, rfl⟩
    | ok out => exact absurd hc (not_cycleBelow_of_flatten_ok hr)

theorem flatten_strict_ok_iff : (∃ out, flatten snippets .strict [] root = .ok out) ↔
    ¬ CycleBelow snippets root ∧ ¬ MissingBelow snippets root := by
  constructor
  · rintro ⟨out, ho⟩
    exact ⟨not_cycleBelow_of_flatten_ok ho, not_missingBelow_of_flatten_ok ho⟩
  · rintro ⟨hc, hm⟩
    cases hr : flatten snippets .strict [] root with
    | ok out => exact ⟨out, rfl⟩
    | error e =>
      rcases cause_of_flatten_error [] root (by simp) .refl hr with ⟨-, h⟩ | ⟨-, -, h⟩
      · exact absurd h hc
      · exact absurd h hm

end Include

namespace Document

open Include

/-- Expanding a snippet of a document fails for what its graph of includes shows: leniently on a cycle
within reach alone, strictly on a missing name too, and neither is ever reported where there is none. -/
theorem resolve_error_iff {d : Document} (hfresh : d.Fresh) {target : Target} {root : Nat}
    (h : d.locate target = some root) :
    ((∃ e, (d.resolve .lenient target).result = .error e) ↔ CycleBelow d.snippets root) ∧
    ((∃ lines, (d.resolve .strict target).result = .ok lines) ↔
      ¬ CycleBelow d.snippets root ∧ ¬ MissingBelow d.snippets root) ∧
    ∀ policy e, (d.resolve policy target).result = .error e →
      ((∃ name chain span, e = .cyclic name chain span) ∧ CycleBelow d.snippets root) ∨
      policy = .strict ∧ (∃ name includer span, e = .missing name includer span) ∧
        MissingBelow d.snippets root := by
  have hresult (policy : MissingPolicy) : (d.resolve policy target).result =
      flatten d.snippets policy [] root := by
    rw [resolve_result (hfresh.settled policy), h]
  refine ⟨?_, ?_, fun policy e he => ?_⟩
  · rw [hresult]
    exact flatten_lenient_error_iff
  · rw [hresult]
    exact flatten_strict_ok_iff
  · rw [hresult] at he
    exact cause_of_flatten_error [] root (by simp) .refl he

/-- Two snippets that include each other, one of them after a missing name. -/
def mutualSource : Text :=
  "```sh\n#%name: a\n#%inc: b\n```\n```sh\n#%lib: b\n#%inc: none, a\n```\n"

theorem resolve_mutualSource : (read .plain 0 mutualSource).Fresh ∧
    (read .plain 0 mutualSource).locate (.name "a") = some 0 ∧
    (∃ e, ((read .plain 0 mutualSource).resolve .lenient (.name "a")).result = .error e) ∧
    ¬ ∃ lines, ((read .plain 0 mutualSource).resolve .strict (.name "a")).result = .ok lines := by
  have hfresh := fresh_read .plain 0 mutualSource
  have hroot : (read .plain 0 mutualSource).locate (.name "a") = some 0 := by decide
  have hthere : Includes (read .plain 0 mutualSource).snippets 0 1 := ⟨"b", by decide, by decide⟩
  have hback : Includes (read .plain 0 mutualSource).snippets 1 0 := ⟨"a", by decide, by decide⟩
  have hcycle : CycleBelow (read .plain 0 mutualSource).snippets 0 :=
    ⟨0, .refl, .tail (.single hthere) hback⟩
  obtain ⟨hlenient, hstrict, -⟩ := resolve_error_iff hfresh hroot
  exact ⟨hfresh, hroot, hlenient.mpr hcycle, fun hok => (hstrict.mp hok).1 hcycle⟩

end Document
end Snippetry
