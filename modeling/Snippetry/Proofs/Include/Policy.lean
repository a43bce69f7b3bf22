import Snippetry.Proofs.Include.Session

/-! # Strict and lenient expansions part at the first missing name

A lenient walk takes the steps of the strict one up to where that fails for a name that nothing answers
to. There it gives notice and goes on, and no later step takes the notice back. So the two expansions
are the same, or the strict one ends with the very name that the lenient one warns of first. -/
namespace Snippetry

namespace Include

def Setting.under (setting : Setting) (policy : MissingPolicy) : Setting := { setting with policy }

namespace Walk

variable {setting : Setting} {w v : Walk}

theorem run_of_step_done (h : w.step setting = .done) : w.run setting = (w, none) := by
  rw [run]
  split <;> simp_all

theorem run_of_step_failed {e : IncludeError} (h : w.step setting = .failed e) :
    w.run setting = (w, some e) := by
  rw [run]
  split <;> simp_all

theorem run_of_step_next (h : w.step setting = .next v) : w.run setting = v.run setting := by
  rw [run]
  split <;> simp_all

/-- Only a name that is left out makes a notice. -/
theorem notices_of_move (m : Move setting w v) : v.notices = w.notices ∨
    setting.policy = .lenient ∧ ∃ n, v.notices = w.notices ++ [n] := by
  cases m with
  | skip hs hp hl hq => exact .inr ⟨hq, _, rfl⟩
  | reuse | enter | read | leave => exact .inl rfl

theorem notices_isPrefix_run (setting : Setting) (w : Walk) :
    w.notices <+: (w.run setting).1.notices := by
  fun_induction run setting w with
  | case1 | case2 => exact List.prefix_rfl
  | case3 w v h ih =>
    rcases notices_of_move (move_of_step h) with hn | ⟨-, n, hn⟩
    · rwa [hn] at ih
    · exact (hn ▸ List.prefix_append _ _).trans ih

/-- A lenient step is the strict one, unless that fails for a missing name. -/
theorem step_lenient (setting : Setting) (w : Walk) :
    w.step (setting.under .lenient) = w.step (setting.under .strict) ∨
      ∃ name includer span v,
        w.step (setting.under .strict) = .failed (.missing name includer span) ∧
        w.step (setting.under .lenient) = .next v ∧
        v.notices = w.notices ++ [⟨.missingReference name includer, span, setting.fileId⟩] := by
  have hlookup (name : Text) (policy : MissingPolicy) :
      w.lookup (setting.under policy) name = w.lookup setting name := rfl
  unfold step
  split
  · exact .inl rfl
  · next f below hs =>
    split
    · next _ name names hp =>
      simp only [stepName, hlookup]
      cases w.lookup setting name with
      | none => exact .inr ⟨name, f.label, f.span, _, rfl, rfl, rfl⟩
      | some found => exact .inl rfl
    · exact .inl rfl
    · exact .inl rfl

/-- How a strict and a lenient run from one walk compare. -/
theorem run_lenient (setting : Setting) (w : Walk) :
    (w.run (setting.under .lenient) = w.run (setting.under .strict) ∧
      (w.run (setting.under .strict)).1.notices = w.notices ∧
      ∀ name includer span, (w.run (setting.under .strict)).2 ≠ some (.missing name includer span)) ∨
    ∃ name includer span later,
      (w.run (setting.under .strict)).2 = some (.missing name includer span) ∧
      (w.run (setting.under .lenient)).1.notices =
        w.notices ++ ⟨.missingReference name includer, span, setting.fileId⟩ :: later := by
  fun_induction run (setting.under .strict) w with
  | case1 w h =>
    rcases step_lenient setting w with hs | ⟨_, _, _, _, hf, -⟩
    · exact .inl ⟨run_of_step_done (hs.trans h), rfl, by simp⟩
    · cases h.symm.trans hf
  | case2 w e h =>
    rcases step_lenient setting w with hs | ⟨name, includer, span, v, hf, hv, hn⟩
    · refine .inl ⟨run_of_step_failed (hs.trans h), rfl, ?_⟩
      rintro name includer span he
      cases he
      cases stuck_of_step (hs.trans h) with
      | missing _ _ _ hq => cases hq
    · cases h.symm.trans hf
      obtain ⟨later, hlater⟩ := notices_isPrefix_run (setting.under .lenient) v
      refine .inr ⟨name, includer, span, later, rfl, ?_⟩
      rw [run_of_step_next hv, ← hlater, hn]
      simp
  | case3 w v h ih =>
    rcases step_lenient setting w with hs | ⟨_, _, _, _, hf, -⟩
    · have hquiet : v.notices = w.notices := by
        rcases notices_of_move (move_of_step h) with hn | ⟨hq, -⟩
        · exact hn
        · cases hq
      rw [run_of_step_next (hs.trans h), ← hquiet]
      exact ih
    · cases h.symm.trans hf

end Walk
end Include

namespace Document

open Include

inductive Parted {α : Type} (d : Document) : Expanded α → Expanded α → Prop
  /-- They are the same; no name was missing and no notice given. -/
  | never {r : Expanded α} (quiet : r.document.notices = d.notices)
      (found : ∀ name includer span, r.result ≠ .error (.missing name includer span)) : Parted d r r
  /-- The strict one fails for the name that the lenient one gives notice of first. -/
  | missing {strict lenient : Expanded α} {name includer : Text} {span : Span} {later : List Notice}
      (fails : strict.result = .error (.missing name includer span))
      (warns : lenient.document.notices =
        d.notices ++ ⟨.missingReference name includer, span, d.sourceId⟩ :: later) :
      Parted d strict lenient

theorem parted_expand (d : Document) (setting : Setting) (hf : setting.fileId = d.sourceId)
    (position : Nat) : d.Parted (d.expand (setting.under .strict) position)
      (d.expand (setting.under .lenient) position) := by
  cases hs : d.snippets[position]? with
  | none =>
    simp only [expand, hs]
    exact .never rfl (by simp)
  | some s =>
    by_cases hr : s.isResolved = true
    · rw [expand_of_resolved _ hs hr, expand_of_resolved _ hs hr]
      exact .never rfl (by simp)
    · rw [expand_of_open _ hs hr rfl, expand_of_open _ hs hr rfl]
      have herror (e? : Option IncludeError) (e : IncludeError) :
          (e?.elim (.ok ()) .error : Except IncludeError Unit) = .error e ↔ e? = some e := by
        cases e? <;> simp
      rcases Walk.run_lenient setting (d.walkInto position s) with
        ⟨hsame, hquiet, hfound⟩ | ⟨name, includer, span, later, hfails, hwarns⟩
      · rw [hsame]
        exact .never hquiet fun name includer span he => hfound name includer span ((herror _ _).mp he)
      · exact .missing ((herror _ _).mpr hfails) (hf ▸ hwarns)

theorem parted_resolve (d : Document) (target : Target) :
    d.Parted (d.resolve .strict target) (d.resolve .lenient target) := by
  cases hi : d.locate target with
  | none =>
    rw [resolve_of_not_located hi, resolve_of_not_located hi]
    exact .never rfl (by simp)
  | some i =>
    rw [resolve_of_located hi, resolve_of_located hi]
    have hparted : d.Parted (d.expand (d.setting .strict) i) (d.expand (d.setting .lenient) i) :=
      d.parted_expand (d.setting .strict) rfl i
    generalize d.expand (d.setting .strict) i = strict at hparted ⊢
    generalize d.expand (d.setting .lenient) i = lenient at hparted ⊢
    cases hparted with
    | never quiet found =>
      refine .never quiet fun name includer span he => found name includer span ?_
      cases hr : strict.result <;> simp_all [Except.map]
    | missing fails warns => exact .missing (by rw [fails]; rfl) warns

/-- Expanding a target strictly and leniently from one document comes to the same, without a notice,
unless a name is missing; and if the strict expansion fails for that, the first notice that the lenient
one gives says so, however it goes on. So a lenient expansion without notices is a strict one. -/
theorem resolve_lenient_eq_strict (d : Document) (target : Target) :
    (∀ lines, (d.resolve .strict target).result = .ok lines →
      (d.resolve .lenient target).result = .ok lines ∧
        (d.resolve .lenient target).document = (d.resolve .strict target).document ∧
        (d.resolve .lenient target).document.notices = d.notices) ∧
    (∀ e, (d.resolve .strict target).result = .error e →
      ((∃ name chain span, e = .cyclic name chain span) ∨ ∃ other, e = .unknownTarget other) →
      (d.resolve .lenient target).result = .error e ∧
        (d.resolve .lenient target).document = (d.resolve .strict target).document ∧
        (d.resolve .lenient target).document.notices = d.notices) ∧
    (∀ name includer span,
      (d.resolve .strict target).result = .error (.missing name includer span) →
      ∃ n later, (d.resolve .lenient target).document.notices = d.notices ++ n :: later ∧
        n.diagnostic.severity = .warning ∧
        n.message = (IncludeError.missing name includer span).message ∧
        (IncludeError.missing name includer span).span? = some n.span) ∧
    ((d.resolve .lenient target).document.notices = d.notices →
      (d.resolve .lenient target).result = (d.resolve .strict target).result ∧
        (d.resolve .lenient target).document = (d.resolve .strict target).document) := by
  have hparted := d.parted_resolve target
  generalize d.resolve .strict target = strict at hparted ⊢
  generalize d.resolve .lenient target = lenient at hparted ⊢
  cases hparted with
  | never quiet found =>
    exact ⟨fun _ hr => ⟨hr, rfl, quiet⟩, fun _ hr _ => ⟨hr, rfl, quiet⟩,
      fun name includer span hr => absurd hr (found name includer span), fun _ => ⟨rfl, rfl⟩⟩
  | missing fails warns =>
    refine ⟨fun lines hr => ?_, fun e hr he => ?_, fun name' includer' span' hr => ?_, fun hn => ?_⟩
    · cases hr.symm.trans fails
    · cases hr.symm.trans fails
      simp at he
    · cases hr.symm.trans fails
      exact ⟨_, _, warns, rfl, rfl, rfl⟩
    · simp [warns] at hn

/-- Behind a missing name stands a cycle, which only the lenient expansion gets to. -/
def detourSource : Text :=
  "```sh\n#%name: a\n#%inc: gone, b\n```\n```sh\n#%lib: b\n#%inc: lost, a\n```\n```sh\n#%lib: c\n```\n"

/-- The library is expanded already, and a strict request for the rest has failed. -/
def detour : Document :=
  (read .plain 0 detourSource).after [(.lenient, .one (.name "c")), (.strict, .all)]

theorem resolve_detour :
    (detour.resolve .strict (.name "a")).result = .error (.missing "gone" "a" ⟨16, 30⟩) ∧
      (detour.resolve .lenient (.name "a")).result = .error (.cyclic "a" ["a", "b", "a"] ⟨50, 64⟩) ∧
      ∃ n later, (detour.resolve .lenient (.name "a")).document.notices = detour.notices ++ n :: later ∧
        n.diagnostic.severity = .warning ∧
        n.message = (IncludeError.missing "gone" "a" ⟨16, 30⟩).message ∧
        (IncludeError.missing "gone" "a" ⟨16, 30⟩).span? = some n.span := by
  have hstrict : (detour.resolve .strict (.name "a")).result =
      .error (.missing "gone" "a" ⟨16, 30⟩) := by
    decide +kernel
  have hlenient : (detour.resolve .lenient (.name "a")).result =
      .error (.cyclic "a" ["a", "b", "a"] ⟨50, 64⟩) := by
    decide +kernel
  exact ⟨hstrict, hlenient, (resolve_lenient_eq_strict detour (.name "a")).2.2.1 _ _ _ hstrict⟩

end Document
end Snippetry
