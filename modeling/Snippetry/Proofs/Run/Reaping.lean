import Snippetry.Proofs.Run.Limits

/-! # Whether a supervised process is reaped

A process is reaped when it is waited for, or when a poll tells that it has exited. No call before the
last turn of a run does so, and in the last turn there always is one, unless a poll fails. -/
namespace Snippetry.World

namespace Call

def IsReap : Call → Prop
  | waited _ | polled (.ok (some _)) => True
  | _ => False

def IsBlind : Call → Prop
  | polled (.error _) => True
  | _ => False

def IsInterim (call : Call) : Prop := ¬ call.IsReap ∧ ¬ call.IsBlind

theorem IsLook.isInterim {call : Call} (h : call.IsLook) : call.IsInterim := by
  cases call <;> simp_all [IsLook, IsInterim, IsReap, IsBlind]

theorem Fits.isInterim {deadline : Option Nat} {kill : Option Kill} {call : Call}
    (h : call.Fits deadline kill) : call.IsInterim := by
  rcases call with _ | _ | _ | _ | _ | _ | (_ | _ | _) | _ | _ <;> cases kill <;>
    simp_all [Fits, IsIdle, IsDraining, IsInterim, IsReap, IsBlind]

end Call

/-- Whether the process of a run that is over was reaped, and what was done to one that was not. -/
structure Disposed (calls : List Call) (e : Ending) : Prop where
  reaped_iff : (∃ call ∈ calls, call.IsReap) ↔
    e ≠ .crashed ∧ ∀ reason, .polled (.error reason) ∉ calls
  /-- A process that cannot be polled is left as it is. -/
  left : ∀ reason, .polled (.error reason) ∈ calls →
    e = .failed (.io reason) ∧ ∀ call ∈ calls, call.IsSparing

namespace Disposed

variable {before last : List Call} {e : Ending}

theorem of_reap (hbefore : ∀ call ∈ before, call.IsInterim) (hreap : ∃ call ∈ last, call.IsReap)
    (hlast : ∀ call ∈ last, ¬ call.IsBlind) (he : e ≠ .crashed) : Disposed (before ++ last) e := by
  have hblind (reason : Text) : .polled (.error reason) ∉ before ++ last := by
    intro hmem
    rcases List.mem_append.mp hmem with hmem | hmem
    · exact (hbefore _ hmem).2 trivial
    · exact hlast _ hmem trivial
  obtain ⟨call, hmem, hcall⟩ := hreap
  exact ⟨iff_of_true ⟨call, List.mem_append_right _ hmem, hcall⟩ ⟨he, hblind⟩,
    fun reason hmem => absurd hmem (hblind reason)⟩

theorem of_blind {reason : Text} (hbefore : ∀ call ∈ before, call.IsInterim)
    (hspares : ∀ call ∈ before, call.IsSparing) :
    Disposed (before ++ [.polled (.error reason)]) (.failed (.io reason)) where
  reaped_iff := by
    refine iff_of_false ?_ fun h => h.2 reason (by simp)
    rintro ⟨call, hmem, hcall⟩
    rcases List.mem_append.mp hmem with hmem | hmem
    · exact (hbefore call hmem).1 hcall
    · obtain rfl := List.mem_singleton.mp hmem
      exact hcall
  left other hmem := by
    have hother : .polled (.error other) ∉ before := fun hmem => (hbefore _ hmem).2 trivial
    obtain rfl : other = reason := by simpa [hother] using hmem
    exact ⟨rfl, List.forall_mem_append.mpr ⟨hspares, by simp [Call.IsSparing]⟩⟩

theorem of_crashed (hbefore : ∀ call ∈ before, call.IsInterim) : Disposed before .crashed where
  reaped_iff := iff_of_false (fun ⟨call, hmem, hcall⟩ => (hbefore call hmem).1 hcall) fun h => h.1 rfl
  left _ hmem := absurd trivial (hbefore _ hmem).2

end Disposed

section Ways

variable {program : Text} {timeout deadline : Option Nat} {kill : Option Kill}
  {opening calls : List Call}

theorem Told.isInterim (h : Told program deadline kill calls) : ∀ call ∈ calls, call.IsInterim := by
  cases h with
  | idle h => exact fun call hmem => (h call hmem).isInterim
  | @stopped k before check after result hbefore hcheck hafter =>
    have hstopping : ∀ call ∈ stopping program k result, call.IsInterim := by
      simp [stopping, Call.IsInterim, Call.IsReap, Call.IsBlind]
    simp only [List.forall_mem_append]
    exact ⟨⟨⟨fun call hmem => (hbefore call hmem).isInterim,
      fun call hmem => (hcheck.isLook call hmem).isInterim⟩, hstopping⟩,
      fun call hmem => (hafter call hmem).isInterim⟩

theorem Told.isSparing (h : Told program deadline none calls) : ∀ call ∈ calls, call.IsSparing := by
  cases h with
  | idle h => exact fun call hmem => (h call hmem).isSparing

theorem Story.disposed (hopening : ∀ call ∈ opening, call.IsLook) {e : Ending}
    (h : Story program deadline calls (.done e)) : Disposed (opening ++ calls) e := by
  have interim {kill : Option Kill} {calls : List Call} (told : Told program deadline kill calls) :
      ∀ call ∈ opening ++ calls, call.IsInterim :=
    List.forall_mem_append.mpr ⟨fun call hmem => (hopening call hmem).isInterim, told.isInterim⟩
  cases h with
  | exited _ _ told | reaped _ _ told =>
    rw [← List.append_assoc]
    exact .of_reap (interim told) (by simp [finishing, Call.IsReap])
      (by simp [finishing, Call.IsBlind]) (by simp)
  | broken _ _ _ _ told | unreaped _ told =>
    rw [← List.append_assoc]
    exact .of_reap (interim told) (by simp [Call.IsReap]) (by simp [Call.IsBlind]) (by simp)
  | unpolled _ told =>
    rw [← List.append_assoc]
    exact .of_blind (interim told) (List.forall_mem_append.mpr
      ⟨fun call hmem => (hopening call hmem).isSparing, told.isSparing⟩)

end Ways

/-- Every run that comes to an end has reaped its process, but for one whose deadline no clock can show
and one whose process cannot be polled; such a process is neither killed nor waited for. -/
theorem disposed_of_supervise {σ : Type} (w : World σ) (steps : Nat) (program : Text)
    (timeout : Option Nat) (s : σ) {e : Ending}
    (h : (w.supervise steps program timeout s).1 = .done e) :
    Disposed (w.calls steps program timeout s) e := by
  have hsupervised := w.supervised steps program timeout s
  rw [h] at hsupervised
  generalize w.calls steps program timeout s = calls at hsupervised ⊢
  cases hsupervised with
  | crashed hopening => exact .of_crashed fun call hmem => (hopening.isLook call hmem).isInterim
  | run hopening course => exact course.story.disposed hopening.isLook

/-- A process that closes its output at once and goes on for ten seconds. -/
def silent : Playback := .start .apart false ⟨[], [⟨0, 0, 0, false⟩], 10000, some 0⟩

theorem disposed_silent :
    (Playback.world.supervise 20 "sh" (some 50) silent).1 = .done (.finished ⟨none, 0, .timedOut⟩) ∧
    Disposed (Playback.world.calls 20 "sh" (some 50) silent) (.finished ⟨none, 0, .timedOut⟩) := by
  have hstopped : (Playback.world.supervise 20 "sh" (some 50) silent).1 =
      .done (.finished ⟨none, 0, .timedOut⟩) := by
    decide +kernel
  exact ⟨hstopped, disposed_of_supervise _ 20 "sh" (some 50) silent hstopped⟩

/-- A world in which the process cannot be polled. -/
def unseen : World Playback :=
  { Playback.world with tryWait := fun p => (.error "No child processes (os error 10)", p) }

/-- A failed poll is the end of a run that has not killed its process and never waits for it. -/
theorem abandoned_silent :
    (unseen.supervise 20 "sh" (some 50) silent).1 =
      .done (.failed (.io "No child processes (os error 10)")) ∧
    unseen.calls 20 "sh" (some 50) silent =
      [.read 0, .received .closed, .polled (.error "No child processes (os error 10)")] ∧
    ¬ ∃ call ∈ unseen.calls 20 "sh" (some 50) silent, call.IsReap := by
  have hfailed : (unseen.supervise 20 "sh" (some 50) silent).1 =
      .done (.failed (.io "No child processes (os error 10)")) := by
    decide +kernel
  have hcalls : unseen.calls 20 "sh" (some 50) silent =
      [.read 0, .received .closed, .polled (.error "No child processes (os error 10)")] := by
    decide +kernel
  refine ⟨hfailed, hcalls, ?_⟩
  rw [hcalls]
  simp [Call.IsReap]

end Snippetry.World
