import Snippetry.Proofs.Run.Calls
import Snippetry.Run.Playback

/-! # When and why a supervised process is killed

Up to the first look that finds a limit hit a run leaves the process alone; from then on it only lets
output drain, and the process is waited for. What the run reports can be read off its calls. -/
namespace Snippetry.World

namespace Call

def isKill : Call → Bool
  | killed _ => true
  | _ => false

def isWait : Call → Bool
  | waited _ => true
  | _ => false

def IsIdle (deadline : Option Nat) : Call → Prop
  | received _ | wrote _ (.ok _) | checked false | polled (.ok none) | paused => True
  | read now => ∀ time, deadline = some time → now < time
  | _ => False

def IsDraining : Call → Prop
  | received _ | wrote _ (.ok _) | read _ | logged .outputStillOpen => True
  | _ => False

def Fits (deadline : Option Nat) : Option Kill → Call → Prop
  | none => IsIdle deadline
  | some _ => IsDraining

def IsSparing : Call → Prop
  | killed _ | waited _ => False
  | _ => True

theorem IsLook.isSparing {call : Call} (h : call.IsLook) : call.IsSparing := by
  cases call <;> simp_all [IsLook, IsSparing]

theorem Fits.isSparing {deadline : Option Nat} {kill : Option Kill} {call : Call}
    (h : call.Fits deadline kill) : call.IsSparing := by
  cases kill <;> cases call <;> simp_all [Fits, IsIdle, IsDraining, IsSparing]

theorem countP_isKill_eq_zero {calls : List Call} (h : ∀ call ∈ calls, call.IsSparing) :
    calls.countP isKill = 0 := by
  refine List.countP_eq_zero.mpr fun call hmem => ?_
  have hsparing := h call hmem
  cases call <;> simp_all [IsSparing, isKill]

theorem countP_isWait_eq_zero {calls : List Call} (h : ∀ call ∈ calls, call.IsSparing) :
    calls.countP isWait = 0 := by
  refine List.countP_eq_zero.mpr fun call hmem => ?_
  have hsparing := h call hmem
  cases call <;> simp_all [IsSparing, isWait]

end Call

theorem Check.fits {deadline : Option Nat} {check : List Call} (h : Check deadline check none) :
    ∀ call ∈ check, call.Fits deadline none := by
  cases h with
  | unlimited => simp [Call.Fits, Call.IsIdle]
  | early h hnow => simpa [Call.Fits, Call.IsIdle, h] using hnow

/-- The calls of a run so far, if nothing went wrong: no limit was hit, or the process was killed at
the first look that found one hit. -/
inductive Told (program : Text) (deadline : Option Nat) : Option Kill → List Call → Prop
  | idle {calls : List Call} (h : ∀ call ∈ calls, call.Fits deadline none) :
      Told program deadline none calls
  | stopped {k : Kill} {before check after : List Call} {result : Except Text Unit}
      (hbefore : ∀ call ∈ before, call.Fits deadline none)
      (hcheck : Check deadline check (some k.reason))
      (hafter : ∀ call ∈ after, call.Fits deadline (some k)) :
      Told program deadline (some k) (before ++ check ++ stopping program k result ++ after)

/-- The calls of a run so far, by the phase it has come to. -/
inductive Story (program : Text) (deadline : Option Nat) : List Call → Phase → Prop
  | forwarding {kill : Option Kill} {calls : List Call} (count : Nat)
      (h : Told program deadline kill calls) :
      Story program deadline calls (.forwarding kill count)
  | reaping {kill : Option Kill} {calls : List Call} (count : Nat)
      (h : Told program deadline kill calls) :
      Story program deadline calls (.reaping kill count)
  | exited {calls : List Call} (exitCode : Option Nat) (count : Nat)
      (h : Told program deadline none calls) :
      Story program deadline
        (calls ++ finishing program (.polled (.ok (some exitCode))) exitCode)
        (.done (.finished ⟨exitCode, count, .exited⟩))
  | reaped {k : Kill} {calls : List Call} (exitCode : Option Nat) (count : Nat)
      (h : Told program deadline (some k) calls) :
      Story program deadline
        (calls ++ finishing program (.waited (.ok exitCode)) exitCode)
        (.done (.finished ⟨exitCode, count, k.reason⟩))
  | broken {kill : Option Kill} {calls : List Call} (c : Chunk) (reason : Text)
      (killed : Except Text Unit) (waited : Except Text (Option Nat))
      (h : Told program deadline kill calls) :
      Story program deadline
        (calls ++ [.received (.chunk c), .wrote c (.error reason), .killed killed, .waited waited])
        (.done (.failed (.io reason)))
  | unpolled {calls : List Call} (reason : Text) (h : Told program deadline none calls) :
      Story program deadline (calls ++ [.polled (.error reason)]) (.done (.failed (.io reason)))
  | unreaped {k : Kill} {calls : List Call} (reason : Text)
      (h : Told program deadline (some k) calls) :
      Story program deadline (calls ++ [.waited (.error reason)]) (.done (.failed (.io reason)))

section Story

variable {program : Text} {deadline : Option Nat} {kill : Option Kill} {calls new : List Call}

namespace Told

theorem append (h : Told program deadline kill calls) (hnew : ∀ call ∈ new, call.Fits deadline kill) :
    Told program deadline kill (calls ++ new) := by
  cases h with
  | idle h => exact .idle (List.forall_mem_append.mpr ⟨h, hnew⟩)
  | stopped hbefore hcheck hafter =>
    rw [List.append_assoc]
    exact .stopped hbefore hcheck (List.forall_mem_append.mpr ⟨hafter, hnew⟩)

theorem look (h : Told program deadline none calls) (hlook : Look program deadline new kill) :
    Told program deadline kill (calls ++ new) := by
  cases hlook with
  | clear hcheck => exact h.append hcheck.fits
  | hit hcheck result =>
    cases h with
    | idle h =>
      rw [← List.append_assoc, ← List.append_nil (_ ++ _)]
      exact .stopped h hcheck (by simp)

theorem review {count : Nat} {p : Phase} (h : Told program deadline kill calls)
    (hreview : Review program deadline kill count new p) : Story program deadline (calls ++ new) p := by
  cases hreview with
  | looked hlook => exact .forwarding _ (h.look hlook)
  | draining => exact .forwarding _ (h.append (by simp [Call.Fits, Call.IsDraining]))
  | graceOver => exact .reaping _ (h.append (by simp [Call.Fits, Call.IsDraining]))

theorem error_not_mem (h : Told program deadline kill calls) (c : Chunk) (reason : Text) :
    .wrote c (.error reason) ∉ calls := by
  cases h with
  | idle h => exact fun hmem => h _ hmem
  | stopped hbefore hcheck hafter =>
    simp only [List.mem_append, not_or]
    exact ⟨⟨⟨fun hmem => hbefore _ hmem, fun hmem => hcheck.isLook _ hmem⟩, by simp [stopping]⟩,
      fun hmem => hafter _ hmem⟩

end Told

/-- A step goes on with the story. -/
theorem Story.turn {p q : Phase} (h : Story program deadline calls p)
    (hturn : Turn program deadline p new q) : Story program deadline (calls ++ new) q := by
  have fits_received (kill : Option Kill) (receipt : Receipt) :
      (Call.received receipt).Fits deadline kill := by
    cases kill <;> trivial
  cases hturn with
  | closed =>
    obtain ⟨_, told⟩ := h
    exact .reaping _ (told.append (by simpa using fits_received _ _))
  | nothing hreview =>
    obtain ⟨_, told⟩ := h
    rw [List.append_cons]
    exact (told.append (by simpa using fits_received _ _)).review hreview
  | @chunk kill _ c _ _ hreview =>
    obtain ⟨_, told⟩ := h
    have fits_wrote : (Call.wrote c (.ok ())).Fits deadline kill := by cases kill <;> trivial
    have echoed : Told program deadline kill (calls ++ [.received (.chunk c), .wrote c (.ok ())]) :=
      told.append (by simp [fits_received, fits_wrote])
    simpa using echoed.review hreview
  | broken =>
    obtain ⟨_, told⟩ := h
    exact .broken _ _ _ _ told
  | reaped =>
    obtain _ | ⟨_, told⟩ := h
    exact .reaped _ _ told
  | unreaped =>
    obtain _ | ⟨_, told⟩ := h
    exact .unreaped _ told
  | exited =>
    obtain _ | ⟨_, told⟩ := h
    exact .exited _ _ told
  | unpolled =>
    obtain _ | ⟨_, told⟩ := h
    exact .unpolled _ told
  | paused hlook =>
    obtain _ | ⟨_, told⟩ := h
    rw [List.cons_append, List.append_cons, ← List.append_assoc]
    have polled : Told program deadline none (calls ++ [.polled (.ok none)]) :=
      told.append (by simp [Call.Fits, Call.IsIdle])
    exact .reaping _ ((polled.look hlook).append (by simp [Call.Fits, Call.IsIdle]))
  | stopped hlook =>
    obtain _ | ⟨_, told⟩ := h
    rw [List.append_cons]
    have polled : Told program deadline none (calls ++ [.polled (.ok none)]) :=
      told.append (by simp [Call.Fits, Call.IsIdle])
    exact .reaping _ (polled.look hlook)

theorem Course.story {p : Phase} (course : Course program deadline (.forwarding none 0) calls p) :
    Story program deadline calls p :=
  course.invariant Story.turn [] (.forwarding 0 (.idle (by simp)))

end Story

structure Accounted (program : Text) (timeout : Option Nat) (calls : List Call) (o : Outcome) :
    Prop where
  exited_iff : o.termination = .exited ↔ calls.countP Call.isKill = 0
  /-- A process that was left alone was seen to have exited, with the reported code. -/
  polled : o.termination = .exited → .polled (.ok (some o.exitCode)) ∈ calls ∧
    ∀ exitCode, .polled (.ok (some exitCode)) ∈ calls → exitCode = o.exitCode
  /-- Any other one was killed once, for what was found by the first look that found a limit hit, and
  then waited for once. -/
  stopped : o.termination ≠ .exited →
    calls.countP Call.isKill = 1 ∧ calls.countP Call.isWait = 1 ∧
    ∃ opening deadline before check result time after,
      Opening timeout opening (some deadline) ∧ (∀ call ∈ before, call.IsIdle deadline) ∧
      Check deadline check (some o.termination) ∧ (∀ call ∈ after, call.IsDraining) ∧
      calls = opening ++ (before ++ check ++ stopping program ⟨o.termination, time⟩ result ++ after ++
        finishing program (.waited (.ok o.exitCode)) o.exitCode)

section Account

variable {program : Text} {timeout deadline : Option Nat} {opening calls : List Call}

theorem accounted_of_idle (hopening : Opening timeout opening (some deadline))
    (h : ∀ call ∈ calls, call.Fits deadline none) (exitCode : Option Nat) (count : Nat) :
    Accounted program timeout
      (opening ++ (calls ++ finishing program (.polled (.ok (some exitCode))) exitCode))
      ⟨exitCode, count, .exited⟩ where
  exited_iff := by
    have hopening := Call.countP_isKill_eq_zero fun call hmem => (hopening.isLook call hmem).isSparing
    have hcalls := Call.countP_isKill_eq_zero fun call hmem => (h call hmem).isSparing
    simp [hopening, hcalls, finishing, Call.isKill]
  polled _ := by
    refine ⟨by simp [finishing], fun other hmem => ?_⟩
    have hopening' : .polled (.ok (some other)) ∉ opening := fun hmem => hopening.isLook _ hmem
    have hcalls : .polled (.ok (some other)) ∉ calls := fun hmem => h _ hmem
    simpa [hopening', hcalls, finishing] using hmem
  stopped hne := absurd rfl hne

theorem accounted_of_stopped (hopening : Opening timeout opening (some deadline)) {k : Kill}
    (h : Told program deadline (some k) calls) (exitCode : Option Nat) (count : Nat) :
    Accounted program timeout
      (opening ++ (calls ++ finishing program (.waited (.ok exitCode)) exitCode))
      ⟨exitCode, count, k.reason⟩ := by
  cases h with
  | @stopped _ before check after result hbefore hcheck hafter =>
    have hne := hcheck.ne_exited
    have opening_spares call (hmem : call ∈ opening) := (hopening.isLook call hmem).isSparing
    have before_spares call (hmem : call ∈ before) := (hbefore call hmem).isSparing
    have check_spares call (hmem : call ∈ check) := (hcheck.isLook call hmem).isSparing
    have after_spares call (hmem : call ∈ after) := (hafter call hmem).isSparing
    have hkills : (opening ++ (before ++ check ++ stopping program k result ++ after ++
        finishing program (.waited (.ok exitCode)) exitCode)).countP Call.isKill = 1 := by
      simp only [List.countP_append, Call.countP_isKill_eq_zero opening_spares,
        Call.countP_isKill_eq_zero before_spares, Call.countP_isKill_eq_zero check_spares,
        Call.countP_isKill_eq_zero after_spares]
      rfl
    have hwaits : (opening ++ (before ++ check ++ stopping program k result ++ after ++
        finishing program (.waited (.ok exitCode)) exitCode)).countP Call.isWait = 1 := by
      simp only [List.countP_append, Call.countP_isWait_eq_zero opening_spares,
        Call.countP_isWait_eq_zero before_spares, Call.countP_isWait_eq_zero check_spares,
        Call.countP_isWait_eq_zero after_spares]
      rfl
    refine ⟨iff_of_false hne (by rw [hkills]; decide), fun heq => absurd heq hne, fun _ => ?_⟩
    exact ⟨hkills, hwaits, opening, deadline, before, check, result, k.time, after, hopening, hbefore,
      hcheck, hafter, rfl⟩

theorem Story.accounted (hopening : Opening timeout opening (some deadline)) {o : Outcome}
    (h : Story program deadline calls (.done (.finished o))) :
    Accounted program timeout (opening ++ calls) o := by
  cases h with
  | exited exitCode count h =>
    cases h with
    | idle h => exact accounted_of_idle hopening h exitCode count
  | reaped exitCode count h => exact accounted_of_stopped hopening h exitCode count

/-- A failed write is the end of a run but for the kill and the wait. -/
theorem Story.ends_of_error_mem {p : Phase} (h : Story program deadline calls p) {c : Chunk}
    {reason : Text} (hmem : .wrote c (.error reason) ∈ calls) :
    p = .done (.failed (.io reason)) ∧ ∃ before killed waited,
      calls = before ++ [.wrote c (.error reason), .killed killed, .waited waited] := by
  cases h with
  | forwarding _ told | reaping _ told => exact absurd hmem (told.error_not_mem c reason)
  | exited _ _ told | reaped _ _ told | unpolled _ told | unreaped _ told =>
    simp [told.error_not_mem c reason, finishing] at hmem
  | broken d reason' killed waited told =>
    obtain ⟨rfl, rfl⟩ : c = d ∧ reason = reason' := by
      simpa [told.error_not_mem c reason] using hmem
    exact ⟨rfl, _, killed, waited, List.append_cons ..⟩

end Account

/-- Each outcome accounts for the calls of its run; and when a chunk cannot be written the run fails,
but not before it has killed the process and then waited for it. -/
theorem accounted_of_supervise {σ : Type} (w : World σ) (steps : Nat) (program : Text)
    (timeout : Option Nat) (s : σ) :
    (∀ o, (w.supervise steps program timeout s).1 = .done (.finished o) →
      Accounted program timeout (w.calls steps program timeout s) o) ∧
    ∀ c reason, .wrote c (.error reason) ∈ w.calls steps program timeout s →
      (w.supervise steps program timeout s).1 = .done (.failed (.io reason)) ∧
      ∃ before killed waited, w.calls steps program timeout s =
        before ++ [.wrote c (.error reason), .killed killed, .waited waited] := by
  have hsupervised := w.supervised steps program timeout s
  generalize (w.supervise steps program timeout s).1 = p at hsupervised ⊢
  generalize w.calls steps program timeout s = calls at hsupervised ⊢
  cases hsupervised with
  | crashed hopening =>
    have hnone c result : .wrote c result ∉ calls := fun hmem => hopening.isLook _ hmem
    exact ⟨nofun, fun c reason hmem => absurd hmem (hnone c _)⟩
  | @run opening rest _ _ hopening course =>
    have story := course.story
    refine ⟨fun o hp => (hp ▸ story).accounted hopening, fun c reason hmem => ?_⟩
    have hrest : .wrote c (.error reason) ∈ rest :=
      (List.mem_append.mp hmem).resolve_left fun hmem => hopening.isLook _ hmem
    obtain ⟨hp, before, killed, waited, hcalls⟩ := story.ends_of_error_mem hrest
    exact ⟨hp, opening ++ before, killed, waited, by rw [hcalls, List.append_assoc]⟩

/-- A process that writes a line and then goes on for ten seconds. -/
def lingering : Playback :=
  .start .apart false ⟨[⟨0, .out, [111, 107, 10], 0, false⟩], [⟨0, 10000, 0, false⟩], 10000, some 0⟩

/-- A world in which nobody takes the output any more. -/
def unread : World Playback :=
  { Playback.world with write := fun _ p => (.error "broken pipe", p) }

theorem accounted_lingering :
    ((Playback.world.supervise 20 "sh" (some 50) lingering).1 =
        .done (.finished ⟨none, 0, .timedOut⟩) ∧
      Accounted "sh" (some 50) (Playback.world.calls 20 "sh" (some 50) lingering)
        ⟨none, 0, .timedOut⟩) ∧
    (.wrote ⟨.out, [111, 107, 10]⟩ (.error "broken pipe") ∈ unread.calls 20 "sh" none lingering ∧
      (unread.supervise 20 "sh" none lingering).1 = .done (.failed (.io "broken pipe"))) := by
  have hstopped : (Playback.world.supervise 20 "sh" (some 50) lingering).1 =
      .done (.finished ⟨none, 0, .timedOut⟩) := by decide +kernel
  have hbroken : .wrote ⟨.out, [111, 107, 10]⟩ (.error "broken pipe") ∈
      unread.calls 20 "sh" none lingering := by decide +kernel
  exact ⟨⟨hstopped, (accounted_of_supervise _ 20 "sh" (some 50) lingering).1 _ hstopped⟩,
    hbroken, ((accounted_of_supervise _ 20 "sh" none lingering).2 _ _ hbroken).1⟩

end Snippetry.World
