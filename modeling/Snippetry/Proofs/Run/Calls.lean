import Mathlib.Control.Monad.Basic
import Snippetry.Run.Supervise

/-! # What a supervisor asks of its world, and in what order

A world can keep a record of what it is asked. The record of a supervised run is a sequence of turns,
one for each step, and what a turn may ask depends on the phase alone. -/
namespace Snippetry.World

inductive Call
  | received (receipt : Receipt)
  | wrote (c : Chunk) (result : Except Text Unit)
  | read (time : Nat)
  | checked (isCancelled : Bool)
  | killed (result : Except Text Unit)
  | waited (result : Except Text (Option Nat))
  | polled (result : Except Text (Option (Option Nat)))
  | paused
  | logged (e : LogEntry)
deriving DecidableEq

def Call.IsLook : Call → Prop
  | .checked _ | .read _ => True
  | _ => False

variable {σ α β : Type}

def recording (ask : StateM σ α) (call : α → Call) : StateM (σ × List Call) α := fun (s, calls) =>
  let (a, s) := ask s
  (a, s, calls ++ [call a])

def recorded (w : World σ) : World (σ × List Call) where
  receive := recording w.receive .received
  write c := recording (w.write c) (.wrote c)
  now := recording w.now .read
  isCancelled := recording w.isCancelled .checked
  kill := recording w.kill .killed
  wait := recording w.wait .waited
  tryWait := recording w.tryWait .polled
  pause := recording w.pause fun _ => .paused
  log e := recording (w.log e) fun _ => .logged e

def calls (w : World σ) (steps : Nat) (program : Text) (timeout : Option Nat) (s : σ) : List Call :=
  (w.recorded.supervise steps program timeout (s, [])).2.2

/-- The first computation does what the second does and records calls besides; the calls and the
result are as the relation says. -/
def Records (recorded : StateM (σ × List Call) α) (m : StateM σ α) (R : List Call → α → Prop) : Prop :=
  ∀ s calls, ∃ new, recorded (s, calls) = ((m s).1, (m s).2, calls ++ new) ∧ R new (m s).1

namespace Records

variable {m' : StateM (σ × List Call) α} {m : StateM σ α} {f' : α → StateM (σ × List Call) β}
  {f : α → StateM σ β} {Q : List Call → α → Prop} {R : List Call → β → Prop}

theorem pure {b : β} (h : R [] b) : Records (Pure.pure b) (Pure.pure b : StateM σ β) R :=
  fun s calls => ⟨[], by simp only [List.append_nil]; rfl, h⟩

theorem bind (hm : Records m' m Q)
    (hf : ∀ first a, Q first a → Records (f' a) (f a) fun rest b => R (first ++ rest) b) :
    Records (m' >>= f') (m >>= f) R := by
  intro s calls
  obtain ⟨first, hfirst, hQ⟩ := hm s calls
  obtain ⟨rest, hrest, hR⟩ := hf first (m s).1 hQ (m s).2 (calls ++ first)
  refine ⟨first ++ rest, ?_, hR⟩
  calc (m' >>= f') (s, calls) = f' (m' (s, calls)).1 (m' (s, calls)).2 := rfl
    _ = f' (m s).1 ((m s).2, calls ++ first) := by rw [hfirst]
    _ = ((f (m s).1 (m s).2).1, (f (m s).1 (m s).2).2, calls ++ (first ++ rest)) := by
      rw [hrest, List.append_assoc]

/-- After a call comes what comes after its answer. -/
theorem ask {m : StateM σ α} {call : α → Call}
    (hf : ∀ a, Records (f' a) (f a) fun rest b => R (call a :: rest) b) :
    Records (recording m call >>= f') (m >>= f) R :=
  have noted : Records (recording m call) m fun calls a => calls = [call a] :=
    fun _ _ => ⟨_, rfl, rfl⟩
  noted.bind (by rintro _ a rfl; exact hf a)

/-- A call that is not answered. -/
theorem tell {m : StateM σ Unit} {call : Call} {f' : Unit → StateM (σ × List Call) β}
    {f : Unit → StateM σ β} (hf : Records (f' ()) (f ()) fun rest b => R (call :: rest) b) :
    Records (recording m (fun _ => call) >>= f') (m >>= f) R :=
  ask fun _ => hf

theorem mono {R' : List Call → β → Prop} {m' : StateM (σ × List Call) β} {m : StateM σ β}
    (h : Records m' m R) (hR : ∀ calls b, R calls b → R' calls b) : Records m' m R' := by
  intro s calls
  obtain ⟨new, heq, hnew⟩ := h s calls
  exact ⟨new, heq, hR _ _ hnew⟩

end Records

inductive Check (deadline : Option Nat) : List Call → Option Termination → Prop
  | cancelled : Check deadline [.checked true] (some .cancelled)
  | unlimited (h : deadline = none) : Check deadline [.checked false] none
  | early {time now : Nat} (h : deadline = some time) (hnow : now < time) :
      Check deadline [.checked false, .read now] none
  | late {time now : Nat} (h : deadline = some time) (hnow : time ≤ now) :
      Check deadline [.checked false, .read now] (some .timedOut)

theorem Check.isLook {deadline : Option Nat} {check : List Call} {reason? : Option Termination}
    (h : Check deadline check reason?) : ∀ call ∈ check, call.IsLook := by
  cases h <;> simp [Call.IsLook]

theorem Check.ne_exited {deadline : Option Nat} {check : List Call} {reason : Termination}
    (h : Check deadline check (some reason)) : reason ≠ .exited := by
  cases h <;> simp

def stopping (program : Text) (k : Kill) (result : Except Text Unit) : List Call :=
  [.logged (.killing program k.reason.word), .killed result, .read k.time]

def finishing (program : Text) (answer : Call) (exitCode : Option Nat) : List Call :=
  [answer, .logged (.programFinished program (exited.exitWord exitCode))]

/-- A look at the limits, and the end of the process if one is hit. -/
inductive Look (program : Text) (deadline : Option Nat) : List Call → Option Kill → Prop
  | clear {check : List Call} (h : Check deadline check none) : Look program deadline check none
  | hit {check : List Call} {k : Kill} (h : Check deadline check (some k.reason))
      (result : Except Text Unit) :
      Look program deadline (check ++ stopping program k result) (some k)

/-- What follows each chunk, and each while in which nothing comes. -/
inductive Review (program : Text) (deadline : Option Nat) :
    Option Kill → Nat → List Call → Phase → Prop
  | looked {look : List Call} {kill : Option Kill} {count : Nat} (h : Look program deadline look kill) :
      Review program deadline none count look (.forwarding kill count)
  | draining {k : Kill} {count now : Nat} (h : now < k.time + grace) :
      Review program deadline (some k) count [.read now] (.forwarding (some k) count)
  | graceOver {k : Kill} {count now : Nat} (h : k.time + grace ≤ now) :
      Review program deadline (some k) count [.read now, .logged .outputStillOpen]
        (.reaping (some k) count)

inductive Turn (program : Text) (deadline : Option Nat) : Phase → List Call → Phase → Prop
  | closed {kill : Option Kill} {count : Nat} :
      Turn program deadline (.forwarding kill count) [.received .closed] (.reaping kill count)
  | nothing {kill : Option Kill} {count : Nat} {review : List Call} {p : Phase}
      (h : Review program deadline kill count review p) :
      Turn program deadline (.forwarding kill count) (.received .nothing :: review) p
  | chunk {kill : Option Kill} {count : Nat} {c : Chunk} {review : List Call} {p : Phase}
      (h : Review program deadline kill
        (count + if c.stream = .err then c.bytes.length else 0) review p) :
      Turn program deadline (.forwarding kill count)
        (.received (.chunk c) :: .wrote c (.ok ()) :: review) p
  | broken {kill : Option Kill} {count : Nat} {c : Chunk} {reason : Text}
      {killed : Except Text Unit} {waited : Except Text (Option Nat)} :
      Turn program deadline (.forwarding kill count)
        [.received (.chunk c), .wrote c (.error reason), .killed killed, .waited waited]
        (.done (.failed (.io reason)))
  | reaped {k : Kill} {count : Nat} {exitCode : Option Nat} :
      Turn program deadline (.reaping (some k) count)
        (finishing program (.waited (.ok exitCode)) exitCode)
        (.done (.finished ⟨exitCode, count, k.reason⟩))
  | unreaped {k : Kill} {count : Nat} {reason : Text} :
      Turn program deadline (.reaping (some k) count) [.waited (.error reason)]
        (.done (.failed (.io reason)))
  | exited {count : Nat} {exitCode : Option Nat} :
      Turn program deadline (.reaping none count)
        (finishing program (.polled (.ok (some exitCode))) exitCode)
        (.done (.finished ⟨exitCode, count, .exited⟩))
  | unpolled {count : Nat} {reason : Text} :
      Turn program deadline (.reaping none count) [.polled (.error reason)]
        (.done (.failed (.io reason)))
  | paused {count : Nat} {look : List Call} (h : Look program deadline look none) :
      Turn program deadline (.reaping none count) (.polled (.ok none) :: look ++ [.paused])
        (.reaping none count)
  | stopped {k : Kill} {count : Nat} {look : List Call} (h : Look program deadline look (some k)) :
      Turn program deadline (.reaping none count) (.polled (.ok none) :: look)
        (.reaping (some k) count)

inductive Course (program : Text) (deadline : Option Nat) : Phase → List Call → Phase → Prop
  | stay (p : Phase) : Course program deadline p [] p
  | turn {p q r : Phase} {first rest : List Call} (h : Turn program deadline p first q)
      (course : Course program deadline q rest r) : Course program deadline p (first ++ rest) r

/-- The deadline of a run, and what is read for it. -/
inductive Opening : Option Nat → List Call → Option (Option Nat) → Prop
  | unlimited : Opening none [] (some none)
  | limited {length now : Nat} (h : (now + length) / 1000 ≤ lastSecond) :
      Opening (some length) [.read now] (some (some (now + length)))
  | beyond {length now : Nat} (h : ¬ (now + length) / 1000 ≤ lastSecond) :
      Opening (some length) [.read now] none

theorem Opening.isLook {timeout : Option Nat} {opening : List Call}
    {deadline? : Option (Option Nat)} (h : Opening timeout opening deadline?) :
    ∀ call ∈ opening, call.IsLook := by
  cases h <;> simp [Call.IsLook]

inductive Supervised (program : Text) (timeout : Option Nat) : List Call → Phase → Prop
  | crashed {opening : List Call} (h : Opening timeout opening none) :
      Supervised program timeout opening (.done .crashed)
  | run {opening rest : List Call} {deadline : Option Nat} {p : Phase}
      (h : Opening timeout opening (some deadline))
      (course : Course program deadline (.forwarding none 0) rest p) :
      Supervised program timeout (opening ++ rest) p

section Steps

variable (w : World σ) (program : Text)

theorem records_stopReason (deadline : Option Nat) :
    Records (w.recorded.stopReason deadline) (w.stopReason deadline) (Check deadline) := by
  refine Records.ask fun isCancelled => ?_
  cases isCancelled with
  | true => exact .pure .cancelled
  | false =>
    cases deadline with
    | none => exact .pure (.unlimited rfl)
    | some time =>
      refine Records.ask fun now => .pure ?_
      by_cases h : time ≤ now
      · simpa [h] using Check.late rfl h
      · simpa [h] using Check.early rfl (Nat.lt_of_not_le h)

theorem records_stop (reason : Termination) :
    Records (w.recorded.stop program reason) (w.stop program reason) fun calls k =>
      k.reason = reason ∧ ∃ result, calls = stopping program k result := by
  refine Records.tell (Records.ask fun result => Records.ask fun _ => ?_)
  exact .pure ⟨rfl, result, rfl⟩

/-- The end of a process after a look that found a limit hit. -/
theorem records_stop_of_check {deadline : Option Nat} {check : List Call} {reason : Termination}
    (h : Check deadline check (some reason)) :
    Records (w.recorded.stop program reason) (w.stop program reason) fun calls k =>
      Look program deadline (check ++ calls) (some k) :=
  (records_stop w program reason).mono fun _ _ ⟨hreason, result, hcalls⟩ =>
    hcalls ▸ .hit (hreason ▸ h) result

theorem records_review (deadline : Option Nat) (kill : Option Kill) (count : Nat) :
    Records (w.recorded.review program deadline kill count) (w.review program deadline kill count)
      (Review program deadline kill count) := by
  cases kill with
  | none =>
    refine (records_stopReason w deadline).bind fun check reason? hcheck => ?_
    cases reason? with
    | none => exact .pure (by simpa using Review.looked (.clear hcheck))
    | some reason =>
      refine (records_stop_of_check w program hcheck).bind fun calls k hlook => .pure ?_
      simpa using Review.looked hlook
  | some k =>
    refine Records.ask fun now => ?_
    by_cases h : k.time + grace ≤ now
    · simp only [h, if_true]
      exact Records.tell (.pure (.graceOver h))
    · simp only [h, if_false]
      exact .pure (.draining (Nat.lt_of_not_le h))

theorem records_exited (kill : Option Kill) (count : Nat) (exitCode : Option Nat) :
    Records (w.recorded.exited program kill count exitCode) (w.exited program kill count exitCode)
      fun calls p =>
        calls = [.logged (.programFinished program (exited.exitWord exitCode))] ∧
        p = .done (.finished ⟨exitCode, count, (kill.map Kill.reason).getD .exited⟩) :=
  Records.tell (.pure ⟨rfl, rfl⟩)

theorem records_forwarding (deadline : Option Nat) (kill : Option Kill) (count : Nat) :
    Records (w.recorded.step program deadline (.forwarding kill count))
      (w.step program deadline (.forwarding kill count))
      (Turn program deadline (.forwarding kill count)) := by
  refine Records.ask fun receipt => ?_
  cases receipt with
  | closed => exact .pure .closed
  | nothing => exact (records_review w program deadline kill count).mono fun _ _ h => .nothing h
  | chunk c =>
    refine Records.ask fun result => ?_
    cases result with
    | error reason =>
      refine Records.ask fun _ => Records.ask fun _ => ?_
      exact .pure .broken
    | ok _ => exact (records_review w program deadline kill _).mono fun _ _ h => .chunk h

theorem records_reaping (deadline : Option Nat) (kill : Option Kill) (count : Nat) :
    Records (w.recorded.step program deadline (.reaping kill count))
      (w.step program deadline (.reaping kill count))
      (Turn program deadline (.reaping kill count)) := by
  cases kill with
  | some k =>
    refine Records.ask fun result => ?_
    cases result with
    | error reason => exact .pure .unreaped
    | ok exitCode =>
      refine (records_exited w program (some k) count exitCode).mono ?_
      rintro _ _ ⟨rfl, rfl⟩
      exact .reaped
  | none =>
    refine Records.ask fun result => ?_
    match result with
    | .error reason => exact .pure .unpolled
    | .ok (some exitCode) =>
      refine (records_exited w program none count exitCode).mono ?_
      rintro _ _ ⟨rfl, rfl⟩
      exact .exited
    | .ok none =>
      refine (records_stopReason w deadline).bind fun check reason? hcheck => ?_
      cases reason? with
      | none =>
        exact Records.tell (.pure (.paused (.clear hcheck)))
      | some reason =>
        refine (records_stop_of_check w program hcheck).bind fun calls k hlook => .pure ?_
        simpa using Turn.stopped hlook

theorem records_run (deadline : Option Nat) (n : Nat) (p : Phase) :
    Records (w.recorded.run program deadline n p) (w.run program deadline n p)
      (Course program deadline p) := by
  induction n generalizing p with
  | zero => exact .pure (.stay p)
  | succ n ih =>
    cases p with
    | done e => exact .pure (.stay _)
    | forwarding kill count =>
      exact (records_forwarding w program deadline kill count).bind fun _ q hturn =>
        (ih q).mono fun _ _ course => .turn hturn course
    | reaping kill count =>
      exact (records_reaping w program deadline kill count).bind fun _ q hturn =>
        (ih q).mono fun _ _ course => .turn hturn course

theorem records_deadline (timeout : Option Nat) :
    Records (w.recorded.deadline timeout) (w.deadline timeout) (Opening timeout) := by
  cases timeout with
  | none => exact .pure .unlimited
  | some length =>
    refine Records.ask fun now => .pure ?_
    by_cases h : (now + length) / 1000 ≤ lastSecond
    · simpa only [h, if_true] using Opening.limited h
    · simpa only [h, if_false] using Opening.beyond h

theorem records_supervise (steps : Nat) (timeout : Option Nat) :
    Records (w.recorded.supervise steps program timeout) (w.supervise steps program timeout)
      (Supervised program timeout) := by
  refine (records_deadline w timeout).bind fun opening deadline? hopening => ?_
  cases deadline? with
  | none => exact .pure (by simpa using Supervised.crashed hopening)
  | some deadline =>
    exact (records_run w program deadline steps _).mono fun _ _ course => .run hopening course

end Steps

variable (w : World σ) (steps : Nat) (program : Text) (timeout : Option Nat) (s : σ)

/-- A record changes nothing. -/
theorem supervise_recorded : w.recorded.supervise steps program timeout (s, []) =
    ((w.supervise steps program timeout s).1, (w.supervise steps program timeout s).2,
      w.calls steps program timeout s) := by
  obtain ⟨new, heq, -⟩ := records_supervise w program steps timeout s []
  rw [calls, heq]

/-- Every run goes from turn to turn. -/
theorem supervised : Supervised program timeout (w.calls steps program timeout s)
    (w.supervise steps program timeout s).1 := by
  obtain ⟨new, heq, hnew⟩ := records_supervise w program steps timeout s []
  rwa [calls, heq]

variable {program} {deadline : Option Nat}

/-- What every turn keeps, given the calls before it, holds all the way. -/
theorem Course.invariant {Inv : List Call → Phase → Prop}
    (hturn : ∀ {before p new q}, Inv before p → Turn program deadline p new q → Inv (before ++ new) q)
    {p q : Phase} {calls : List Call} (course : Course program deadline p calls q) :
    ∀ before, Inv before p → Inv (before ++ calls) q := by
  induction course with
  | stay p => exact fun before h => by simpa using h
  | turn h _ ih => exact fun before hp => by simpa using ih _ (hturn hp h)

end Snippetry.World
