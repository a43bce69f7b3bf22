import Snippetry.Proofs.Run.Pipe
import Snippetry.Run.Playback

/-! # No output is lost, doubled or reordered on its way

The supervisor writes each chunk right after it has received it. It stops to receive when the streams
are closed, and otherwise only after a kill; so what a process wrote that exited by itself arrives as
a whole, however the streams were read and in whatever order things happened. -/
namespace Snippetry

def Phase.stderrBytes? : Phase → Option Nat
  | .forwarding _ count | .reaping _ count => some count
  | .done (.finished o) => some o.stderrBytes
  | .done _ => none

def Phase.kill? : Phase → Option Kill
  | .forwarding kill _ | .reaping kill _ => kill
  | .done _ => none

/-- The output has come to its end, and no limit was hit before. -/
def Phase.IsDrained : Phase → Prop
  | .reaping none _ => True
  | .done (.finished o) => o.termination = .exited
  | _ => False

namespace World

def Call.IsSilent : Call → Prop
  | .received (.chunk _) | .wrote _ _ => False
  | _ => True

/-- Each chunk is written right after it was received, and nothing else is. -/
inductive Echoes : List Call → Prop
  | nil : Echoes []
  | silent {call : Call} {rest : List Call} (h : call.IsSilent) (hrest : Echoes rest) :
      Echoes (call :: rest)
  | echo (c : Chunk) (result : Except Text Unit) {rest : List Call} (hrest : Echoes rest) :
      Echoes (.received (.chunk c) :: .wrote c result :: rest)

section Echoes

variable {calls rest front : List Call}

theorem Echoes.of_silent (h : ∀ call ∈ calls, call.IsSilent) : Echoes calls := by
  induction calls with
  | nil => exact .nil
  | cons call calls ih =>
    obtain ⟨hcall, hcalls⟩ := List.forall_mem_cons.mp h
    exact .silent hcall (ih hcalls)

theorem Echoes.append (h : Echoes calls) (hrest : Echoes rest) : Echoes (calls ++ rest) := by
  induction h with
  | nil => exact hrest
  | silent hcall _ ih => exact .silent hcall ih
  | echo c result _ ih => exact .echo c result ih

theorem written_of_silent (h : ∀ call ∈ calls, call.IsSilent) : written calls = [] := by
  refine List.filterMap_eq_nil_iff.mpr fun call hmem => ?_
  have hsilent := h call hmem
  cases call <;> simp_all [Call.IsSilent]

theorem written_silent_cons {call : Call} (h : call.IsSilent) :
    written (call :: rest) = written rest := by
  have hcall : written [call] = [] := written_of_silent (by simpa using h)
  rw [← List.singleton_append, written_append, hcall, List.nil_append]

theorem received_silent_cons {call : Call} (h : call.IsSilent) :
    received (call :: rest) = received rest := by
  cases call with
  | received receipt => cases receipt <;> simp_all [Call.IsSilent, received]
  | _ => rfl

theorem Echoes.written_eq (h : Echoes calls)
    (hok : ∀ c result, .wrote c result ∈ calls → result = .ok ()) : written calls = received calls := by
  induction h with
  | nil => rfl
  | silent hcall _ ih =>
    rw [written_silent_cons hcall, received_silent_cons hcall]
    exact ih fun c result hmem => hok c result (List.mem_cons_of_mem _ hmem)
  | echo c result _ ih =>
    obtain rfl := hok c result (by simp)
    have hrest := ih fun d result hmem => hok d result (by simp [hmem])
    simpa [written, received] using hrest

/-- At no time was anything written but the beginning of what was received. -/
theorem Echoes.written_isPrefix (h : Echoes calls) (hfront : front <+: calls)
    (hok : ∀ c result, .wrote c result ∈ front → result = .ok ()) :
    written front <+: received front := by
  induction h generalizing front with
  | nil => simp [List.prefix_nil.mp hfront, written]
  | silent hcall _ ih =>
    rcases List.prefix_cons_iff.mp hfront with rfl | ⟨front, rfl, hrest⟩
    · simp [written]
    · rw [written_silent_cons hcall, received_silent_cons hcall]
      exact ih hrest fun c result hmem => hok c result (List.mem_cons_of_mem _ hmem)
  | echo c result _ ih =>
    rcases List.prefix_cons_iff.mp hfront with rfl | ⟨_, rfl, hsecond⟩
    · simp [written]
    rcases List.prefix_cons_iff.mp hsecond with rfl | ⟨front, rfl, hrest⟩
    · simp [written]
    obtain rfl := hok c result (by simp)
    have hwritten := ih hrest fun d result hmem => hok d result (by simp [hmem])
    simpa [written, received] using hwritten

end Echoes

section Silent

variable {program : Text} {deadline : Option Nat} {new : List Call}

theorem Call.IsLook.isSilent {call : Call} (h : call.IsLook) : call.IsSilent := by
  cases call <;> simp_all [Call.IsLook, Call.IsSilent]

theorem Look.isSilent {kill : Option Kill} (h : Look program deadline new kill) :
    ∀ call ∈ new, call.IsSilent := by
  cases h with
  | clear h => exact fun call hmem => (h.isLook call hmem).isSilent
  | hit h result =>
    refine List.forall_mem_append.mpr ⟨fun call hmem => (h.isLook call hmem).isSilent, ?_⟩
    simp [stopping, Call.IsSilent]

theorem Look.ne_exited {k : Kill} (h : Look program deadline new (some k)) : k.reason ≠ .exited := by
  cases h with
  | hit h => exact h.ne_exited

end Silent

structure Forwards (calls : List Call) (p : Phase) : Prop where
  echoes : Echoes calls
  counted : ∀ count, p.stderrBytes? = some count → (bytesOn .err (written calls)).length = count
  forced : ∀ k, p.kill? = some k → k.reason ≠ .exited
  drained : p.IsDrained → .received .closed ∈ calls

namespace Forwards

variable {program : Text} {deadline : Option Nat} {calls new : List Call} {p q : Phase}

theorem start : Forwards [] (.forwarding none 0) where
  echoes := .nil
  counted := by simp [Phase.stderrBytes?, written]
  forced := by simp [Phase.kill?]
  drained := by simp [Phase.IsDrained]

theorem silent (h : Forwards calls p) (hnew : ∀ call ∈ new, call.IsSilent)
    (hcount : ∀ count, q.stderrBytes? = some count → p.stderrBytes? = some count)
    (hforced : ∀ k, q.kill? = some k → k.reason ≠ .exited)
    (hdrained : q.IsDrained → p.IsDrained ∨ .received .closed ∈ new) :
    Forwards (calls ++ new) q where
  echoes := h.echoes.append (.of_silent hnew)
  counted count hq := by
    rw [written_append, written_of_silent hnew, List.append_nil]
    exact h.counted count (hcount count hq)
  forced := hforced
  drained hq := List.mem_append.mpr ((hdrained hq).imp_left h.drained)

theorem chunk {kill : Option Kill} {count : Nat} (h : Forwards calls (.forwarding kill count))
    (c : Chunk) : Forwards (calls ++ [.received (.chunk c), .wrote c (.ok ())])
      (.forwarding kill (count + if c.stream = .err then c.bytes.length else 0)) where
  echoes := h.echoes.append (.echo c _ .nil)
  counted total hq := by
    have hcount := h.counted count rfl
    obtain rfl : _ = total := Option.some.inj hq
    have hc : bytesOn .err (written [.received (.chunk c), .wrote c (.ok ())]) =
        if c.stream = .err then c.bytes else [] := by simp [written, bytesOn]
    rw [written_append, bytesOn_append, List.length_append, hcount, hc]
    split <;> rfl
  forced := h.forced
  drained := by simp [Phase.IsDrained]

theorem review {kill : Option Kill} {count : Nat} (h : Forwards calls (.forwarding kill count))
    (hreview : Review program deadline kill count new p) : Forwards (calls ++ new) p := by
  cases hreview with
  | @looked _ kill _ hlook =>
    refine h.silent hlook.isSilent (fun _ => id) (fun k hk => ?_) (by simp [Phase.IsDrained])
    obtain rfl : kill = some k := hk
    exact hlook.ne_exited
  | draining | graceOver =>
    exact h.silent (by simp [Call.IsSilent]) (fun _ => id) h.forced (by simp [Phase.IsDrained])

/-- A step goes on forwarding. -/
theorem turn (h : Forwards calls p) (hturn : Turn program deadline p new q) :
    Forwards (calls ++ new) q := by
  cases hturn with
  | closed =>
    exact h.silent (by simp [Call.IsSilent]) (fun _ => id) h.forced (by simp)
  | nothing hreview =>
    rw [List.append_cons]
    refine Forwards.review ?_ hreview
    exact h.silent (by simp [Call.IsSilent]) (fun _ => id) h.forced (by simp [Phase.IsDrained])
  | @chunk _ _ c _ _ hreview => simpa using (h.chunk c).review hreview
  | broken =>
    refine ⟨h.echoes.append (.echo _ _ (.of_silent (by simp [Call.IsSilent]))), ?_, ?_, ?_⟩
    all_goals simp [Phase.stderrBytes?, Phase.kill?, Phase.IsDrained]
  | reaped =>
    refine h.silent (by simp [finishing, Call.IsSilent]) (fun _ => id) (by simp [Phase.kill?]) ?_
    exact fun hexited => absurd hexited (h.forced _ rfl)
  | exited =>
    exact h.silent (by simp [finishing, Call.IsSilent]) (fun _ => id) (by simp [Phase.kill?])
      fun _ => .inl trivial
  | unreaped | unpolled =>
    refine h.silent (by simp [Call.IsSilent]) ?_ ?_ ?_
    all_goals simp [Phase.stderrBytes?, Phase.kill?, Phase.IsDrained]
  | paused hlook =>
    refine h.silent ?_ (fun _ => id) (by simp [Phase.kill?]) fun _ => .inl trivial
    simpa [Call.IsSilent, or_imp, forall_and] using hlook.isSilent
  | @stopped k _ _ hlook =>
    refine h.silent ?_ (fun _ => id) (fun k' hk => ?_) (by simp [Phase.IsDrained])
    · simpa [Call.IsSilent] using hlook.isSilent
    · obtain rfl : k = k' := Option.some.inj hk
      exact hlook.ne_exited

end Forwards

theorem Supervised.forwards {program : Text} {timeout : Option Nat} {calls : List Call} {p : Phase}
    (h : Supervised program timeout calls p) : Forwards calls p := by
  have opened {opening : List Call} {deadline? : Option (Option Nat)}
      (hopening : Opening timeout opening deadline?) : Forwards opening (.forwarding none 0) :=
    Forwards.start.silent (fun call hmem => (hopening.isLook call hmem).isSilent) (fun _ => id)
      Forwards.start.forced (by simp [Phase.IsDrained])
  cases h with
  | crashed hopening =>
    refine ⟨(opened hopening).echoes, ?_, ?_, ?_⟩
    all_goals simp [Phase.stderrBytes?, Phase.kill?, Phase.IsDrained]
  | run hopening course => exact course.invariant Forwards.turn _ (opened hopening)

/-- Let two streams come in any pieces, and the readers move at any time between the calls of a
supervisor. Then at each moment the beginnings of the streams are written. Each outcome counts the
bytes of standard error that were written, and if the process exited by itself these are the streams
as a whole. -/
theorem forwarded_of_supervise {σ : Type} (w : World σ) (steps : Nat) (program : Text)
    (timeout : Option Nat) (s : σ) :
    (∀ pieces calls p, (Pipe.start pieces).Follows calls p →
      calls <+: w.calls steps program timeout s →
      ∀ stream, bytesOn stream (written calls) <+: (pieces stream).flatten) ∧
    ∀ o, (w.supervise steps program timeout s).1 = .done (.finished o) →
      o.stderrBytes = (bytesOn .err (written (w.calls steps program timeout s))).length ∧
      (o.termination = .exited → ∀ pieces p,
        (Pipe.start pieces).Follows (w.calls steps program timeout s) p →
        (∀ stream, bytesOn stream (written (w.calls steps program timeout s)) =
          (pieces stream).flatten) ∧
        o.stderrBytes = (pieces .err).flatten.length) := by
  have hforwards := (w.supervised steps program timeout s).forwards
  generalize (w.supervise steps program timeout s).1 = phase at hforwards ⊢
  generalize w.calls steps program timeout s = all at hforwards ⊢
  refine ⟨fun pieces calls p hfollows hcalls stream => ?_, ?_⟩
  · have flow := Flow.start.follows hfollows
    have hwritten := hforwards.echoes.written_isPrefix hcalls flow.succeeded
    exact (bytesOn_isPrefix hwritten).trans (flow.received_isPrefix stream)
  · rintro o rfl
    have hcount := hforwards.counted o.stderrBytes rfl
    refine ⟨hcount.symm, fun hexited pieces p hfollows => ?_⟩
    have flow := Flow.start.follows hfollows
    have hall (stream : Stream) : bytesOn stream (written all) = (pieces stream).flatten := by
      rw [hforwards.echoes.written_eq flow.succeeded]
      exact flow.received_eq (hforwards.drained hexited) stream
    exact ⟨hall, by rw [← hall, hcount]⟩

def brief : Playback :=
  .start .apart false
    ⟨[⟨0, .out, [97, 98, 10, 99], 0, false⟩, ⟨0, .err, [120], 0, false⟩], [], 0, some 0⟩

def briefCalls : List Call :=
  [.received (.chunk ⟨.out, [97, 98, 10]⟩), .wrote ⟨.out, [97, 98, 10]⟩ (.ok ()), .checked false,
    .received (.chunk ⟨.err, [120]⟩), .wrote ⟨.err, [120]⟩ (.ok ()), .checked false,
    .received (.chunk ⟨.out, [99]⟩), .wrote ⟨.out, [99]⟩ (.ok ()), .checked false,
    .received .closed] ++ finishing "sh" (.polled (.ok (some (some 0)))) (some 0)

def briefPieces : Stream → List Bytes
  | .out => [[97], [98, 10, 99]]
  | .err => [[120]]

theorem follows_brief : ∃ p, (Pipe.start briefPieces).Follows briefCalls p := ⟨_,
  .move (.reader .out (.read [97] [[98, 10, 99]] [])) <|
  .move (.reader .out (.read [98, 10, 99] [] [97])) <|
  .move (.reader .out (.send [] [99] ⟨.out, [97, 98, 10]⟩ [])) <|
  .call (.chunk _ _ _) <| .call (.wrote _ _) <| .call (.aside _ trivial) <|
  .move (.reader .err (.read [120] [] [])) <|
  .move (.reader .out (.close [99])) <|
  .move (.reader .err (.send [] [] ⟨.err, [120]⟩ [])) <|
  .move (.reader .out (.send [] [] ⟨.out, [99]⟩ [])) <|
  .call (.chunk _ _ _) <| .call (.wrote _ _) <| .call (.aside _ trivial) <|
  .move (.reader .err .leave) <| .move (.reader .out .leave) <|
  .call (.chunk _ _ _) <| .call (.wrote _ _) <| .call (.aside _ trivial) <|
  .call (.closed _ rfl fun stream => by cases stream <;> rfl) <|
  .call (.aside _ trivial) <| .call (.aside _ trivial) <| .stay _⟩

theorem forwarded_brief :
    Playback.world.calls 20 "sh" none brief = briefCalls ∧
    (Playback.world.supervise 20 "sh" none brief).1 = .done (.finished ⟨some 0, 1, .exited⟩) ∧
    bytesOn .out (written briefCalls) <+: [97, 98, 10, 99] ∧
    bytesOn .out (written briefCalls) = [97, 98, 10, 99] ∧
    bytesOn .err (written briefCalls) = [120] := by
  have hcalls : Playback.world.calls 20 "sh" none brief = briefCalls := by decide +kernel
  have hexited : (Playback.world.supervise 20 "sh" none brief).1 =
      .done (.finished ⟨some 0, 1, .exited⟩) := by decide +kernel
  obtain ⟨p, hfollows⟩ := follows_brief
  have forwarded := forwarded_of_supervise Playback.world 20 "sh" none brief
  rw [hcalls] at forwarded
  have hprefix := forwarded.1 briefPieces briefCalls p hfollows List.prefix_rfl .out
  obtain ⟨hall, -⟩ := (forwarded.2 _ hexited).2 rfl briefPieces p hfollows
  exact ⟨hcalls, hexited, hprefix, hall .out, hall .err⟩

end World
end Snippetry
