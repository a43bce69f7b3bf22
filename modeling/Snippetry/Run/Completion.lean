import Snippetry.Run.Playback

/-! # Playback to the end

Each step of a supervisor takes a chunk off what there is to receive, or lets time go by, and neither
can go on for ever. After a kill what is still to be received is as much as ever, but there is no more
time for it than the grace. -/
namespace Snippetry

namespace Reading

theorem length_readLines (held piece : Bytes) : (readLines held piece).1.length ≤ piece.length := by
  induction piece generalizing held with
  | nil => exact Nat.le_refl 0
  | cons b piece ih =>
    unfold readLines
    split
    · exact Nat.succ_le_succ (ih [])
    · exact Nat.le_succ_of_le (ih _)

theorem length_lastChunk (held : Bytes) : (lastChunk held).length ≤ 1 := by
  unfold lastChunk
  split
  · exact Nat.zero_le 1
  · exact Nat.le_refl 1

theorem length_chunks (r : Reading) (held : Bytes) (w : Write) :
    (r.chunks held w).1.length ≤ w.bytes.length + 1 := by
  unfold chunks
  split
  · exact Nat.le_add_left 1 _
  · exact Nat.le_add_left 1 _
  · simpa using Nat.le_succ_of_le (length_readLines held w.bytes)

theorem length_arrivals (r : Reading) (closing : Nat) (held : Bytes) (writes : List Write) :
    (r.arrivals closing held writes).length ≤
      (writes.flatMap Write.bytes).length + writes.length + 1 := by
  induction writes generalizing held with
  | nil => simpa [arrivals] using length_lastChunk held
  | cons w writes ih =>
    have hfirst := r.length_chunks held w
    have hrest := ih (r.chunks held w).2
    simp only [arrivals, List.length_append, List.length_map, List.flatMap_cons, List.length_cons]
    omega

theorem time_le_of_mem_arrivals {r : Reading} {closing : Nat} {writes : List Write}
    (h : ∀ w ∈ writes, w.time ≤ closing) {held : Bytes} {a : Nat × Chunk}
    (ha : a ∈ r.arrivals closing held writes) : a.1 ≤ closing := by
  induction writes generalizing held with
  | nil =>
    obtain ⟨bytes, -, rfl⟩ := List.mem_map.mp ha
    exact Nat.le_refl closing
  | cons w writes ih =>
    rcases List.mem_append.mp ha with ha | ha
    · obtain ⟨c, -, rfl⟩ := List.mem_map.mp ha
      exact h w List.mem_cons_self
    · exact ih (fun v hv => h v (List.mem_cons_of_mem w hv)) ha

end Reading

namespace Timeline

theorem le_foldl_max (f : Write → Nat) (writes : List Write) (start : Nat) :
    start ≤ writes.foldl (fun latest w => max latest (f w)) start ∧
      ∀ w ∈ writes, f w ≤ writes.foldl (fun latest w => max latest (f w)) start := by
  induction writes generalizing start with
  | nil => exact ⟨Nat.le_refl start, nofun⟩
  | cons w writes ih =>
    obtain ⟨hstart, hrest⟩ := ih (max start (f w))
    have hw : f w ≤ writes.foldl (fun latest w => max latest (f w)) (max start (f w)) :=
      Nat.le_trans (Nat.le_max_right start (f w)) hstart
    exact ⟨Nat.le_trans (Nat.le_max_left start (f w)) hstart, List.forall_mem_cons.mpr ⟨hw, hrest⟩⟩

theorem time_le_closing (t : Timeline) : ∀ w ∈ t.writes, w.time ≤ t.closing :=
  (le_foldl_max Write.time t.writes _).2

theorem volume_filter_le (p : Write → Bool) (writes : List Write) :
    ((writes.filter p).flatMap Write.bytes).length + (writes.filter p).length ≤
      (writes.flatMap Write.bytes).length + writes.length := by
  induction writes with
  | nil => exact Nat.le_refl 0
  | cons w writes ih =>
    rw [List.filter_cons]
    split <;> simp only [List.flatMap_cons, List.length_append, List.length_cons] <;> omega

theorem volume_killAt (t : Timeline) (time : Nat) : (t.killAt time).volume ≤ t.volume := by
  unfold killAt
  split
  · exact Nat.le_refl _
  · exact Nat.succ_le_succ (volume_filter_le _ t.writes)

theorem volume_onTerminal (t : Timeline) : t.onTerminal.volume ≤ t.volume := by
  simp only [volume, onTerminal, List.flatMap_map, List.length_map]
  exact Nat.succ_le_succ (volume_filter_le _ t.writes)

end Timeline

namespace Playback

theorem length_awaited_kill (p : Playback) : p.kill.awaited.length ≤ p.timeline.volume := by
  have hkilled := p.timeline.volume_killAt p.clock
  have hterminal := (p.timeline.killAt p.clock).volume_onTerminal
  have harrivals := p.reading.length_arrivals p.kill.timeline.closing [] p.kill.timeline.writes
  have hvolume : p.kill.timeline.volume ≤ p.timeline.volume := by
    unfold kill
    dsimp only
    split
    · exact Nat.le_trans hterminal hkilled
    · exact hkilled
  have hdrop : p.kill.awaited.length ≤
      (p.reading.arrivals p.kill.timeline.closing [] p.kill.timeline.writes).length := by
    simp only [kill, List.length_drop]
    exact Nat.sub_le _ _
  exact Nat.le_trans hdrop (Nat.le_trans harrivals hvolume)

/-- All is over by a time, and so much can arrive. -/
structure Bounded (last volume : Nat) (p : Playback) : Prop where
  awaited : ∀ a ∈ p.awaited, a.1 ≤ last
  closing : p.timeline.closing ≤ last
  exitTime : p.timeline.exitTime ≤ last
  volume : p.timeline.volume ≤ volume

theorem bounded_start (reading : Reading) (cancelled : Bool) (t : Timeline) :
    Bounded (start reading cancelled t).last t.volume (start reading cancelled t) where
  awaited _ ha := Nat.le_trans (Reading.time_le_of_mem_arrivals t.time_le_closing ha)
    (Nat.le_max_left t.closing t.exitTime)
  closing := Nat.le_max_left t.closing t.exitTime
  exitTime := Nat.le_max_right t.closing t.exitTime
  volume := Nat.le_refl t.volume

/-- What stays true from phase to phase. -/
def Underway (last volume : Nat) : Phase → Playback → Prop
  | .forwarding none _, p => p.Bounded last volume
  | .forwarding (some k) _, p => p.clock < k.time + grace
  | .reaping _ _, _ => True
  | .done e, _ => e ≠ .crashed

/-- At most so many steps are still to be taken. -/
def stepsLeft (last volume : Nat) : Phase → Playback → Nat
  | .forwarding none _, p => p.awaited.length + volume + (last - p.clock) + grace + 5
  | .forwarding (some k) _, p => p.awaited.length + (k.time + grace - p.clock) + 2
  | .reaping none _, p => p.timeline.exitTime - p.clock + 2
  | .reaping (some _) _, _ => 1
  | .done _, _ => 0

section Steps

variable (program : Text) (deadline : Option Nat) (count last volume : Nat) (p : Playback)

/-- The process is killed at the time that the clock shows. -/
def stopped (reason : Termination) : Playback :=
  { p with emissions := .logged (.killing program reason.word) :: p.emissions }.kill

theorem stopReason_world : ∃ reason, world.stopReason deadline p = (reason, p) := by
  simp only [World.stopReason, world, bind, StateT.bind]
  split
  · exact ⟨_, rfl⟩
  · cases deadline <;> exact ⟨_, rfl⟩

theorem stop_world (reason : Termination) :
    world.stop program reason p = (⟨reason, p.clock⟩, p.stopped program reason) := rfl

theorem review_none : world.review program deadline none count p = (.forwarding none count, p) ∨
    ∃ reason, world.review program deadline none count p =
      (.forwarding (some ⟨reason, p.clock⟩) count, p.stopped program reason) := by
  obtain ⟨reason, hreason⟩ := stopReason_world deadline p
  simp only [World.review, bind, StateT.bind, hreason]
  cases reason with
  | none => exact .inl rfl
  | some reason => exact .inr ⟨reason, rfl⟩

theorem review_some (k : Kill) : (k.time + grace ≤ p.clock ∧ ∃ p',
      world.review program deadline (some k) count p = (.reaping (some k) count, p')) ∨
    (p.clock < k.time + grace ∧
      world.review program deadline (some k) count p = (.forwarding (some k) count, p)) := by
  simp only [World.review, world, bind, StateT.bind]
  by_cases h : k.time + grace ≤ p.clock
  · exact .inl ⟨h, _, by simp [h]; rfl⟩
  · exact .inr ⟨Nat.lt_of_not_le h, by simp [h]; rfl⟩

/-- What comes of waiting for output is one of three things. -/
theorem receive_cases :
    (∃ time c rest, p.awaited = (time, c) :: rest ∧ p.receive =
      (.chunk c, { p with awaited := rest, delivered := p.delivered + 1, clock := max p.clock time })) ∨
    (p.receive = (.nothing, { p with clock := p.clock + poll }) ∧
      ((∃ a ∈ p.awaited, p.clock + poll < a.1) ∨ p.clock + poll < p.timeline.closing)) ∨
    p.receive = (.closed, { p with clock := max p.clock p.timeline.closing }) := by
  unfold receive
  split
  · next time c rest hawaited =>
    split
    · exact .inl ⟨time, c, rest, hawaited, rfl⟩
    · next hlate =>
      have hmem : (time, c) ∈ p.awaited := hawaited ▸ List.mem_cons_self
      exact .inr (.inl ⟨rfl, .inl ⟨_, hmem, Nat.lt_of_not_le hlate⟩⟩)
  · split
    · exact .inr (.inr rfl)
    · next hlate => exact .inr (.inl ⟨rfl, .inr (Nat.lt_of_not_le hlate)⟩)

/-- A step of a supervisor leaves fewer steps. -/
def Advances (last volume left : Nat) (next : Phase × Playback) : Prop :=
  stepsLeft last volume next.1 next.2 < left ∧ Underway last volume next.1 next.2

variable {last volume p}

theorem Bounded.advances_review (h : p.Bounded last volume) {left : Nat}
    (hleft : stepsLeft last volume (.forwarding none count) p < left) :
    Advances last volume left (world.review program deadline none count p) := by
  rcases review_none program deadline count p with hreview | ⟨reason, hreview⟩
  · rw [hreview]
    exact ⟨hleft, h⟩
  · have hawaited : (p.stopped program reason).awaited.length ≤ volume :=
      Nat.le_trans (length_awaited_kill _) h.volume
    have hclock : (p.stopped program reason).clock = p.clock := rfl
    rw [hreview]
    simp only [Advances, stepsLeft, Underway, hclock] at hleft ⊢
    exact ⟨by omega, by simp [grace]⟩

theorem advances_review_some (k : Kill) {left : Nat} (hone : 1 < left)
    (hleft : p.clock < k.time + grace → stepsLeft last volume (.forwarding (some k) count) p < left) :
    Advances last volume left (world.review program deadline (some k) count p) := by
  rcases review_some program deadline count p k with ⟨-, p', hreview⟩ | ⟨hclock, hreview⟩
  · rw [hreview]
    exact ⟨hone, trivial⟩
  · rw [hreview]
    exact ⟨hleft hclock, hclock⟩

theorem step_forwarding (kill : Option Kill) :
    world.step program deadline (.forwarding kill count) p = match p.receive with
      | (.closed, p') => (.reaping kill count, p')
      | (.nothing, p') => world.review program deadline kill count p'
      | (.chunk c, p') =>
        world.review program deadline kill (count + if c.stream = .err then c.bytes.length else 0)
          { p' with emissions := .wrote c :: p'.emissions } := by
  have hreceive : world.receive p = p.receive := rfl
  simp only [World.step, bind, StateT.bind, hreceive]
  rcases p.receive with ⟨_ | _ | _, p'⟩ <;> rfl

theorem Bounded.advances_forwarding (h : p.Bounded last volume) :
    Advances last volume (stepsLeft last volume (.forwarding none count) p)
      (world.step program deadline (.forwarding none count) p) := by
  rw [step_forwarding]
  rcases receive_cases p with ⟨time, c, rest, hawaited, hp⟩ | ⟨hp, hlate⟩ | hp
  · have hrest : ∀ a ∈ rest, a.1 ≤ last := fun a ha =>
      h.awaited a (hawaited ▸ List.mem_cons_of_mem _ ha)
    rw [hp]
    refine Bounded.advances_review program deadline _ ?_ ?_
    · exact ⟨hrest, h.closing, h.exitTime, h.volume⟩
    · simp only [stepsLeft, hawaited, List.length_cons]
      omega
  · have hlast : p.clock + poll < last := by
      rcases hlate with ⟨a, ha, hlate⟩ | hlate
      · exact Nat.lt_of_lt_of_le hlate (h.awaited a ha)
      · exact Nat.lt_of_lt_of_le hlate h.closing
    rw [hp]
    refine Bounded.advances_review program deadline _ ?_ ?_
    · exact ⟨h.awaited, h.closing, h.exitTime, h.volume⟩
    · simp only [stepsLeft, poll] at hlast ⊢
      omega
  · have hexit := h.exitTime
    rw [hp]
    simp only [Advances, stepsLeft, Underway, and_true]
    omega

theorem advances_forwarding_some (k : Kill) (h : p.clock < k.time + grace) :
    Advances last volume (stepsLeft last volume (.forwarding (some k) count) p)
      (world.step program deadline (.forwarding (some k) count) p) := by
  rw [step_forwarding]
  rcases receive_cases p with ⟨time, c, rest, hawaited, hp⟩ | ⟨hp, -⟩ | hp
  · rw [hp]
    refine advances_review_some program deadline _ k ?_ fun _ => ?_
    · simp only [stepsLeft]
      omega
    · simp only [stepsLeft, hawaited, List.length_cons]
      omega
  · rw [hp]
    refine advances_review_some program deadline _ k ?_ fun _ => ?_
    · simp only [stepsLeft]
      omega
    · simp only [stepsLeft, poll]
      omega
  · rw [hp]
    simp only [Advances, stepsLeft, Underway, and_true]
    omega

theorem advances_reaping :
    Advances last volume (stepsLeft last volume (.reaping none count) p)
      (world.step program deadline (.reaping none count) p) := by
  obtain ⟨reason, hreason⟩ := stopReason_world deadline p
  by_cases hexit : p.timeline.exitTime ≤ p.clock
  · have hstep : ∃ p', world.step program deadline (.reaping none count) p =
        (.done (.finished ⟨p.timeline.exitCode, count, .exited⟩), p') := by
      simp only [World.step, world, bind, StateT.bind, if_pos hexit]
      exact ⟨_, rfl⟩
    obtain ⟨p', hstep⟩ := hstep
    rw [hstep]
    exact ⟨by simp [stepsLeft], by simp [Underway]⟩
  · have hstep : world.step program deadline (.reaping none count) p = match reason with
        | some reason => (.reaping (some ⟨reason, p.clock⟩) count, p.stopped program reason)
        | none => (.reaping none count, { p with clock := p.clock + poll }) := by
      have htry : world.tryWait p = (.ok none, p) := by simp only [world, if_neg hexit]
      simp only [World.step, bind, StateT.bind, htry, hreason]
      cases reason <;> rfl
    rw [hstep]
    cases reason with
    | none =>
      simp only [Advances, stepsLeft, Underway, poll, and_true]
      omega
    | some reason =>
      simp only [Advances, stepsLeft, Underway, and_true]
      omega

theorem advances_step {phase : Phase} (h : Underway last volume phase p)
    (hstays : ∀ e, phase ≠ .done e) :
    Advances last volume (stepsLeft last volume phase p) (world.step program deadline phase p) := by
  match phase, h with
  | .forwarding none count, h => exact h.advances_forwarding program deadline count
  | .forwarding (some k) count, h => exact advances_forwarding_some program deadline count k h
  | .reaping none count, _ => exact advances_reaping program deadline count
  | .reaping (some k) count, _ =>
    have hended : Ending.finished ⟨p.timeline.exitCode, count, k.reason⟩ ≠ .crashed := nofun
    exact ⟨Nat.zero_lt_one, hended⟩
  | .done e, _ => exact absurd rfl (hstays e)

/-- With as many steps as are left, or more, the run of a supervisor comes to an end. -/
theorem exists_done_run {phase : Phase} (h : Underway last volume phase p) {steps : Nat}
    (hsteps : stepsLeft last volume phase p ≤ steps) : ∃ e p', e ≠ .crashed ∧
      world.run program deadline steps phase p = (.done e, p') := by
  induction steps generalizing phase p with
  | zero =>
    match phase, h with
    | .done e, h => exact ⟨e, p, h, rfl⟩
    | .forwarding none _, _ | .forwarding (some _) _, _ | .reaping none _, _
    | .reaping (some _) _, _ => simp [stepsLeft] at hsteps
  | succ steps ih =>
    by_cases hdone : ∃ e, phase = .done e
    · obtain ⟨e, rfl⟩ := hdone
      exact ⟨e, p, h, rfl⟩
    · obtain ⟨hfewer, hnext⟩ := advances_step program deadline h fun e he => hdone ⟨e, he⟩
      obtain ⟨e, p', he, hrun⟩ := ih hnext (by omega)
      refine ⟨e, p', he, ?_⟩
      rw [World.run]
      · exact hrun
      · exact fun e he => hdone ⟨e, he⟩

end Steps

end Playback

/-- Supervision crashes only on a deadline that no clock can show. -/
theorem Timeline.lt_of_supervised_crashed {t : Timeline} {reading : Reading} {program : Text}
    {timeout : Option Nat} {cancelled : Bool}
    (h : (t.supervised reading program timeout cancelled).1 = .crashed) :
    ∃ length, timeout = some length ∧ lastSecond < length / 1000 := by
  have hunderway : Playback.Underway (Playback.start reading cancelled t).last t.volume
      (.forwarding none 0) (.start reading cancelled t) :=
    Playback.bounded_start reading cancelled t
  have hended (deadline : Option Nat) : ∃ e p', e ≠ .crashed ∧
      Playback.world.run program deadline (Playback.start reading cancelled t).steps
        (.forwarding none 0) (.start reading cancelled t) = (.done e, p') :=
    Playback.exists_done_run program deadline
      hunderway (Nat.le_refl _)
  have hdeadline (deadline : Option Nat)
      (hd : Playback.world.deadline timeout (.start reading cancelled t) =
        (some deadline, .start reading cancelled t)) :
      (t.supervised reading program timeout cancelled).1 ≠ .crashed := by
    obtain ⟨e, p', he, hrun⟩ := hended deadline
    rw [Timeline.supervised, Playback.world.supervise_of_deadline program _ _ hd, hrun]
    exact he
  cases timeout with
  | none => exact absurd h (hdeadline none rfl)
  | some length =>
    refine ⟨length, rfl, Nat.lt_of_not_le fun hle => hdeadline (some length) ?_ h⟩
    have hnow : (Playback.world.now (.start reading cancelled t)).1 + length = length := Nat.zero_add _
    have hd := Playback.world.deadline_of_le (.start reading cancelled t) (hnow.symm ▸ hle)
    rwa [hnow] at hd

end Snippetry
