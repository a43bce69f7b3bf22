import Snippetry.Run.Emission
import Snippetry.Run.Supervise

/-! # Playback: a timeline as the world of a supervisor -/
namespace Snippetry

structure Playback where
  timeline : Timeline
  reading : Reading
  /-- The chunks still to come, with their times. -/
  awaited : List (Nat × Chunk)
  delivered : Nat
  clock : Nat
  cancelled : Bool
  /-- The latest one comes first. -/
  emissions : List Emission

/-- How long the supervisor waits for output at a time, and between looks at the process. -/
def poll : Nat := 20

namespace Playback

def start (reading : Reading) (cancelled : Bool) (timeline : Timeline) : Playback :=
  ⟨timeline, reading, reading.arrivals timeline.closing [] timeline.writes, 0, 0, cancelled, []⟩

def receive (p : Playback) : Receipt × Playback :=
  match p.awaited with
  | (time, c) :: awaited =>
    if time ≤ p.clock + poll then
      (.chunk c,
        { p with awaited, delivered := p.delivered + 1, clock := max p.clock time })
    else (.nothing, { p with clock := p.clock + poll })
  | [] =>
    if p.timeline.closing ≤ p.clock + poll then
      (.closed, { p with clock := max p.clock p.timeline.closing })
    else (.nothing, { p with clock := p.clock + poll })

def kill (p : Playback) : Playback :=
  let killed := p.timeline.killAt p.clock
  let timeline := if p.reading = .together then killed.onTerminal else killed
  { p with
    timeline
    awaited := (p.reading.arrivals timeline.closing [] timeline.writes).drop p.delivered }

def world : World Playback where
  receive := receive
  write c := fun p => (.ok (), { p with emissions := .wrote c :: p.emissions })
  now := fun p => (p.clock, p)
  isCancelled := fun p => (p.cancelled, p)
  kill := fun p => (.ok (), p.kill)
  wait := fun p => (.ok p.timeline.exitCode, { p with clock := max p.clock p.timeline.exitTime })
  tryWait := fun p =>
    (.ok (if p.timeline.exitTime ≤ p.clock then some p.timeline.exitCode else none), p)
  pause := fun p => ((), { p with clock := p.clock + poll })
  log e := fun p => ((), { p with emissions := .logged e :: p.emissions })

/-- When the streams are closed and the process is gone. -/
def last (p : Playback) : Nat := max p.timeline.closing p.timeline.exitTime

/-- As many steps as a supervisor can take: for what there is to receive, before the process is
killed and after it, and for the time until all is over. -/
def steps (p : Playback) : Nat :=
  p.awaited.length + p.timeline.volume + p.last + grace + 5

end Playback

/-- Supervise a timeline to its end. -/
def Timeline.supervised (t : Timeline) (reading : Reading) (program : Text) (timeout : Option Nat)
    (cancelled : Bool) : Ending × List Emission :=
  let p := Playback.start reading cancelled t
  match Playback.world.supervise p.steps program timeout p with
  | (.done e, p) => (e, p.emissions.reverse)
  | (_, p) => (.crashed, p.emissions.reverse)

end Snippetry
