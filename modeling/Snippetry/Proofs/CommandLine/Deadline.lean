import Snippetry.Proofs.CommandLine.Run

/-! # Time limits that no clock can show

The seconds that a command line or a configuration allows are added to the reading of a clock only once
the process runs. A sum beyond the last second that a clock can show brings the program down, and the
process is left alone; any other sum is the deadline. -/
namespace Snippetry

namespace World

variable {σ : Type} (w : World σ) (program : Text) (steps : Nat) (s : σ)

theorem run_ne_crashed (deadline : Option Nat) :
    (w.run program deadline steps (.forwarding none 0) s).1 ≠ .done .crashed := by
  obtain ⟨calls, -, course⟩ := w.records_run program deadline steps (.forwarding none 0) s []
  have story := course.story
  intro hcrashed
  rw [hcrashed] at story
  cases story

variable {length : Nat}

theorem calls_of_lt (h : lastSecond < ((w.now s).1 + length) / 1000) :
    w.calls steps program (some length) s = [.read (w.now s).1] := by
  have hnow : (w.recorded.now (s, [])).1 = (w.now s).1 := rfl
  have hdeadline := w.recorded.deadline_of_lt (s, []) (hnow.symm ▸ h)
  rw [calls, w.recorded.supervise_of_no_deadline program steps (s, []) hdeadline]
  rfl

theorem supervise_eq_crashed_iff :
    (w.supervise steps program (some length) s).1 = .done .crashed ↔
      lastSecond < ((w.now s).1 + length) / 1000 := by
  rcases Nat.lt_or_ge lastSecond (((w.now s).1 + length) / 1000) with h | h
  · rw [w.supervise_of_no_deadline program steps s (w.deadline_of_lt s h)]
    exact iff_of_true rfl h
  · rw [w.supervise_of_deadline program steps s (w.deadline_of_le s h)]
    exact iff_of_false (w.run_ne_crashed program steps _ _) (Nat.not_lt_of_le h)

end World

namespace CommandLine

open World

/-- A job with a time limit brings down the program just when the seconds allowed and those on the clock
are together more than a clock can show, and then the process is left alone. With fewer the deadline is
their sum. -/
theorem crashed_iff_of_prepare {args : RunArguments} {config : Config} {s : Snippet} {job : Job}
    (h : (args.options config).prepare s = .ok job) {σ : Type} (w : World σ) (steps : Nat)
    (state : σ) :
    ((w.supervise steps job.invocation.program job.timeout state).1 = .done .crashed ↔
      ∃ seconds, (args.timeout <|> config.timeoutSeconds) = some seconds ∧
        lastSecond < (w.now state).1 / 1000 + seconds) ∧
    (∀ seconds, (args.timeout <|> config.timeoutSeconds) = some seconds →
      if (w.now state).1 / 1000 + seconds ≤ lastSecond then
        w.supervise steps job.invocation.program job.timeout state =
          w.run job.invocation.program (some ((w.now state).1 + 1000 * seconds)) steps
            (.forwarding none 0) (w.now state).2
      else w.calls steps job.invocation.program job.timeout state = [.read (w.now state).1]) := by
  have htimeout : job.timeout = (args.timeout <|> config.timeoutSeconds).map (1000 * ·) :=
    RunOptions.timeout_of_prepare h
  generalize (args.timeout <|> config.timeoutSeconds) = allowed at htimeout ⊢
  rw [htimeout]
  cases allowed with
  | none =>
    refine ⟨iff_of_false ?_ (by simp), nofun⟩
    rw [Option.map_none, w.supervise_of_deadline _ steps state rfl]
    exact w.run_ne_crashed _ steps state none
  | some seconds =>
    have hsum : ((w.now state).1 + 1000 * seconds) / 1000 = (w.now state).1 / 1000 + seconds :=
      Nat.add_mul_div_left _ _ (by decide)
    refine ⟨?_, ?_⟩
    · rw [Option.map_some, supervise_eq_crashed_iff, hsum]
      simp
    · rintro _ ⟨⟩
      rw [Option.map_some, ← hsum]
      split
      · next hle => exact w.supervise_of_deadline _ steps state (w.deadline_of_le state hle)
      · next hlt => exact w.calls_of_lt _ steps state (Nat.lt_of_not_le hlt)

def mostSeconds : Nat := 18446744073709551615

def echoSource : Text := "```sh\necho out\n```\n"

def echoSnippet : Snippet :=
  ⟨some .first, .sh, none, none, false, [⟨"echo out", ⟨6, 14⟩⟩], .resolved ["echo out"], ⟨0, 18⟩⟩

def echoArguments (seconds : Nat) : RunArguments :=
  ⟨⟨some "d.md", none, false, none, none, false⟩, [], false, false, false, some seconds, true, true⟩

def echoJob (seconds : Nat) : Job where
  invocation := Language.sh.invocation
  source := Language.sh.program ["echo out"]
  env := []
  timeout := some (1000 * seconds)
  cancelled := none
  interactive := false

theorem crashed_iff_echo :
    (∀ seconds, ((echoArguments seconds).options .default).prepare echoSnippet =
      .ok (echoJob seconds)) ∧
    (Playback.world.supervise 20 "sh" (echoJob 5).timeout lingering).1 ≠ .done .crashed ∧
    (Playback.world.supervise 20 "sh" (echoJob mostSeconds).timeout lingering).1 = .done .crashed := by
  have hjob (seconds : Nat) : ((echoArguments seconds).options .default).prepare echoSnippet =
      .ok (echoJob seconds) := rfl
  have hfive := (crashed_iff_of_prepare (hjob 5) Playback.world 20 lingering).1
  have hmost := (crashed_iff_of_prepare (hjob mostSeconds) Playback.world 20 lingering).1
  refine ⟨hjob, fun hcrashed => ?_, hmost.mpr ⟨mostSeconds, rfl, by decide⟩⟩
  obtain ⟨seconds, ⟨⟩, hlt⟩ := hfive.mp hcrashed
  exact absurd hlt (by decide)

def echoMachine : Machine :=
  ⟨[], ⟨(FileNode.file (Utf8.encode echoSource)).put ["work", "d.md"] Programs.system, ["work"]⟩⟩

def longWords : List Text := ["mdexe", "run", "-S", "-H", "--timeout", Text.ofNat mostSeconds, "d.md"]

/-- The command line is accepted and its job is given to the host, but the program does not live to see
the end of it. -/
theorem crashed_echo :
    (program Machine.host.recorded longWords [] (echoMachine, [])).map
      (fun r => (r.1.exit, r.2.2.map fun c => (c.job.timeout, c.ending))) =
      .ok (.crash, [(some (1000 * mostSeconds), .crashed)]) := by
  decide +kernel

end CommandLine
end Snippetry
