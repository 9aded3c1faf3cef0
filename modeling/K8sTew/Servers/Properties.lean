import K8sTew.Servers.Run
set_option autoImplicit false

/-!
# Servers: what every run of `Run` does

The invariants of `K8sTew.Servers.Run`, carried along every schedule from `init`, give the
laws of a whole run: which servers are started and stopped and in which order, which
commands the goroutine runs, how many `utils.RunCommand` attempts each command gets, how
many can still begin once the flag is set, and how many progress steps are reported.
These are safety laws, about every prefix of every run; `K8sTew.Servers.Outcome` adds
that a run with enough steps of each thread gets to the end they describe.
-/

namespace K8sTew

namespace System

/-! ## Runs from `init` -/

section
variable (env : Env) (commandRetries : Nat) (ic : InternalConfig) (killTimeout : Nat)

theorem run_sane (schedule : List Actor) :
    Sane ic killTimeout (run env commandRetries schedule (init ic killTimeout)) :=
  run_invariant env commandRetries _ (step_sane env commandRetries ic killTimeout) schedule _
    (sane_init ic killTimeout)

/-- An invariant that every step of a sane state keeps holds all along every run. -/
theorem run_sane_invariant (P : System → Prop) (hinit : P (init ic killTimeout))
    (hstep : ∀ s actor, Sane ic killTimeout s → P s → P (s.step env commandRetries actor))
    (schedule : List Actor) : P (run env commandRetries schedule (init ic killTimeout)) :=
  (run_invariant env commandRetries (fun s => Sane ic killTimeout s ∧ P s)
    (fun s actor h => ⟨step_sane env commandRetries ic killTimeout s actor h.1,
      hstep s actor h.1 h.2⟩) schedule _ ⟨sane_init ic killTimeout, hinit⟩).2

theorem run_callsMade (schedule : List Actor) :
    (run env commandRetries schedule (init ic killTimeout)).task.CallsMade env ic
      ic.config.commands
      (runCommandCalls (run env commandRetries schedule (init ic killTimeout)).log) :=
  run_sane_invariant env commandRetries ic killTimeout _
    ⟨[], by simp [init, runCommandCalls, Task.ahead, Task.CallsMade]⟩
    (step_callsMade env commandRetries ic killTimeout) schedule

/-- Before the goroutine is spawned, no `runCommand` call and no `utils.RunCommand`. -/
theorem run_quiet_of_unspawned (schedule : List Actor)
    (h : (run env commandRetries schedule (init ic killTimeout)).task = .unspawned) :
    runCommandAttempts (run env commandRetries schedule (init ic killTimeout)).log = 0 ∧
      runCommandCalls (run env commandRetries schedule (init ic killTimeout)).log = [] := by
  have hquiet := run_sane_invariant env commandRetries ic killTimeout
    (fun s => s.task = .unspawned → runCommandAttempts s.log = 0) (fun _ => rfl)
    (step_quiescent env commandRetries ic killTimeout) schedule
  have hcalls := run_callsMade env commandRetries ic killTimeout schedule
  rw [h] at hcalls
  obtain ⟨walked, hwalked, hahead⟩ : ∃ walked, _ ∧ _ := by
    simpa [Task.CallsMade] using hcalls
  have hnil : walked = [] := by simpa [Task.ahead] using hahead
  exact ⟨hquiet h, by simp [hwalked, hnil]⟩

theorem run_supervised (registered : List Server)
    (hreg : Servers.addServers env (newServers ic killTimeout) =
      .ok { newServers ic killTimeout with servers := registered }) (schedule : List Actor) :
    Supervised ic killTimeout registered (run env commandRetries schedule (init ic killTimeout)) :=
  run_invariant env commandRetries _
    (step_supervised env commandRetries ic killTimeout registered hreg) schedule _
    ⟨rfl, rfl⟩

theorem run_wrapperFailed (e : Error)
    (hreg : Servers.addServers env (newServers ic killTimeout) = .error e)
    (schedule : List Actor) :
    WrapperFailed ic killTimeout e (run env commandRetries schedule (init ic killTimeout)) :=
  run_invariant env commandRetries _
    (step_wrapperFailed env commandRetries ic killTimeout e hreg) schedule _
    ⟨.inl ⟨rfl, rfl⟩, rfl⟩

end

/-! ## Sample servers -/

/-- An enabled server config. -/
def etcdServer : ServerConfig := { name := "etcd", enabled := true, labels := [] }

/-- The wrapper `Run` registers for `etcdServer` on `sampleEnv`. -/
def etcdWrapper : Server :=
  .wrapper "etcd" etcdServer "PATH=/var/lib/k8s-tew/host-binaries:/usr/bin"

/-! ## Starting and stopping the servers -/

@[simp] theorem startCalls_nil : startCalls [] = [] := rfl

@[simp] theorem startCalls_cons (e : Event) (log : List Event) :
    startCalls (e :: log) = e.startCall?.toList ++ startCalls log := by
  cases h : e.startCall? <;> simp [startCalls, h]

@[simp] theorem startCalls_started (servers : List Server) :
    startCalls (servers.map fun server => .call (.start server) none) = servers.map (·, none) := by
  induction servers <;> simp_all [startCalls, Event.startCall?]

@[simp] theorem startCalls_stops (servers : List Server) : startCalls (servers.map .stop) = [] := by
  induction servers <;> simp_all [startCalls, Event.startCall?]

section
variable {ic : InternalConfig} {killTimeout : Nat} {registered : List Server}

/-- Under `Supervised`, the `Start` calls are a prefix of `registered` that returned `nil`,
then a failing one exactly when `Run` returned its error; once the goroutine is spawned
they are all of `registered`. -/
theorem startCalls_of_supervised (s : System) (h : Supervised ic killTimeout registered s) :
    (s.main.spawned = true → startCalls s.log = registered.map (·, none)) ∧
      ((∃ started, started <+: registered ∧ startCalls s.log = started.map (·, none) ∧
          ∀ e, s.main ≠ .returned (some e)) ∨
        (∃ started server rest e, registered = started ++ server :: rest ∧
          startCalls s.log = started.map (·, none) ++ [(server, some e)] ∧
          s.main = .returned (some e))) := by
  rw [← startCalls_supervisorEvents]
  cases hm : s.main with
  | start =>
    simp only [Supervised, hm] at h
    exact ⟨by simp [Main.spawned], .inl ⟨[], List.nil_prefix, by simp [h.2], by simp⟩⟩
  | starting pending =>
    simp only [Supervised, hm] at h
    obtain ⟨-, started, hreg, hlog⟩ := h
    exact ⟨by simp [Main.spawned],
      .inl ⟨started, ⟨pending, hreg.symm⟩, by simp [hlog], by simp⟩⟩
  | waiting =>
    simp only [Supervised, hm] at h
    exact ⟨fun _ => by simp [h.2],
      .inl ⟨registered, List.prefix_refl _, by simp [h.2], by simp⟩⟩
  | stopping pending =>
    simp only [Supervised, hm] at h
    obtain ⟨-, stopped, -, hlog⟩ := h
    have hstarts : startCalls (supervisorEvents s.log) = registered.map (·, none) := by
      simp [hlog, Event.startCall?]
    exact ⟨fun _ => hstarts, .inl ⟨registered, List.prefix_refl _, hstarts, by simp⟩⟩
  | returned result =>
    cases result with
    | none =>
      simp only [Supervised, hm] at h
      have hstarts : startCalls (supervisorEvents s.log) = registered.map (·, none) := by
        simp [h, Event.startCall?]
      exact ⟨fun _ => hstarts, .inl ⟨registered, List.prefix_refl _, hstarts, by simp⟩⟩
    | some e =>
      simp only [Supervised, hm] at h
      obtain ⟨started, server, rest, hreg, hlog⟩ := h
      exact ⟨by simp [Main.spawned], .inr ⟨started, server, rest, e, hreg,
        by simp [hlog, Event.startCall?], rfl⟩⟩

end

section
variable (env : Env) (commandRetries : Nat) (ic : InternalConfig) (killTimeout : Nat)

/-- `Run` on a fresh supervisor, along every schedule: with `L` the registered servers,
the `Start` calls are a prefix of `L` that returned `nil`, then possibly one failing call,
at which `Run` returns its error; a failing `NewServerWrapper` means no `Start` at all and
`Run` returns its error; no command is run before every server of `L` started; and when
`Run` returned `nil`, the flag is set and the supervisor's own calls are the starts of
`L`, the signal, a `Stop` of each server of `L` in order, and one kill. -/
theorem run_supervisor_calls (schedule : List Actor) :
    let s := run env commandRetries schedule (init ic killTimeout)
    let path := Servers.pathEnvironment env (newServers ic killTimeout)
    let registered := Servers.registeredServers env ic path
    (∀ e, Servers.firstWrapperError env ic path = some e →
      startCalls s.log = [] ∧ runCommandAttempts s.log = 0 ∧ runCommandCalls s.log = [] ∧
        (s.main = .start ∨ s.main = .returned (some e))) ∧
    (Servers.firstWrapperError env ic path = none →
      ((∃ started, started <+: registered ∧ startCalls s.log = started.map (·, none) ∧
          ∀ e, s.main ≠ .returned (some e)) ∨
        (∃ started server rest e, registered = started ++ server :: rest ∧
          startCalls s.log = started.map (·, none) ++ [(server, some e)] ∧
          s.main = .returned (some e))) ∧
      (runCommandAttempts s.log ≠ 0 ∨ runCommandCalls s.log ≠ [] →
        startCalls s.log = registered.map (·, none)) ∧
      (s.main = .returned none → s.servers.stop = true ∧
        supervisorEvents s.log = (registered.map fun server => .call (.start server) none) ++
          .signalReceived :: registered.map .stop ++ [.killProcessChildren killTimeout])) := by
  dsimp only
  have hsane := run_sane env commandRetries ic killTimeout schedule
  have hquiet := run_quiet_of_unspawned env commandRetries ic killTimeout schedule
  refine ⟨fun e he => ?_, fun he => ?_⟩
  · have hfail := run_wrapperFailed env commandRetries ic killTimeout e
      (by rw [Servers.addServers_newServers, he]) schedule
    generalize run env commandRetries schedule (init ic killTimeout) = s at *
    obtain ⟨hmain, hlog⟩ := hfail
    have hun : s.task = .unspawned :=
      hsane.spawned.2 (by rcases hmain with ⟨h, -⟩ | h <;> simp [h, Main.spawned])
    exact ⟨by rw [← startCalls_supervisorEvents, hlog]; rfl, (hquiet hun).1, (hquiet hun).2,
      hmain.imp_left And.left⟩
  · have hsup := run_supervised env commandRetries ic killTimeout
      (Servers.registeredServers env ic (Servers.pathEnvironment env (newServers ic killTimeout)))
      (by rw [Servers.addServers_newServers, he]) schedule
    generalize run env commandRetries schedule (init ic killTimeout) = s at *
    obtain ⟨hspawned, hstarts⟩ := startCalls_of_supervised s hsup
    refine ⟨hstarts, fun hrun => hspawned ?_, fun hret => ?_⟩
    · by_contra hnot
      have hun := hsane.spawned.2 (by simpa using hnot)
      exact hrun.elim (· (hquiet hun).1) (· (hquiet hun).2)
    · simp only [Supervised, hret] at hsup
      refine ⟨hsane.stop.2
        (List.mem_filter.1 (?_ : .signalReceived ∈ supervisorEvents s.log)).1, hsup⟩
      simp [hsup]

end

/-! ## The goroutine -/

section
variable (env : Env) (commandRetries : Nat) (ic : InternalConfig) (killTimeout : Nat)

/-- The goroutine calls `runCommand` on the selected commands in declared order, each only
after every earlier one returned `nil`: the calls made are a prefix of the selected
commands, all `nil` but for a last failing one exactly when the process ended in
`log.Fatal`, and all of them once the goroutine finished. -/
theorem run_runCommand_calls (schedule : List Actor) :
    let s := run env commandRetries schedule (init ic killTimeout)
    let selectedCommands := ic.config.commands.filter (selected env ic)
    (s.task ≠ .exited → ∃ walked, walked <+: selectedCommands ∧
        runCommandCalls s.log = walked.map (·, none)) ∧
      (s.task = .exited → ∃ walked command e, walked ++ [command] <+: selectedCommands ∧
        runCommandCalls s.log = walked.map (·, none) ++ [(command, some e)]) ∧
      (s.task = .done → runCommandCalls s.log = selectedCommands.map (·, none)) := by
  dsimp only
  have h := run_callsMade env commandRetries ic killTimeout schedule
  generalize run env commandRetries schedule (init ic killTimeout) = s at *
  unfold Task.CallsMade at h
  refine ⟨fun hne => ?_, fun hex => ?_, fun hdone => ?_⟩
  · obtain ⟨walked, hcalls, hahead⟩ := (if_neg hne).symm ▸ h
    exact ⟨walked, ⟨_, hahead⟩, hcalls⟩
  · obtain ⟨walked, command, e, hcalls, hprefix⟩ := (if_pos hex).symm ▸ h
    exact ⟨walked, command, e, hprefix, hcalls⟩
  · rw [hdone, if_neg (by simp)] at h
    obtain ⟨walked, hcalls, hahead⟩ := h
    simp only [Task.ahead, List.append_nil] at hahead
    rw [hcalls, hahead]

theorem run_attemptsWithin (schedule : List Actor) :
    (run env commandRetries schedule (init ic killTimeout)).task.AttemptsWithin env ic
      commandRetries ic.config.commands
      (commandsRun (run env commandRetries schedule (init ic killTimeout)).log) :=
  run_sane_invariant env commandRetries ic killTimeout _
    ⟨trivial, [], rfl, by simp [init, Task.segment, Task.pending], by simp [init, Task.segment]⟩
    (step_attemptsWithin env commandRetries ic killTimeout) schedule

/-- The runs of attempts along a run of `Run`, the one in progress included. -/
theorem run_attempts_of_selected (schedule : List Actor) :
    ∃ ran : List (Command × String × Nat),
      List.Sublist (ran.map (·.1)) (ic.config.commands.filter (selected env ic)) ∧
      commandsRun (run env commandRetries schedule (init ic killTimeout)).log = attemptsOf ran ∧
      ∀ p ∈ ran, p.2.2 ≤ commandRetries ∧
        env.applyTemplate ic p.1.name p.1.command = .ok p.2.1 := by
  obtain ⟨-, ran, hattempts, hsub, hran⟩ :=
    run_attemptsWithin env commandRetries ic killTimeout schedule
  exact ⟨_, (List.sublist_append_left _ _).trans hsub, hattempts, hran⟩

/-- Along every interleaving, whatever the calls return and whenever the signal comes, the
`utils.RunCommand` calls are runs of attempts, one per command of `Config.Commands` whose
labels and OS match the node, in declared order: each run is of the command's rendering
and of at most `commandRetries` attempts.  No step of the main flow calls
`utils.RunCommand`. -/
theorem run_runCommand_attempts_bounded (schedule : List Actor) :
    (∀ s : System, ∃ es, (s.mainStep env).log = s.log ++ es ∧ commandsRun es = []) ∧
    ∃ ran : List (Command × String × Nat),
      List.Sublist (ran.map (·.1)) (ic.config.commands.filter (selected env ic)) ∧
      commandsRun (run env commandRetries schedule (init ic killTimeout)).log = attemptsOf ran ∧
      ∀ p ∈ ran, p.2.2 ≤ commandRetries ∧
        env.applyTemplate ic p.1.name p.1.command = .ok p.2.1 := by
  refine ⟨fun s => ?_, run_attempts_of_selected env commandRetries ic killTimeout schedule⟩
  obtain ⟨es, hlog, -, hattempts, -⟩ := mainStep_frame env s
  exact ⟨es, hlog, commandsRun_eq_nil_of_attempts hattempts⟩

end

section
variable (env : Env) (commandRetries : Nat) (ic : InternalConfig) (killTimeout : Nat)

/-- At most one `utils.RunCommand` begins once the flag is set, along every schedule:
counted over the whole log after the signal, across all remaining commands and their
retries. -/
theorem run_runCommand_after_signal_le_one (schedule : List Actor) (pre post : List Event)
    (hlog : (run env commandRetries schedule (init ic killTimeout)).log =
      pre ++ .signalReceived :: post) :
    runCommandAttempts post ≤ 1 := by
  have hsane := run_sane env commandRetries ic killTimeout schedule
  have hafter := run_sane_invariant env commandRetries ic killTimeout AttemptsAfterSignal
    (fun h => by cases h) (step_attemptsAfterSignal env commandRetries ic killTimeout) schedule
  generalize run env commandRetries schedule (init ic killTimeout) = s at *
  have hstop : s.servers.stop = true := hsane.stop.2 (by simp [hlog])
  calc runCommandAttempts post
      ≤ runCommandAttempts (afterSignal s.log) := by
        rw [hlog]; exact runCommandAttempts_le_of_suffix (suffix_afterSignal pre post)
    _ ≤ 1 := by have := hafter hstop; omega

end

/-- The witness of `run_runCommand_after_signal_le_one`: the signal arrives while the
goroutine is about to run its only command, with a budget of two attempts; one attempt
follows the signal and the retry loop stops at the flag. -/
theorem run_runCommand_after_signal_sample :
    (run (sampleEnv commandsFail) 2 [.main, .main, .task, .task, .main, .task, .task, .task]
        (init (sampleConfig [] [sampleCommand]) 0)).log =
      [.log .info "Executing command"] ++ .signalReceived ::
        [.call (.runCommand "systemctl restart kubelet") (some ⟨"exit status 1"⟩), .sleep,
          .log .error "Command failed", .runCommand sampleCommand (some ⟨"exit status 1"⟩),
          .log .fatal "Cluster setup failed"] ∧
    runCommandAttempts
        [.call (.runCommand "systemctl restart kubelet") (some ⟨"exit status 1"⟩), .sleep,
          .log .error "Command failed", .runCommand sampleCommand (some ⟨"exit status 1"⟩),
          .log .fatal "Cluster setup failed"] ≤ 1 :=
  ⟨by decide, run_runCommand_after_signal_le_one (sampleEnv commandsFail) 2
    (sampleConfig [] [sampleCommand]) 0 [.main, .main, .task, .task, .main, .task, .task, .task]
    [.log .info "Executing command"] _ (by decide)⟩

/-! ## Progress steps -/

theorem startsSucceeded_eq_countP (log : List Event) :
    startsSucceeded log = (startCalls log).countP fun call => call.2.isNone := by
  induction log with
  | nil => rfl
  | cons e log ih =>
    rw [← List.singleton_append, startsSucceeded_append, startCalls_append, List.countP_append,
      ih]
    congr 1
    cases e with
    | call c r => cases c <;> (try cases r) <;> rfl
    | _ => rfl

section
variable (env : Env) (commandRetries : Nat) (ic : InternalConfig) (killTimeout : Nat)

/-- Once the goroutine has finished, one progress step was reported per registered server
and one per command. -/
theorem run_progressSteps_of_done (schedule : List Actor)
    (hdone : (run env commandRetries schedule (init ic killTimeout)).task = .done) :
    progressSteps (run env commandRetries schedule (init ic killTimeout)).log =
      (Servers.registeredServers env ic
        (Servers.pathEnvironment env (newServers ic killTimeout))).length +
        ic.config.commands.length := by
  have hsane := run_sane env commandRetries ic killTimeout schedule
  have hcount := run_sane_invariant env commandRetries ic killTimeout (ProgressCounted ic)
    (fun _ => by simp [init, Task.remaining, progressSteps, startsSucceeded])
    (step_progressCounted env commandRetries ic killTimeout) schedule
  have hspawned : (run env commandRetries schedule (init ic killTimeout)).main.spawned = true := by
    by_contra h
    simpa [hdone] using hsane.spawned.2 (by simpa using h)
  cases he : Servers.firstWrapperError env ic
      (Servers.pathEnvironment env (newServers ic killTimeout)) with
  | some e =>
    obtain ⟨hmain, -⟩ := run_wrapperFailed env commandRetries ic killTimeout e
      (by rw [Servers.addServers_newServers, he]) schedule
    rcases hmain with ⟨h, -⟩ | h <;> simp [h, Main.spawned] at hspawned
  | none =>
    have hstarts := (startCalls_of_supervised _ (run_supervised env commandRetries ic killTimeout
      _ (by rw [Servers.addServers_newServers, he]) schedule)).1 hspawned
    have := hcount (by simp [hdone])
    rw [hdone, startsSucceeded_eq_countP, hstarts] at this
    simpa [List.countP_map, Function.comp_def, Task.remaining] using this

end

/-- The witness of `run_progressSteps_of_done`: one server and one command, both
succeeding; two progress steps. -/
theorem run_progressSteps_of_done_sample :
    (run (sampleEnv allSucceed) 1 [.main, .main, .main, .task, .task, .task, .task, .task]
        (init (sampleConfig [etcdServer] [sampleCommand]) 0)).task = .done ∧
    progressSteps (run (sampleEnv allSucceed) 1
        [.main, .main, .main, .task, .task, .task, .task, .task]
        (init (sampleConfig [etcdServer] [sampleCommand]) 0)).log =
      (Servers.registeredServers (sampleEnv allSucceed) (sampleConfig [etcdServer] [sampleCommand])
        (Servers.pathEnvironment (sampleEnv allSucceed)
          (newServers (sampleConfig [etcdServer] [sampleCommand]) 0))).length + 1 :=
  ⟨by decide, run_progressSteps_of_done (sampleEnv allSucceed) 1
    (sampleConfig [etcdServer] [sampleCommand]) 0 _ (by decide)⟩

/-- A disabled server config and no command: the goroutine finishes, every start and
every command having succeeded, after no progress step, while `Steps` counts two. -/
theorem run_progressSteps_disabled_server :
    (run (sampleEnv allSucceed) 0 [.main, .main, .task]
        (init (sampleConfig [{ etcdServer with enabled := false }] []) 0)).task = .done ∧
    startCalls (run (sampleEnv allSucceed) 0 [.main, .main, .task]
        (init (sampleConfig [{ etcdServer with enabled := false }] []) 0)).log = [] ∧
    progressSteps (run (sampleEnv allSucceed) 0 [.main, .main, .task]
        (init (sampleConfig [{ etcdServer with enabled := false }] []) 0)).log = 0 ∧
    (newServers (sampleConfig [{ etcdServer with enabled := false }] []) 0).steps = 2 := by
  decide

/-! ## The embedded files -/

/-- Creating the directory of every embedded file fails; every other call succeeds. -/
def directoryFails : Oracle := fun _ c =>
  match c with
  | .createDirectoryIfMissing _ =>
    some ⟨"mkdir /var/lib/k8s-tew/host-binaries: permission denied"⟩
  | _ => none

/-- The extraction of an embedded file fails at its directory, and `Run` goes on: it
starts the server and waits for the signal. -/
theorem run_starts_after_failed_extraction :
    .call (.createDirectoryIfMissing "etcd")
        (some ⟨"mkdir /var/lib/k8s-tew/host-binaries: permission denied"⟩) ∈
      (run { sampleEnv directoryFails with embeddedFiles := ["etcd"] } 0 [.main, .main, .main]
        (init (sampleConfig [etcdServer] []) 0)).log ∧
    startCalls (run { sampleEnv directoryFails with embeddedFiles := ["etcd"] } 0
        [.main, .main, .main] (init (sampleConfig [etcdServer] []) 0)).log =
      [(etcdWrapper, none)] ∧
    (run { sampleEnv directoryFails with embeddedFiles := ["etcd"] } 0 [.main, .main, .main]
        (init (sampleConfig [etcdServer] []) 0)).main = .waiting := by
  decide

end System

end K8sTew
