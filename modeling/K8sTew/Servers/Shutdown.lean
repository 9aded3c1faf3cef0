import K8sTew.Servers.Liveness
set_option autoImplicit false

/-!
# Servers: the stop flag and the ways `Run` ends

`servers.stop` is written once, by the main flow when the signal arrives, and read by the
goroutine's retry loop before each attempt.  Here are the laws of whole runs that follow
from where `Run` writes it, reads it, and registers its deferred stop loop:

* the flag is set exactly once the signal has been received, and never reverts;
* the deferred stop loop is registered only after the start loop, so when `Run` returns
  an error (a wrapper that cannot be created, or a `Start` that fails) the run is over and
  no server is ever stopped: the servers started before the failing one keep running;
* the flag only breaks the retry loop, leaving its error `nil`, so once it is set while no
  attempt is under way the goroutine runs no command again, yet `runCommand` returns `nil`
  for every command it walks, unless the command's template fails to render.
-/

namespace K8sTew

/-! ## The goroutine once the flag is set -/

namespace Task

/-- The goroutine is not inside a failing retry loop: it is at the head of its command
loop, has ended, or is in a `runCommand` none of whose attempts has failed and none of
which is under way. -/
def drained : Task → Bool
  | .next _ | .done | .exited | .poll _ _ none | .returns _ none => true
  | .unspawned | .poll _ _ (some _) | .attempt _ _ | .returns _ (some _) => false

end Task

/-- A `runCommand` call that returned `nil`, or the error of rendering its command. -/
def nilOrTemplateError (env : Env) (ic : InternalConfig) (call : Command × Option Error) :
    Prop :=
  call.2 = none ∨
    ∃ e, call.2 = some e ∧ env.applyTemplate ic call.1.name call.1.command = .error e

namespace Task

variable (env : Env) (ic : InternalConfig) (commandRetries : Nat) (log : List Event)

/-- With the flag set, a drained goroutine stays drained and begins no `utils.RunCommand`,
and each `runCommand` call it makes returns `nil` or its command's rendering error. -/
theorem step_drained (t : Task) (ht : t.drained = true) :
    (t.step env ic commandRetries true log).1.drained = true ∧
      runCommandAttempts (t.step env ic commandRetries true log).2 = 0 ∧
      ∀ x ∈ runCommandCalls (t.step env ic commandRetries true log).2,
        nilOrTemplateError env ic x := by
  cases t with
  | next rest =>
    cases rest with
    | nil => simp [step, drained, Event.runCommandCall?, Event.isRunCommand]
    | cons command rest =>
      simp only [step]
      split_ifs <;> (try split) <;>
        simp_all [drained, Event.runCommandCall?, Event.isRunCommand, nilOrTemplateError]
  | poll frame retries error => cases error <;> simp_all [step, drained]
  | returns frame error =>
    cases error <;>
      simp_all [step, drained, Event.runCommandCall?, Event.isRunCommand, nilOrTemplateError]
  | done | exited => simp [step, drained]
  | unspawned | attempt => simp [drained] at ht

end Task

namespace System

section
variable (env : Env) (commandRetries : Nat) (ic : InternalConfig) (killTimeout : Nat)

/-- A step of a sane run whose flag is set and whose goroutine is drained keeps both, and
appends no `utils.RunCommand` and only `runCommand` calls that return `nil` or a rendering
error. -/
theorem step_drained (s : System) (actor : Actor) (hs : Sane ic killTimeout s)
    (hstop : s.servers.stop = true) (hdrained : s.task.drained = true) :
    (s.step env commandRetries actor).servers.stop = true ∧
      (s.step env commandRetries actor).task.drained = true ∧
      ∃ es, (s.step env commandRetries actor).log = s.log ++ es ∧ runCommandAttempts es = 0 ∧
        ∀ x ∈ runCommandCalls es, nilOrTemplateError env ic x := by
  have hspawned : s.task ≠ .unspawned := by
    intro h
    simp [h, Task.drained] at hdrained
  unfold step
  split
  · exact ⟨hstop, hdrained, [], by simp, by simp, by simp⟩
  · cases actor with
    | main =>
      obtain ⟨es, hlog, hcalls, hattempts, -, -, -, hstop', -, hkeep, -⟩ := mainStep_frame env s
      have hstart : s.main ≠ .starting [] := fun h =>
        hspawned (hs.spawned.2 (by simp [h, Main.spawned]))
      refine ⟨hstop'.2 (.inl hstop), hkeep hstart ▸ hdrained, es, hlog, hattempts, ?_⟩
      simp [hcalls]
    | task =>
      obtain ⟨hd, hattempts, hcalls⟩ := Task.step_drained env s.servers.config commandRetries
        s.log s.task hdrained
      rw [hs.config] at hd hattempts hcalls
      simp only [taskStep_servers, taskStep_task, taskStep_log, hstop, hs.config]
      exact ⟨trivial, hd, _, rfl, hattempts, hcalls⟩

/-- From a sane state whose flag is set and whose goroutine is drained, a run appends no
`utils.RunCommand` and only `runCommand` calls that return `nil` or a rendering error. -/
theorem run_drained : ∀ (schedule : List Actor) (s : System), Sane ic killTimeout s →
    s.servers.stop = true → s.task.drained = true →
    ∃ es, (run env commandRetries schedule s).log = s.log ++ es ∧ runCommandAttempts es = 0 ∧
      ∀ x ∈ runCommandCalls es, nilOrTemplateError env ic x
  | [], s, _, _, _ => ⟨[], by simp, by simp, by simp⟩
  | actor :: schedule, s, hs, hstop, hdrained => by
    obtain ⟨hstop₁, hdrained₁, es₁, hlog₁, hattempts₁, hcalls₁⟩ :=
      step_drained env commandRetries ic killTimeout s actor hs hstop hdrained
    obtain ⟨es₂, hlog₂, hattempts₂, hcalls₂⟩ := run_drained schedule _
      (step_sane env commandRetries ic killTimeout s actor hs) hstop₁ hdrained₁
    refine ⟨es₁ ++ es₂, by rw [run_cons, hlog₂, hlog₁, List.append_assoc],
      by simp [hattempts₁, hattempts₂], fun x hx => ?_⟩
    rw [runCommandCalls_append, List.mem_append] at hx
    exact hx.elim (hcalls₁ x) (hcalls₂ x)

/-! ## The flag -/

/-- The stop flag is set exactly once the signal has been received, and it never reverts:
set after `pre`, it stays set along every continuation `post`. -/
theorem run_stop_stays (pre post : List Actor) :
    ((run env commandRetries pre (init ic killTimeout)).servers.stop = true ↔
        .signalReceived ∈ (run env commandRetries pre (init ic killTimeout)).log) ∧
      ((run env commandRetries pre (init ic killTimeout)).servers.stop = true →
        (run env commandRetries (pre ++ post) (init ic killTimeout)).servers.stop = true) := by
  have hsane := run_sane env commandRetries ic killTimeout
  refine ⟨(hsane pre).stop, fun hstop => (hsane (pre ++ post)).stop.2 ?_⟩
  rw [run_append]
  exact (run_log_grows env commandRetries post _).subset ((hsane pre).stop.1 hstop)

/-- Once the flag is set while no command attempt is under way or has failed, the goroutine
never calls `utils.RunCommand` again, whatever the schedule; yet each `runCommand` call it
still makes returns `nil`, so the remaining commands are reported as run, but for one whose
template fails to render, which ends the process. -/
theorem run_commands_after_stop (pre post : List Actor)
    (hstop : (run env commandRetries pre (init ic killTimeout)).servers.stop = true)
    (hdrained : (run env commandRetries pre (init ic killTimeout)).task.drained = true) :
    ∃ es, (run env commandRetries (pre ++ post) (init ic killTimeout)).log =
        (run env commandRetries pre (init ic killTimeout)).log ++ es ∧
      runCommandAttempts es = 0 ∧ ∀ x ∈ runCommandCalls es, nilOrTemplateError env ic x := by
  rw [run_append]
  exact run_drained env commandRetries ic killTimeout post _
    (run_sane env commandRetries ic killTimeout pre) hstop hdrained

/-- The witness of `run_commands_after_stop`: the signal comes as soon as the goroutine is
spawned, before it begins its only command, which is then reported as run. -/
theorem run_commands_after_stop_sample :
    (run (sampleEnv allSucceed) 1 [.main, .main, .main]
        (init (sampleConfig [] [sampleCommand]) 0)).servers.stop = true ∧
      (run (sampleEnv allSucceed) 1 [.main, .main, .main]
        (init (sampleConfig [] [sampleCommand]) 0)).task.drained = true ∧
      ∃ es, (run (sampleEnv allSucceed) 1 ([.main, .main, .main] ++ [.task, .task, .task, .task])
          (init (sampleConfig [] [sampleCommand]) 0)).log =
          (run (sampleEnv allSucceed) 1 [.main, .main, .main]
            (init (sampleConfig [] [sampleCommand]) 0)).log ++ es ∧
        runCommandAttempts es = 0 ∧ ∀ x ∈ runCommandCalls es,
          nilOrTemplateError (sampleEnv allSucceed) (sampleConfig [] [sampleCommand]) x :=
  ⟨by decide, by decide, run_commands_after_stop (sampleEnv allSucceed) 1
    (sampleConfig [] [sampleCommand]) 0 [.main, .main, .main] [.task, .task, .task, .task]
    (by decide) (by decide)⟩

/-! ## A failed start -/

/-- When `Run` returns an error, the run is over: no schedule changes it any more.  The
goroutine was never spawned, so no command ran; and the deferred stop loop was never
registered, so no `Stop` call and no kill was made, and every server whose `Start`
returned `nil` is left running. -/
theorem run_returned_error_final (schedule : List Actor) (e : Error)
    (hret : (run env commandRetries schedule (init ic killTimeout)).main = .returned (some e)) :
    (∀ post, run env commandRetries post (run env commandRetries schedule (init ic killTimeout)) =
        run env commandRetries schedule (init ic killTimeout)) ∧
      runCommandAttempts (run env commandRetries schedule (init ic killTimeout)).log = 0 ∧
      runCommandCalls (run env commandRetries schedule (init ic killTimeout)).log = [] ∧
      (∀ server, .stop server ∉ (run env commandRetries schedule (init ic killTimeout)).log) ∧
      ∀ timeout, .killProcessChildren timeout ∉
        (run env commandRetries schedule (init ic killTimeout)).log := by
  have hstarts :
      ∀ ev ∈ supervisorEvents (run env commandRetries schedule (init ic killTimeout)).log,
        ∃ server r, ev = .call (.start server) r := by
    cases he : Servers.firstWrapperError env ic
        (Servers.pathEnvironment env (newServers ic killTimeout)) with
    | some e' =>
      simp [(run_wrapperFailed env commandRetries ic killTimeout e'
        (by rw [Servers.addServers_newServers, he]) schedule).2]
    | none =>
      have hsup := run_supervised env commandRetries ic killTimeout _
        (by rw [Servers.addServers_newServers, he]) schedule
      simp only [Supervised, hret] at hsup
      obtain ⟨started, server, rest, -, hevents⟩ := hsup
      simp only [hevents, List.mem_append, List.mem_map, List.mem_singleton]
      rintro ev (⟨server', -, rfl⟩ | rfl) <;> exact ⟨_, _, rfl⟩
  have hquiet := run_quiet_of_unspawned env commandRetries ic killTimeout schedule
  have hsane := run_sane env commandRetries ic killTimeout schedule
  generalize run env commandRetries schedule (init ic killTimeout) = s at *
  have hunspawned : s.task = .unspawned := hsane.spawned.2 (by simp [hret, Main.spawned])
  refine ⟨run_of_returned_unspawned env commandRetries s _ hret hunspawned, (hquiet hunspawned).1,
    (hquiet hunspawned).2, fun server h => ?_, fun timeout h => ?_⟩ <;>
  · obtain ⟨_, _, hev⟩ := hstarts _ (List.mem_filter.2 ⟨h, rfl⟩)
    cases hev

end

/-- A second enabled server config. -/
def apiServer : ServerConfig := { name := "kube-apiserver", enabled := true, labels := [] }

/-- Every call succeeds but the `Start` of the API server. -/
def apiServerFails : Oracle := fun _ call =>
  match call with
  | .start (.wrapper "kube-apiserver" _ _) => some ⟨"exit status 2"⟩
  | _ => none

/-- The witness of `run_returned_error_final`: etcd starts, the API server after it does
not, and `Run` returns with etcd left running. -/
theorem run_returned_error_final_sample :
    (run (sampleEnv apiServerFails) 1 [.main, .main, .main]
        (init (sampleConfig [etcdServer, apiServer] [sampleCommand]) 0)).main =
      .returned (some ⟨"exit status 2"⟩) ∧
    startCalls (run (sampleEnv apiServerFails) 1 [.main, .main, .main]
        (init (sampleConfig [etcdServer, apiServer] [sampleCommand]) 0)).log =
      [(etcdWrapper, none), (.wrapper "kube-apiserver" apiServer
        "PATH=/var/lib/k8s-tew/host-binaries:/usr/bin", some ⟨"exit status 2"⟩)] ∧
    (∀ post, run (sampleEnv apiServerFails) 1 post (run (sampleEnv apiServerFails) 1
        [.main, .main, .main] (init (sampleConfig [etcdServer, apiServer] [sampleCommand]) 0)) =
      run (sampleEnv apiServerFails) 1 [.main, .main, .main]
        (init (sampleConfig [etcdServer, apiServer] [sampleCommand]) 0)) ∧
    runCommandAttempts (run (sampleEnv apiServerFails) 1 [.main, .main, .main]
      (init (sampleConfig [etcdServer, apiServer] [sampleCommand]) 0)).log = 0 ∧
    runCommandCalls (run (sampleEnv apiServerFails) 1 [.main, .main, .main]
      (init (sampleConfig [etcdServer, apiServer] [sampleCommand]) 0)).log = [] ∧
    (∀ server, .stop server ∉ (run (sampleEnv apiServerFails) 1 [.main, .main, .main]
      (init (sampleConfig [etcdServer, apiServer] [sampleCommand]) 0)).log) ∧
    ∀ timeout, .killProcessChildren timeout ∉ (run (sampleEnv apiServerFails) 1
      [.main, .main, .main] (init (sampleConfig [etcdServer, apiServer] [sampleCommand]) 0)).log :=
  ⟨by decide, by decide, run_returned_error_final (sampleEnv apiServerFails) 1
    (sampleConfig [etcdServer, apiServer] [sampleCommand]) 0 [.main, .main, .main]
    ⟨"exit status 2"⟩ (by decide)⟩

end System

end K8sTew
