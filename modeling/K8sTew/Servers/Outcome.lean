import K8sTew.Servers.Liveness
set_option autoImplicit false

/-!
# Servers: how a run of `Run` ends

The laws of `K8sTew.Servers.Properties` hold of every prefix of every run; the budgets of
`K8sTew.Servers.Liveness` say that enough steps of a thread take it to its end.  Together:

* with `2 * len(Config.Servers) + 8` steps of the main flow and no `log.Fatal`, `Run` has
  returned the first `NewServerWrapper` or `Start` error, having started the servers before
  the failing one, or has started every registered server and, the signal taken, stopped
  each of them in order and then killed the children once;
* once the goroutine, spawned, has had `len(Commands) * (2 * commandRetries + 3) + 1`
  steps, `runCommand` has been called on every selected command, each returning `nil`, or
  on the selected commands up to one that failed.
-/

namespace K8sTew

namespace System

section
variable (env : Env) (commandRetries : Nat) (ic : InternalConfig) (killTimeout : Nat)

/-- `Run` on a fresh supervisor, along every schedule: with `L` the registered servers,
the `Start` calls are a prefix of `L` that returned `nil`, then possibly one failing call,
at which `Run` returns its error; a failing `NewServerWrapper` means no `Start` at all;
no command is run before every server of `L` started; and when `Run` returned `nil`, the
flag is set and the supervisor's own calls are the starts of `L`, the signal, a `Stop` of
each server of `L` in order, and one kill.  With `2 * len(Config.Servers) + 8` steps of
the main flow and no `log.Fatal`, `Run` has returned, in one of these three ways. -/
theorem run_starts_registered_servers (schedule : List Actor) :
    let s := run env commandRetries schedule (init ic killTimeout)
    let path := Servers.pathEnvironment env (newServers ic killTimeout)
    let registered := Servers.registeredServers env ic path
    (∀ e, Servers.firstWrapperError env ic path = some e →
      startCalls s.log = [] ∧ runCommandAttempts s.log = 0 ∧ runCommandCalls s.log = [] ∧
        (s.main = .start ∨ s.main = .returned (some e))) ∧
    (Servers.firstWrapperError env ic path = none →
      ((∃ started, started <+: registered ∧ startCalls s.log = started.map (·, none) ∧
          ∀ e, s.main ≠ .returned (some e)) ∨
        (∃ started server rest e, registered = started ++ server :: rest ∧
          startCalls s.log = started.map (·, none) ++ [(server, some e)] ∧
          s.main = .returned (some e))) ∧
      (runCommandAttempts s.log ≠ 0 ∨ runCommandCalls s.log ≠ [] →
        startCalls s.log = registered.map (·, none)) ∧
      (s.main = .returned none → s.servers.stop = true ∧
        supervisorEvents s.log = (registered.map fun server => .call (.start server) none) ++
          .signalReceived :: registered.map .stop ++ [.killProcessChildren killTimeout])) ∧
    (2 * ic.config.servers.length + 8 ≤ schedule.count .main → s.task ≠ .exited →
      (∃ e, Servers.firstWrapperError env ic path = some e ∧ startCalls s.log = [] ∧
          s.main = .returned (some e)) ∨
        (∃ started server rest e, Servers.firstWrapperError env ic path = none ∧
          registered = started ++ server :: rest ∧
          startCalls s.log = started.map (·, none) ++ [(server, some e)] ∧
          s.main = .returned (some e)) ∨
        (Servers.firstWrapperError env ic path = none ∧ s.main = .returned none ∧
          s.servers.stop = true ∧
          supervisorEvents s.log = (registered.map fun server => .call (.start server) none) ++
            .signalReceived :: registered.map .stop ++ [.killProcessChildren killTimeout])) := by
  dsimp only
  have hcalls := run_supervisor_calls env commandRetries ic killTimeout schedule
  refine ⟨hcalls.1, hcalls.2, fun hcount hlive => ?_⟩
  obtain ⟨result, hresult⟩ := (run_returned_of_mainBudget env commandRetries schedule _
    (by simpa [mainBudget, init, newServers, Nat.mul_add] using hcount)).resolve_left hlive
  cases he : Servers.firstWrapperError env ic
      (Servers.pathEnvironment env (newServers ic killTimeout)) with
  | some e =>
    obtain ⟨hstarts, -, -, hmain⟩ := hcalls.1 e he
    refine .inl ⟨e, rfl, hstarts, hmain.resolve_left fun h => ?_⟩
    rw [hresult] at h
    cases h
  | none =>
    obtain ⟨hstarted, -, hstopped⟩ := hcalls.2 he
    cases result with
    | some e =>
      rcases hstarted with ⟨-, -, -, hne⟩ | ⟨started, server, rest, e', hreg, hstarts, hmain⟩
      · exact absurd hresult (hne e)
      · exact .inr (.inl ⟨started, server, rest, e', rfl, hreg, hstarts, hmain⟩)
    | none => exact .inr (.inr ⟨rfl, hresult, hstopped hresult⟩)

/-- The goroutine calls `runCommand` on the selected commands in declared order, each only
after every earlier one returned `nil`: the calls made are a prefix of the selected
commands, all `nil` but for a last failing one exactly when the process ended in
`log.Fatal`, and all of them once the goroutine finished.  Once the goroutine, spawned,
has had `len(Commands) * (2 * commandRetries + 3) + 1` steps, it has finished, or it has
called `runCommand` up to a selected command that failed. -/
theorem run_runCommand_selected (pre schedule : List Actor) :
    let s := run env commandRetries (pre ++ schedule) (init ic killTimeout)
    let selectedCommands := ic.config.commands.filter (selected env ic)
    (s.task ≠ .exited → ∃ walked, walked <+: selectedCommands ∧
        runCommandCalls s.log = walked.map (·, none)) ∧
      (s.task = .exited → ∃ walked command e, walked ++ [command] <+: selectedCommands ∧
        runCommandCalls s.log = walked.map (·, none) ++ [(command, some e)]) ∧
      (s.task = .done → runCommandCalls s.log = selectedCommands.map (·, none)) ∧
      ((run env commandRetries pre (init ic killTimeout)).task ≠ .unspawned →
        ic.config.commands.length * (2 * commandRetries + 3) + 1 ≤ schedule.count .task →
        runCommandCalls s.log = selectedCommands.map (·, none) ∨
          ∃ walked command e, walked ++ [command] <+: selectedCommands ∧
            runCommandCalls s.log = walked.map (·, none) ++ [(command, some e)]) := by
  dsimp only
  obtain ⟨hlive, hexited, hdone⟩ :=
    run_runCommand_calls env commandRetries ic killTimeout (pre ++ schedule)
  refine ⟨hlive, hexited, hdone, fun hspawned hcount => ?_⟩
  have hended := run_ended_of_budget env commandRetries ic killTimeout schedule _
    (run_sane env commandRetries ic killTimeout pre) hspawned
    ((run_budgeted env commandRetries ic killTimeout pre).trans hcount)
  rw [← run_append] at hended
  rcases Task.eq_of_ended hended with h | h
  · exact .inl (hdone h)
  · exact .inr (hexited h)

end

end System

end K8sTew
