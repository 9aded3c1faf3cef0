import K8sTew.Deployment.Properties
import K8sTew.Servers.Properties
set_option autoImplicit false

/-!
# The retry loops on a budget of no attempt

`Deployment.runCommand`, each node of `Deployment.runConfigureTaints` and
`Servers.runCommand` count their attempts with `retries < commandRetries` and, once the
count runs out, report what the loop's error variable holds.  That variable starts `nil`,
and `commandRetries` is a `uint` that nothing keeps positive, so with `commandRetries = 0`
no attempt is made and each loop reports success: `Deployment.runCommand` returns `nil`,
the taint loop moves on to the next node, and no `utils.RunCommand` is ever called by the
goroutine of `Servers.Run`.

The deployment side and the servers side are stated each over its own model, whatever the
calls would return; this module is the one place that sees both.
-/

namespace K8sTew

theorem attemptsOf_eq_nil : ∀ {ran : List (Command × String × Nat)},
    (∀ p ∈ ran, p.2.2 = 0) → attemptsOf ran = []
  | [], _ => rfl
  | p :: ran, h => by
    rw [attemptsOf_cons, h p (List.mem_cons_self _ _), List.replicate_zero, List.nil_append]
    exact attemptsOf_eq_nil fun p hp => h p (List.mem_cons_of_mem _ hp)

namespace Deployment

variable (d : Deployment)

/-- With no attempt allowed, `Deployment.runCommand` returns `nil` having only logged that it
executes the command. -/
theorem runCommand_of_no_retries (h : d.commandRetries = 0) (o : Oracle) (command : String)
    (log : List Event) :
    d.runCommand o command log = (none, log ++ [.log .info "Executing command"]) := by
  simp [runCommand, h]

/-- With no attempt allowed, the taint loop makes no call and moves past every node it can
look up: it returns `nil` when it can look up all of them. -/
theorem configureTaints_of_no_retries (h : d.commandRetries = 0) (o : Oracle) :
    ∀ (keys : List String) (st : DeployState), (∀ k ∈ keys, (d.nodes.lookup k).isSome) →
      (d.configureTaints o keys none st).1 = none ∧
        ∃ es, (d.configureTaints o keys none st).2.log = st.log ++ es ∧ calls es = []
  | [], st, _ => ⟨rfl, [], by simp [configureTaints]⟩
  | k :: rest, st, hkeys => by
    obtain ⟨nodeDeployment, hk⟩ := Option.isSome_iff_exists.1 (hkeys k (List.mem_cons_self _ _))
    obtain ⟨hnone, es, hes, hcalls⟩ := configureTaints_of_no_retries h o rest
      ⟨(setNode st k nodeDeployment).config, (setNode st k nodeDeployment).log ++
        [.log .info "Configuring taint"] ++ [.increaseProgressStep]⟩
      fun k' hk' => hkeys k' (List.mem_cons_of_mem _ hk')
    simp only [configureTaints, hk, h, retryLoop_zero]
    exact ⟨hnone, .setNode k :: .log .info "Configuring taint" :: .increaseProgressStep :: es,
      by simpa using hes, by simp [hcalls, Event.call?]⟩

end Deployment

namespace System

/-- With no attempt allowed, the goroutine of `Servers.Run` calls no `utils.RunCommand`,
along every interleaving. -/
theorem run_no_attempts_of_no_retries (env : Env) (ic : InternalConfig) (killTimeout : Nat)
    (schedule : List Actor) : commandsRun (run env 0 schedule (init ic killTimeout)).log = [] := by
  obtain ⟨ran, -, hattempts, hran⟩ := run_attempts_of_selected env 0 ic killTimeout schedule
  rw [hattempts]
  exact attemptsOf_eq_nil fun p hp => Nat.le_zero.1 (hran p hp).1

end System

/-- With a budget of no attempt and every call failing, each retry loop reports success
without an attempt: `Deployment.runCommand` returns `nil`, `runConfigureTaints` moves past
every node and returns `nil` with no call, and the goroutine of `Servers.Run` gets `nil`
from `runCommand` and finishes. -/
theorem retry_loops_without_attempts :
    (Deployment.sampleDeployment [] 0).runCommand allFail "systemctl restart kubelet" [] =
      (none, [.log .info "Executing command"]) ∧
    ((Deployment.sampleDeployment [] 0).runConfigureTaints (sampleEnv allFail)
        (Deployment.sampleState [])).1 = none ∧
    calls ((Deployment.sampleDeployment [] 0).runConfigureTaints (sampleEnv allFail)
        (Deployment.sampleState [])).2.log = [] ∧
    (System.run (sampleEnv allFail) 0 [.main, .main, .task, .task, .task, .task]
        (System.init (sampleConfig [] [sampleCommand]) 0)).task = .done ∧
    runCommandCalls (System.run (sampleEnv allFail) 0 [.main, .main, .task, .task, .task, .task]
        (System.init (sampleConfig [] [sampleCommand]) 0)).log = [(sampleCommand, none)] ∧
    runCommandAttempts (System.run (sampleEnv allFail) 0
        [.main, .main, .task, .task, .task, .task]
        (System.init (sampleConfig [] [sampleCommand]) 0)).log = 0 := by
  decide

end K8sTew
