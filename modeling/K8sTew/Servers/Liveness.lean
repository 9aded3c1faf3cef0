import K8sTew.Servers.Properties
set_option autoImplicit false

/-!
# Servers: both threads of `Run` end

The laws of `K8sTew.Servers.Properties` say what holds once `Run` has returned or the
goroutine has ended.  Here both do, within a bound on their own steps, whatever the other
thread does meanwhile.  Each thread has a budget that every one of its own steps lowers by
one and that no step of the other thread raises:

* the goroutine walks a command in at most `2 * commandRetries + 3` steps (the loop head,
  an attempt and a poll per retry, the last poll and the return) and leaves the loop in
  one more, so once spawned it ends, through `HideProgress` or `log.Fatal`, within
  `len(Commands) * (2 * commandRetries + 3) + 1` of its steps;
* the main flow registers in one step, starts a server in one, spawns the goroutine in
  one, takes the signal in one and stops a server in one, so `Run` returns within
  `2 * len(Config.Servers) + 8` of its steps, unless `log.Fatal` ended the process.

A step of the main flow at `waiting` is the arrival of the signal, so a schedule with
enough main steps is one on which the signal comes.
-/

namespace K8sTew

/-! ## The goroutine's budget -/

namespace Task

/-- The goroutine has ended: `utils.HideProgress` returned, or `log.Fatal` ended the
process. -/
def ended : Task → Bool
  | .done | .exited => true
  | _ => false

/-- The steps the command loop takes at most over `rest`: `2 * commandRetries + 3` a
command, and one to leave. -/
def walkBudget (commandRetries : Nat) (rest : List Command) : Nat :=
  rest.length * (2 * commandRetries + 3) + 1

/-- The steps the goroutine takes at most before it ends. -/
def budget (commandRetries : Nat) : Task → Nat
  | .unspawned | .done | .exited => 0
  | .next rest => walkBudget commandRetries rest
  | .poll frame retries _ =>
    2 * (commandRetries - retries) + 2 + walkBudget commandRetries frame.rest
  | .attempt frame retries =>
    2 * (commandRetries - (retries + 1)) + 3 + walkBudget commandRetries frame.rest
  | .returns frame _ => walkBudget commandRetries frame.rest + 1

variable (env : Env) (ic : InternalConfig) (commandRetries : Nat) (stop : Bool)
  (log : List Event)

/-- Every step of the goroutine takes one from its budget, whatever the flag reads. -/
theorem budget_step (t : Task) :
    (t.step env ic commandRetries stop log).1.budget commandRetries ≤
      t.budget commandRetries - 1 := by
  cases t with
  | next rest =>
    cases rest with
    | nil => simp [step, budget]
    | cons command rest =>
      have hwalk : walkBudget commandRetries (command :: rest) =
          walkBudget commandRetries rest + (2 * commandRetries + 3) := by
        simp [walkBudget, Nat.add_mul]; omega
      simp only [step]
      split_ifs <;> (try split) <;> simp [budget, hwalk]
      omega
  | poll frame retries error =>
    simp only [step]
    split_ifs <;> simp [budget] <;> omega
  | attempt frame retries =>
    simp only [step]
    split <;> simp [budget]
    omega
  | returns frame error => cases error <;> simp [step, budget]
  | unspawned | done | exited => simp [step, budget]

theorem eq_of_ended {t : Task} (h : t.ended = true) : t = .done ∨ t = .exited := by
  cases t <;> simp [ended] at h ⊢

/-- A spawned goroutine whose budget is spent has ended. -/
theorem ended_of_budget_eq_zero (t : Task) (ht : t ≠ .unspawned)
    (h : t.budget commandRetries = 0) : t.ended = true := by
  cases t <;> simp [budget, walkBudget, ended] at h ht ⊢

end Task

namespace System

section
variable (env : Env) (commandRetries : Nat)

/-! ## The goroutine ends -/

/-- A step of the goroutine takes one from its budget and leaves it spawned. -/
theorem step_task_budget (s : System) :
    (s.step env commandRetries .task).task.budget commandRetries ≤
        s.task.budget commandRetries - 1 ∧
      ((s.step env commandRetries .task).task = .unspawned ↔ s.task = .unspawned) := by
  unfold step
  split
  · rename_i h
    simp [h, Task.budget]
  · exact ⟨Task.budget_step .., Task.step_eq_unspawned ..⟩

/-- From a sane state with the goroutine spawned, the goroutine has ended once it has
taken as many steps as its budget, whatever the main flow does meanwhile. -/
theorem run_ended_of_budget (ic : InternalConfig) (killTimeout : Nat) :
    ∀ (schedule : List Actor) (s : System), Sane ic killTimeout s → s.task ≠ .unspawned →
      s.task.budget commandRetries ≤ schedule.count .task →
        (run env commandRetries schedule s).task.ended = true
  | [], s, _, hspawned, hcount =>
    Task.ended_of_budget_eq_zero commandRetries s.task hspawned (by simpa using hcount)
  | .main :: schedule, s, hs, hspawned, hcount => by
    have htask := step_main_task env commandRetries ic killTimeout s hs hspawned
    exact run_ended_of_budget ic killTimeout schedule _
      (step_sane env commandRetries ic killTimeout s .main hs) (htask ▸ hspawned)
      (by simpa [htask] using hcount)
  | .task :: schedule, s, hs, hspawned, hcount => by
    obtain ⟨hbudget, hunspawned⟩ := step_task_budget env commandRetries s
    exact run_ended_of_budget ic killTimeout schedule _
      (step_sane env commandRetries ic killTimeout s .task hs) (hunspawned.not.2 hspawned)
      (by simp at hcount; omega)

/-- The goroutine's budget is never above the one it is spawned with. -/
def Budgeted (ic : InternalConfig) (s : System) : Prop :=
  s.task.budget commandRetries ≤ Task.walkBudget commandRetries ic.config.commands

theorem step_budgeted (ic : InternalConfig) (killTimeout : Nat) (s : System) (actor : Actor)
    (hs : Sane ic killTimeout s) (h : Budgeted commandRetries ic s) :
    Budgeted commandRetries ic (s.step env commandRetries actor) := by
  cases actor with
  | main =>
    unfold step
    split
    · exact h
    · rcases mainStep_task env ic killTimeout s hs with ⟨-, -, htask⟩ | ⟨-, htask⟩
      · simp [Budgeted, htask, Task.budget]
      · rwa [Budgeted, htask]
  | task => exact (step_task_budget env commandRetries s).1.trans (Nat.sub_le_of_le_add
      (Nat.le_add_right_of_le h))

theorem run_budgeted (ic : InternalConfig) (killTimeout : Nat) (schedule : List Actor) :
    Budgeted commandRetries ic (run env commandRetries schedule (init ic killTimeout)) :=
  run_sane_invariant env commandRetries ic killTimeout _ (by simp [Budgeted, init, Task.budget])
    (step_budgeted env commandRetries ic killTimeout) schedule

/-- Once `Run` has spawned the goroutine, the goroutine ends, through `HideProgress` or
`log.Fatal`, within `len(Commands) * (2 * commandRetries + 3) + 1` of its own steps,
whatever the main flow does meanwhile. -/
theorem run_goroutine_ends (ic : InternalConfig) (killTimeout : Nat)
    (pre schedule : List Actor)
    (hspawned : (run env commandRetries pre (init ic killTimeout)).task ≠ .unspawned)
    (hcount : ic.config.commands.length * (2 * commandRetries + 3) + 1 ≤
      schedule.count .task) :
    (run env commandRetries (pre ++ schedule) (init ic killTimeout)).task.ended = true := by
  rw [run_append]
  exact run_ended_of_budget env commandRetries ic killTimeout schedule _
    (run_sane env commandRetries ic killTimeout pre) hspawned
    ((run_budgeted env commandRetries ic killTimeout pre).trans hcount)

end

/-- The goroutine of the sample node ends within the six steps its one command is given,
with a budget of one attempt. -/
theorem run_goroutine_ends_sample :
    (run (sampleEnv allSucceed) 1 [.main, .main] (init (sampleConfig [] [sampleCommand]) 0)).task
        ≠ .unspawned ∧
      [sampleCommand].length * (2 * 1 + 3) + 1 ≤
        [Actor.task, .task, .task, .task, .task, .task].count .task ∧
      (run (sampleEnv allSucceed) 1 ([.main, .main] ++ [.task, .task, .task, .task, .task, .task])
        (init (sampleConfig [] [sampleCommand]) 0)).task.ended = true :=
  ⟨by decide, by decide, run_goroutine_ends (sampleEnv allSucceed) 1
    (sampleConfig [] [sampleCommand]) 0 [.main, .main] [.task, .task, .task, .task, .task, .task]
    (by decide) (by decide)⟩

/-! ## `Run` returns -/

/-- The steps the main flow takes at most before `Run` returns, when the signal comes as
soon as it waits: registration, a start per server, the spawn, the wait, a stop per server
and the kill.  Registration adds at most a wrapper per server config and two VIP
managers. -/
def mainBudget (s : System) : Nat :=
  match s.main with
  | .start => 2 * (s.servers.servers.length + s.servers.config.config.servers.length + 2) + 4
  | .starting pending => pending.length + s.servers.servers.length + 3
  | .waiting => s.servers.servers.length + 2
  | .stopping pending => pending.length + 1
  | .returned _ => 0

/-- A main flow whose budget is spent has returned. -/
theorem returned_of_mainBudget_eq_zero (s : System) (h : s.mainBudget = 0) :
    ∃ result, s.main = .returned result := by
  rcases s with ⟨servers, main, task, log⟩
  cases main <;> simp [mainBudget] at h ⊢

section
variable (env : Env) (commandRetries : Nat)

/-- Every step of the main flow takes one from its budget. -/
theorem mainBudget_mainStep (s : System) : (s.mainStep env).mainBudget ≤ s.mainBudget - 1 := by
  rcases s with ⟨servers, main, task, log⟩
  cases main with
  | start =>
    simp only [mainStep]
    split
    · simp [mainBudget]
    · split
      · simp [mainBudget]
      · rename_i servers' hadd
        obtain ⟨hconfig, -, -, hlength⟩ := Servers.addServers_frame env servers servers' hadd
        simp only [mainBudget, hconfig]
        omega
  | starting pending =>
    cases pending with
    | nil => simp [mainStep, mainBudget]
    | cons server pending =>
      cases hstart : env.oracle log (.start server) <;> simp [mainStep, mainBudget, hstart]
      omega
  | waiting => simp [mainStep, mainBudget]
  | stopping pending => cases pending <;> simp [mainStep, mainBudget]
  | returned result => simp [mainStep, mainBudget]

/-- From any state, `Run` has returned, or `log.Fatal` ended the process, once the main
flow has taken as many steps as its budget, whatever the goroutine does meanwhile. -/
theorem run_returned_of_mainBudget :
    ∀ (schedule : List Actor) (s : System), s.mainBudget ≤ schedule.count .main →
      (run env commandRetries schedule s).task = .exited ∨
        ∃ result, (run env commandRetries schedule s).main = .returned result
  | [], s, hcount => .inr (returned_of_mainBudget_eq_zero s (by simpa using hcount))
  | actor :: schedule, s, hcount => by
    by_cases hexited : s.task = .exited
    · exact .inl (by rw [run_exited env commandRetries s hexited]; exact hexited)
    · refine run_returned_of_mainBudget schedule _ ?_
      cases actor with
      | main =>
        have := mainBudget_mainStep env s
        simp [step, hexited] at hcount ⊢
        omega
      | task => simpa [step, hexited, mainBudget] using hcount

/-- `NewServers(config, killTimeout).Run(...)` returns, or `log.Fatal` ends the process,
within `2 * len(Config.Servers) + 8` steps of its main flow, whatever the goroutine does
meanwhile. -/
theorem run_returns (ic : InternalConfig) (killTimeout : Nat) (schedule : List Actor)
    (hcount : 2 * ic.config.servers.length + 8 ≤ schedule.count .main) :
    (run env commandRetries schedule (init ic killTimeout)).task = .exited ∨
      ∃ result, (run env commandRetries schedule (init ic killTimeout)).main = .returned result :=
  run_returned_of_mainBudget env commandRetries schedule _
    (by simpa [mainBudget, init, newServers, Nat.mul_add] using hcount)

end

/-- The sample node with the etcd server config: `Run` returns within ten steps of its
main flow, the goroutine never scheduled. -/
theorem run_returns_sample :
    2 * (sampleConfig [etcdServer] [sampleCommand]).config.servers.length + 8 ≤
        (List.replicate 10 Actor.main).count .main ∧
      ((run (sampleEnv allSucceed) 1 (List.replicate 10 .main)
          (init (sampleConfig [etcdServer] [sampleCommand]) 0)).task = .exited ∨
        ∃ result, (run (sampleEnv allSucceed) 1 (List.replicate 10 .main)
          (init (sampleConfig [etcdServer] [sampleCommand]) 0)).main = .returned result) :=
  ⟨by decide, run_returns (sampleEnv allSucceed) 1 (sampleConfig [etcdServer] [sampleCommand]) 0
    _ (by decide)⟩

end System

end K8sTew
