import K8sTew.Servers.Properties
set_option autoImplicit false

/-!
# Servers: `Run`'s own flow does not depend on the interleaving

The command goroutine shares three things with `Run`'s own flow: the flag `servers.stop`,
which only the main flow writes; the log; and the process, which `log.Fatal` ends.  Every
external call of the main flow (the extraction, `NewServerWrapper`, each `Start`) is made
before the goroutine is spawned, and after the spawn the main flow only appends entries
that read nothing of what the goroutine did.  So, as long as the goroutine has not called
`log.Fatal`, the main flow is where it would be had it run alone for as many of its own
steps: at the same program point, with the same supervisor record and the same
supervisor entries, its own log a sublist of the interleaved one.

The proof is a simulation of the interleaved run by the main-only run: a goroutine step
is matched by no step, a main step by the same main step, and `MainAgrees` is kept.
-/

namespace K8sTew

namespace System

/-- The main flow of `s` is where the main flow of `t` is: same program point and
supervisor record, same supervisor entries, `t`'s log a sublist of `s`'s, and the same
log up to the spawn. -/
structure MainAgrees (s t : System) : Prop where
  main : s.main = t.main
  servers : s.servers = t.servers
  supervisor : supervisorEvents s.log = supervisorEvents t.log
  sublist : List.Sublist t.log s.log
  unspawned : s.main.spawned = false → s.log = t.log

section
variable (env : Env) (commandRetries : Nat)

/-- The goroutine does nothing before it is spawned. -/
theorem taskStep_of_unspawned (s : System) (h : s.task = .unspawned) :
    s.taskStep env commandRetries = s := by
  rcases s with ⟨servers, main, task, log⟩
  simp only at h
  subst h
  simp [taskStep, Task.step]

/-- Two states that differ only in the goroutine take the same main step. -/
theorem mainStep_task_irrelevant (servers : Servers) (main : Main) (task task' : Task)
    (log : List Event) :
    let s := mainStep env ⟨servers, main, task, log⟩
    let t := mainStep env ⟨servers, main, task', log⟩
    s.main = t.main ∧ s.servers = t.servers ∧ s.log = t.log := by
  cases main with
  | start =>
    simp only [mainStep]
    split
    · exact ⟨rfl, rfl, rfl⟩
    · split <;> exact ⟨rfl, rfl, rfl⟩
  | starting pending =>
    cases pending with
    | nil => exact ⟨rfl, rfl, rfl⟩
    | cons server pending =>
      simp only [mainStep]
      split <;> exact ⟨rfl, rfl, rfl⟩
  | stopping pending => cases pending <;> exact ⟨rfl, rfl, rfl⟩
  | waiting | returned _ => exact ⟨rfl, rfl, rfl⟩

/-- A main step appends the same entries to two states whose main flows agree. -/
theorem mainStep_agrees (s t : System) (h : MainAgrees s t) :
    ∃ es, (s.mainStep env).log = s.log ++ es ∧ (t.mainStep env).log = t.log ++ es ∧
      (s.mainStep env).main = (t.mainStep env).main ∧
      (s.mainStep env).servers = (t.mainStep env).servers := by
  obtain ⟨es, hes, -⟩ := mainStep_frame env s
  rcases s with ⟨servers, main, task, log⟩
  rcases t with ⟨servers', main', task', log'⟩
  obtain ⟨hmain, hservers, -, -, hlog⟩ := h
  simp only at hmain hservers hlog
  subst hmain hservers
  cases hspawned : main.spawned
  · obtain rfl := hlog hspawned
    obtain ⟨hm, hs, hl⟩ := mainStep_task_irrelevant env servers main task task' log
    exact ⟨es, hes, hl ▸ hes, hm, hs⟩
  · cases main with
    | waiting | returned _ => exact ⟨es, hes, by simpa [mainStep] using hes, rfl, rfl⟩
    | stopping pending =>
      cases pending <;> exact ⟨es, hes, by simpa [mainStep] using hes, rfl, rfl⟩
    | start | starting _ => simp [Main.spawned] at hspawned

/-- A main step of both runs keeps the agreement. -/
theorem mainAgrees_mainStep (s t : System) (h : MainAgrees s t) :
    MainAgrees (s.mainStep env) (t.mainStep env) := by
  obtain ⟨es, hs, ht, hmain, hservers⟩ := mainStep_agrees env s t h
  refine ⟨hmain, hservers, ?_, ?_, fun hsp => ?_⟩
  · rw [hs, ht, supervisorEvents_append, supervisorEvents_append, h.supervisor]
  · rw [hs, ht]
    exact h.sublist.append_right es
  · obtain ⟨-, -, -, -, -, -, -, -, -, -, hphase⟩ := mainStep_frame env s
    have hunspawned : s.main.spawned = false :=
      (by simpa [hsp] using hphase : s.main.spawned = false ∧ s.main ≠ .starting []).1
    rw [hs, ht, h.unspawned hunspawned]

/-- A goroutine step of the interleaved run alone keeps the agreement. -/
theorem mainAgrees_taskStep (ic : InternalConfig) (killTimeout : Nat) (s t : System)
    (hsane : Sane ic killTimeout s) (h : MainAgrees s t) :
    MainAgrees (s.taskStep env commandRetries) t := by
  cases hspawned : s.main.spawned
  · rwa [taskStep_of_unspawned env commandRetries s (hsane.spawned.2 hspawned)]
  · obtain ⟨hquiet, -, -⟩ := Task.step_quiet env s.servers.config commandRetries
      s.servers.stop s.log s.task
    refine ⟨h.main, h.servers, ?_, h.sublist.trans (List.sublist_append_left _ _),
      fun hsp => absurd (hspawned ▸ hsp) (by simp)⟩
    simp [taskStep, hquiet, h.supervisor]

/-- The main-only run simulates every interleaved run, up to `log.Fatal`. -/
theorem run_mainAgrees (ic : InternalConfig) (killTimeout : Nat) :
    ∀ (schedule : List Actor) (s t : System), Sane ic killTimeout s → t.task ≠ .exited →
      MainAgrees s t → (run env commandRetries schedule s).task ≠ .exited →
        MainAgrees (run env commandRetries schedule s)
          (run env commandRetries (schedule.filter (· == .main)) t)
  | [], _, _, _, _, h, _ => h
  | actor :: schedule, s, t, hsane, ht, h, hlive => by
    have hs : s.task ≠ .exited := fun hex =>
      hlive (by rw [run_exited env commandRetries s hex]; exact hex)
    have hsane' := step_sane env commandRetries ic killTimeout s actor hsane
    cases actor with
    | main =>
      have hstep : s.step env commandRetries .main = s.mainStep env := if_neg hs
      have ht' : (t.mainStep env).task ≠ .exited := by
        obtain ⟨-, -, -, -, -, -, -, -, hspawn, hkeep, -⟩ := mainStep_frame env t
        by_cases hstart : t.main = .starting []
        · simp [hspawn hstart]
        · rwa [hkeep hstart]
      rw [run_cons, hstep] at hlive ⊢
      rw [List.filter_cons_of_pos rfl, run_cons, show t.step env commandRetries .main =
        t.mainStep env from if_neg ht]
      exact run_mainAgrees ic killTimeout schedule _ _ (hstep ▸ hsane') ht'
        (mainAgrees_mainStep env s t h) hlive
    | task =>
      have hstep : s.step env commandRetries .task = s.taskStep env commandRetries := if_neg hs
      rw [run_cons, hstep] at hlive ⊢
      rw [List.filter_cons_of_neg (by decide)]
      exact run_mainAgrees ic killTimeout schedule _ _ (hstep ▸ hsane') ht
        (mainAgrees_taskStep env commandRetries ic killTimeout s t hsane h) hlive

/-- Along every interleaving in which the goroutine has not called `log.Fatal`, `Run`'s own
flow is where it is when it runs alone for as many of its own steps: at the same program
point (so it has returned, and with the same result, exactly when it has alone), with the
same supervisor record (flag included) and the same `Start`, signal, `Stop` and kill
entries, and with every entry of its own in the interleaved log, in order. -/
theorem run_main_flow_oblivious (ic : InternalConfig) (killTimeout : Nat)
    (schedule : List Actor)
    (hlive : (run env commandRetries schedule (init ic killTimeout)).task ≠ .exited) :
    (run env commandRetries schedule (init ic killTimeout)).main =
        (run env commandRetries (schedule.filter (· == .main)) (init ic killTimeout)).main ∧
      (run env commandRetries schedule (init ic killTimeout)).servers =
        (run env commandRetries (schedule.filter (· == .main)) (init ic killTimeout)).servers ∧
      supervisorEvents (run env commandRetries schedule (init ic killTimeout)).log =
        supervisorEvents
          (run env commandRetries (schedule.filter (· == .main)) (init ic killTimeout)).log ∧
      List.Sublist
        (run env commandRetries (schedule.filter (· == .main)) (init ic killTimeout)).log
        (run env commandRetries schedule (init ic killTimeout)).log := by
  obtain ⟨hmain, hservers, hsup, hsub, -⟩ := run_mainAgrees env commandRetries ic killTimeout
    schedule _ _ (sane_init ic killTimeout) (by simp [init])
    ⟨rfl, rfl, rfl, List.Sublist.refl _, fun _ => rfl⟩ hlive
  exact ⟨hmain, hservers, hsup, hsub⟩

end

/-- The witness of `run_main_flow_oblivious`: the goroutine runs its command while the main
flow waits, takes the signal and stops etcd. -/
theorem run_main_flow_oblivious_sample :
    (run (sampleEnv allSucceed) 1 [.main, .main, .task, .main, .task, .main, .task, .main]
        (init (sampleConfig [etcdServer] [sampleCommand]) 0)).task ≠ .exited ∧
      (run (sampleEnv allSucceed) 1 [.main, .main, .task, .main, .task, .main, .task, .main]
          (init (sampleConfig [etcdServer] [sampleCommand]) 0)).main =
        (run (sampleEnv allSucceed) 1
          ([.main, .main, .task, .main, .task, .main, .task, .main].filter (· == .main))
          (init (sampleConfig [etcdServer] [sampleCommand]) 0)).main ∧
      (run (sampleEnv allSucceed) 1 [.main, .main, .task, .main, .task, .main, .task, .main]
          (init (sampleConfig [etcdServer] [sampleCommand]) 0)).servers =
        (run (sampleEnv allSucceed) 1
          ([.main, .main, .task, .main, .task, .main, .task, .main].filter (· == .main))
          (init (sampleConfig [etcdServer] [sampleCommand]) 0)).servers ∧
      supervisorEvents (run (sampleEnv allSucceed) 1
          [.main, .main, .task, .main, .task, .main, .task, .main]
          (init (sampleConfig [etcdServer] [sampleCommand]) 0)).log =
        supervisorEvents (run (sampleEnv allSucceed) 1
          ([.main, .main, .task, .main, .task, .main, .task, .main].filter (· == .main))
          (init (sampleConfig [etcdServer] [sampleCommand]) 0)).log ∧
      List.Sublist (run (sampleEnv allSucceed) 1
          ([.main, .main, .task, .main, .task, .main, .task, .main].filter (· == .main))
          (init (sampleConfig [etcdServer] [sampleCommand]) 0)).log
        (run (sampleEnv allSucceed) 1 [.main, .main, .task, .main, .task, .main, .task, .main]
          (init (sampleConfig [etcdServer] [sampleCommand]) 0)).log :=
  ⟨by decide, run_main_flow_oblivious (sampleEnv allSucceed) 1
    (sampleConfig [etcdServer] [sampleCommand]) 0
    [.main, .main, .task, .main, .task, .main, .task, .main] (by decide)⟩

end System

end K8sTew
