import K8sTew.Servers.Task
set_option autoImplicit false

/-!
# Servers: `Run` as a system of two threads

`Servers.Run` extracts the host binaries, registers the servers, starts them in order,
spawns the command goroutine, blocks on SIGINT/SIGTERM, sets `servers.stop`, and on
return runs the deferred loop that stops every server and kills the leftover children:

    for _, server := range servers.servers {
      if error := server.Start(); error != nil {
        return error
      }
      utils.IncreaseProgressStep()
    }
    defer func() { ... server.Stop() ... utils.KillProcessChildren(...) }()
    go func() { ... }()
    <-signals
    servers.stop = true
    return nil

`Main` names the program points of that flow and `System` pairs it with the goroutine's
`Task`, the supervisor record (whose `stop` field is the shared flag) and the log.  A run
is a schedule: a list of which thread moves next.  Every interleaving of the two threads,
and every moment the signal can arrive, is some schedule, so a property of every run
holds of every interleaving.  `log.Fatal` ends the process: once the goroutine has
`exited`, no thread moves again.  The signal is taken where `Run` waits for it: a signal
before `signal.Notify` kills the process by Go's default handling, which is left out.

The properties of runs are proved as invariants: one step keeps them (`step_*` lemmas)
and so every run does (`run_invariant`).
-/

namespace K8sTew

/-- Program points of `Servers.Run`'s own flow. -/
inductive Main
  /-- entry of `Run` -/
  | start
  /-- the start loop, with `pending` still to start -/
  | starting (pending : List Server)
  /-- blocked on `<-signals` -/
  | waiting
  /-- the deferred stop loop, with `pending` still to stop -/
  | stopping (pending : List Server)
  /-- `Run` returned `result` -/
  | returned (result : Option Error)
  deriving DecidableEq, Repr

/-- Whether the goroutine has been spawned by the time the main flow is here. -/
def Main.spawned : Main → Bool
  | .waiting | .stopping _ | .returned none => true
  | .start | .starting _ | .returned (some _) => false

/-- The process running `Servers.Run`: the supervisor, both threads and the log. -/
structure System where
  servers : Servers
  main : Main
  task : Task
  log : List Event

/-- The thread a step of a run belongs to. -/
inductive Actor
  | main
  | task
  deriving DecidableEq, Repr

/-! ## What a log records of the supervisor -/

/-- Whether an entry is the supervisor's own: a `Start`, a `Stop`, the signal or the kill. -/
def Event.isSupervisor : Event → Bool
  | .call (.start _) _ | .stop _ | .signalReceived | .killProcessChildren _ => true
  | _ => false

/-- The supervisor's own entries of a log, in order. -/
def supervisorEvents (log : List Event) : List Event := log.filter Event.isSupervisor

/-- The `Start` call an entry records, with what it returned. -/
def Event.startCall? : Event → Option (Server × Option Error)
  | .call (.start server) result => some (server, result)
  | _ => none

/-- The `Start` calls of a log, each with what it returned. -/
def startCalls (log : List Event) : List (Server × Option Error) :=
  log.filterMap Event.startCall?

/-- Whether an entry is a `Start` call that returned `nil`. -/
def Event.isStarted : Event → Bool
  | .call (.start _) none => true
  | _ => false

/-- How many `Start` calls of a log returned `nil`. -/
def startsSucceeded (log : List Event) : Nat := log.countP Event.isStarted

/-- The entries after the first `signalReceived`. -/
def afterSignal : List Event → List Event
  | [] => []
  | e :: rest => if e = .signalReceived then rest else afterSignal rest

@[simp] theorem supervisorEvents_append (l₁ l₂ : List Event) :
    supervisorEvents (l₁ ++ l₂) = supervisorEvents l₁ ++ supervisorEvents l₂ :=
  List.filter_append _ _

@[simp] theorem supervisorEvents_nil : supervisorEvents [] = [] := rfl

@[simp] theorem supervisorEvents_cons (e : Event) (log : List Event) :
    supervisorEvents (e :: log) =
      if e.isSupervisor then e :: supervisorEvents log else supervisorEvents log :=
  List.filter_cons

@[simp] theorem startsSucceeded_nil : startsSucceeded [] = 0 := rfl

@[simp] theorem startsSucceeded_cons (e : Event) (log : List Event) :
    startsSucceeded (e :: log) = startsSucceeded log + if e.isStarted then 1 else 0 :=
  List.countP_cons _ _ _

@[simp] theorem startsSucceeded_append (l₁ l₂ : List Event) :
    startsSucceeded (l₁ ++ l₂) = startsSucceeded l₁ + startsSucceeded l₂ :=
  List.countP_append _ _ _

@[simp] theorem startCalls_append (l₁ l₂ : List Event) :
    startCalls (l₁ ++ l₂) = startCalls l₁ ++ startCalls l₂ :=
  List.filterMap_append _ _ _

/-- Every `Start` call is one of the supervisor's entries. -/
theorem startCalls_supervisorEvents (log : List Event) :
    startCalls (supervisorEvents log) = startCalls log := by
  induction log with
  | nil => rfl
  | cons e log ih =>
    rw [← List.singleton_append, supervisorEvents_append, startCalls_append, startCalls_append,
      ih]
    congr 1
    cases e with
    | call c r => cases c <;> rfl
    | _ => rfl

theorem afterSignal_append_of_mem {l₁ : List Event} (h : .signalReceived ∈ l₁)
    (l₂ : List Event) : afterSignal (l₁ ++ l₂) = afterSignal l₁ ++ l₂ := by
  induction l₁ with
  | nil => simp at h
  | cons e l₁ ih =>
    by_cases he : e = .signalReceived
    · simp [afterSignal, he]
    · have : .signalReceived ∈ l₁ := by simpa [Ne.symm he] using h
      simp [afterSignal, he, ih this]

theorem afterSignal_append_of_not_mem {l₁ : List Event} (h : .signalReceived ∉ l₁)
    (l₂ : List Event) : afterSignal (l₁ ++ l₂) = afterSignal l₂ := by
  induction l₁ with
  | nil => rfl
  | cons e l₁ ih =>
    have ⟨he, hl₁⟩ : e ≠ .signalReceived ∧ .signalReceived ∉ l₁ := by
      simpa [eq_comm] using h
    simp [afterSignal, he, ih hl₁]

/-- Whatever follows a `signalReceived` entry follows the first one. -/
theorem suffix_afterSignal (pre post : List Event) :
    post <:+ afterSignal (pre ++ .signalReceived :: post) := by
  induction pre with
  | nil => simp [afterSignal]
  | cons e pre ih =>
    by_cases he : e = .signalReceived
    · simp only [List.cons_append, afterSignal, he, if_true]
      exact (List.suffix_cons _ _).trans (List.suffix_append _ _)
    · simpa [afterSignal, he] using ih

theorem afterSignal_suffix : ∀ log : List Event, afterSignal log <:+ log
  | [] => List.suffix_refl _
  | e :: log => by
    by_cases he : e = .signalReceived
    · simp [afterSignal, he]
    · simpa [afterSignal, he] using (afterSignal_suffix log).trans (List.suffix_cons e log)

theorem runCommandAttempts_le_of_suffix {l₁ l₂ : List Event} (h : l₁ <:+ l₂) :
    runCommandAttempts l₁ ≤ runCommandAttempts l₂ :=
  h.sublist.countP_le _

/-- An extraction entry, a log line or a file operation, is no supervisor entry, no
`runCommand` call, no `utils.RunCommand` attempt, no progress step, no successful `Start`
and not the signal. -/
theorem isExtraction_quiet {e : Event} (h : Servers.isExtraction e = true) :
    e.isSupervisor = false ∧ e.runCommandCall? = none ∧ e.isRunCommand = false ∧
      e ≠ .increaseProgressStep ∧ e.isStarted = false ∧ e ≠ .signalReceived := by
  cases e <;> simp only [Servers.isExtraction, Bool.false_eq_true] at h
  case call c r =>
    cases c <;> simp only [Servers.isExtraction, Bool.false_eq_true] at h <;>
      exact ⟨rfl, rfl, rfl, by simp, rfl, by simp⟩
  case log => exact ⟨rfl, rfl, rfl, by simp, rfl, by simp⟩

/-- The extraction's entries hold no supervisor entry, no `runCommand` call, no
`utils.RunCommand` attempt, no progress step, no successful `Start` and not the signal. -/
theorem quiet_of_isExtraction {es : List Event} (h : ∀ e ∈ es, Servers.isExtraction e = true) :
    supervisorEvents es = [] ∧ runCommandCalls es = [] ∧ runCommandAttempts es = 0 ∧
      progressSteps es = 0 ∧ startsSucceeded es = 0 ∧ .signalReceived ∉ es := by
  have hq := fun e he => isExtraction_quiet (h e he)
  refine ⟨List.filter_eq_nil_iff.2 fun e he => ?_, List.filterMap_eq_nil_iff.2 fun e he => ?_,
    List.countP_eq_zero.2 fun e he => ?_, List.count_eq_zero.2 fun he => ?_,
    List.countP_eq_zero.2 fun e he => ?_, fun he => ?_⟩
  · simp [(hq e he).1]
  · exact (hq e he).2.1
  · simp [(hq e he).2.2.1]
  · exact (hq _ he).2.2.2.1 rfl
  · simp [(hq e he).2.2.2.2.1]
  · exact (hq _ he).2.2.2.2.2 rfl

/-- The goroutine's entries are not the supervisor's. -/
theorem Task.step_quiet (env : Env) (ic : InternalConfig) (commandRetries : Nat) (stop : Bool)
    (log : List Event) (t : Task) :
    supervisorEvents (t.step env ic commandRetries stop log).2 = [] ∧
      startsSucceeded (t.step env ic commandRetries stop log).2 = 0 ∧
      .signalReceived ∉ (t.step env ic commandRetries stop log).2 := by
  cases t with
  | next rest =>
    cases rest with
    | nil => simp [Task.step, Event.isSupervisor, Event.isStarted]
    | cons command rest =>
      simp only [Task.step]
      split_ifs <;> (try split) <;> simp [Event.isSupervisor, Event.isStarted]
  | poll frame retries error =>
    simp only [Task.step]
    split_ifs <;> simp
  | attempt frame retries =>
    simp only [Task.step]
    split <;> simp [Event.isSupervisor, Event.isStarted]
  | returns frame error =>
    cases error <;> simp [Task.step, Event.isSupervisor, Event.isStarted]
  | unspawned | done | exited => simp [Task.step]

namespace System

/-- `NewServers(config, killTimeout).Run(...)` before its first step. -/
def init (ic : InternalConfig) (killTimeout : Nat) : System :=
  { servers := newServers ic killTimeout, main := .start, task := .unspawned, log := [] }

/-- One step of `Run`'s own flow.  The step from `starting []` is `go func()` and
`signal.Notify` together, and SIGINT/SIGTERM is taken only at `waiting`, the
`<-signals`.  A signal that comes before `signal.Notify` ends the process through Go's
default handling, with no `Stop` and no `KillProcessChildren`; that ending is not
modelled. -/
def mainStep (env : Env) (s : System) : System :=
  match s.main with
  | .start =>
    match Servers.extractEmbeddedFiles env s.log with
    | (some e, log) => { s with main := .returned (some e), log := log }
    | (none, log) =>
      match Servers.addServers env s.servers with
      | .error e => { s with main := .returned (some e), log := log }
      | .ok servers => { s with servers := servers, main := .starting servers.servers, log := log }
  | .starting [] => { s with main := .waiting, task := .next s.servers.config.config.commands }
  | .starting (server :: pending) =>
    match env.oracle s.log (.start server) with
    | some e =>
      { s with main := .returned (some e),
               log := s.log ++ [.call (.start server) (some e), .log .error "Server start failed"] }
    | none =>
      { s with main := .starting pending,
               log := s.log ++ [.call (.start server) none, .increaseProgressStep] }
  | .waiting =>
    { s with servers := { s.servers with stop := true }, main := .stopping s.servers.servers,
             log := s.log ++ [.signalReceived] }
  | .stopping [] =>
    { s with main := .returned none,
             log := s.log ++ [.log .info "Stopped all servers",
               .killProcessChildren s.servers.killTimeout] }
  | .stopping (server :: pending) =>
    { s with main := .stopping pending,
             log := s.log ++ [.log .info "Stopping server", .stop server] }
  | .returned _ => s

/-- One step of the command goroutine, reading the flag as the supervisor holds it now. -/
def taskStep (env : Env) (commandRetries : Nat) (s : System) : System :=
  { s with task := (s.task.step env s.servers.config commandRetries s.servers.stop s.log).1,
           log := s.log ++
             (s.task.step env s.servers.config commandRetries s.servers.stop s.log).2 }

/-- One step of `actor`; after `log.Fatal` nothing moves. -/
def step (env : Env) (commandRetries : Nat) (s : System) (actor : Actor) : System :=
  if s.task = .exited then s
  else
    match actor with
    | .main => s.mainStep env
    | .task => s.taskStep env commandRetries

/-- The run of `Run(commandRetries)` along a schedule. -/
def run (env : Env) (commandRetries : Nat) : List Actor → System → System
  | [], s => s
  | actor :: schedule, s => run env commandRetries schedule (s.step env commandRetries actor)

section
variable (env : Env) (commandRetries : Nat)

@[simp] theorem run_nil (s : System) : run env commandRetries [] s = s := rfl

@[simp] theorem run_cons (actor : Actor) (schedule : List Actor) (s : System) :
    run env commandRetries (actor :: schedule) s =
      run env commandRetries schedule (s.step env commandRetries actor) := rfl

/-- A property every step keeps holds all along every run. -/
theorem run_invariant (P : System → Prop)
    (hstep : ∀ s actor, P s → P (s.step env commandRetries actor)) :
    ∀ (schedule : List Actor) (s : System), P s → P (run env commandRetries schedule s)
  | [], _, h => h
  | actor :: schedule, s, h => run_invariant P hstep schedule _ (hstep s actor h)

theorem run_append (l₁ l₂ : List Actor) (s : System) :
    run env commandRetries (l₁ ++ l₂) s =
      run env commandRetries l₂ (run env commandRetries l₁ s) := by
  induction l₁ generalizing s with
  | nil => rfl
  | cons actor l₁ ih => exact ih _

/-- After `log.Fatal` the process is gone: no schedule changes anything. -/
theorem run_exited (s : System) (h : s.task = .exited) :
    ∀ schedule, run env commandRetries schedule s = s
  | [] => rfl
  | actor :: schedule => by simp [step, h, run_exited s h schedule]

@[simp] theorem taskStep_main (s : System) : (s.taskStep env commandRetries).main = s.main := rfl

@[simp] theorem taskStep_servers (s : System) :
    (s.taskStep env commandRetries).servers = s.servers := rfl

@[simp] theorem taskStep_task (s : System) : (s.taskStep env commandRetries).task =
    (s.task.step env s.servers.config commandRetries s.servers.stop s.log).1 := rfl

@[simp] theorem taskStep_log (s : System) : (s.taskStep env commandRetries).log =
    s.log ++ (s.task.step env s.servers.config commandRetries s.servers.stop s.log).2 := rfl

end

/-! ## What every run keeps -/

/-- What a step of the main flow does besides the supervisor's own entries: it appends
entries with no `runCommand` call and no `utils.RunCommand`, whose progress steps are its
successful `Start` calls; it keeps the
configuration and the kill timeout; it sets the flag exactly with the signal; and it
touches the goroutine only to spawn it, at the end of the start loop. -/
theorem mainStep_frame (env : Env) (s : System) :
    ∃ es, (s.mainStep env).log = s.log ++ es ∧ runCommandCalls es = [] ∧
      runCommandAttempts es = 0 ∧ progressSteps es = startsSucceeded es ∧
      (s.mainStep env).servers.config = s.servers.config ∧
      (s.mainStep env).servers.killTimeout = s.servers.killTimeout ∧
      ((s.mainStep env).servers.stop = true ↔
        s.servers.stop = true ∨ .signalReceived ∈ es) ∧
      (s.main = .starting [] → (s.mainStep env).task = .next s.servers.config.config.commands) ∧
      (s.main ≠ .starting [] → (s.mainStep env).task = s.task) ∧
      ((s.mainStep env).main.spawned = true ↔
        s.main.spawned = true ∨ s.main = .starting []) := by
  rcases s with ⟨servers, main, task, log⟩
  cases main with
  | start =>
    obtain ⟨es, hes, hextract⟩ := Servers.extractEmbeddedFiles_log env log
    obtain ⟨-, q₂, q₃, q₄, q₅, q₆⟩ := quiet_of_isExtraction hextract
    have hx : Servers.extractEmbeddedFiles env log = (none, log ++ es) := Prod.ext rfl hes
    refine ⟨es, ?_⟩
    cases hadd : Servers.addServers env servers with
    | error e => simp [mainStep, hx, hadd, q₂, q₃, q₄, q₅, q₆, Main.spawned]
    | ok servers' =>
      obtain ⟨hconfig, hstop, hkill, -⟩ := Servers.addServers_frame env servers servers' hadd
      simp [mainStep, hx, hadd, q₂, q₃, q₄, q₅, q₆, hconfig, hstop, hkill, Main.spawned]
  | starting pending =>
    cases pending with
    | nil => exact ⟨[], by simp [mainStep, Main.spawned]⟩
    | cons server pending =>
      cases hstart : env.oracle log (.start server) <;>
        exact ⟨_, by simp only [mainStep, hstart]; rfl, by simp [mainStep, hstart,
          Event.runCommandCall?, Event.isRunCommand, Event.isStarted, Main.spawned]⟩
  | waiting => exact ⟨_, by simp only [mainStep]; rfl, by simp [mainStep, Event.runCommandCall?,
      Event.isRunCommand, Event.isStarted, Main.spawned]⟩
  | stopping pending =>
    cases pending <;> exact ⟨_, by simp only [mainStep]; rfl, by simp [mainStep,
      Event.runCommandCall?, Event.isRunCommand, Event.isStarted, Main.spawned]⟩
  | returned result => exact ⟨[], by simp [mainStep]⟩

/-- A step only appends to the log. -/
theorem step_log_grows (env : Env) (commandRetries : Nat) (s : System) (actor : Actor) :
    s.log <+: (s.step env commandRetries actor).log := by
  unfold step
  split
  · exact List.prefix_refl _
  · cases actor with
    | main =>
      obtain ⟨es, hlog, -⟩ := mainStep_frame env s
      exact ⟨es, hlog.symm⟩
    | task => exact ⟨_, (taskStep_log env commandRetries s).symm⟩

/-- A run only appends to the log. -/
theorem run_log_grows (env : Env) (commandRetries : Nat) :
    ∀ (schedule : List Actor) (s : System), s.log <+: (run env commandRetries schedule s).log
  | [], _ => List.prefix_refl _
  | actor :: schedule, s =>
    (step_log_grows env commandRetries s actor).trans (run_log_grows env commandRetries schedule _)

/-- Once `Run` has returned with the goroutine never spawned, no step changes anything. -/
theorem run_of_returned_unspawned (env : Env) (commandRetries : Nat) (s : System)
    (result : Option Error) (hmain : s.main = .returned result) (htask : s.task = .unspawned) :
    ∀ schedule, run env commandRetries schedule s = s
  | [] => rfl
  | actor :: schedule => by
    have hstep : s.step env commandRetries actor = s := by
      rcases s with ⟨servers, main, task, log⟩
      simp only at hmain htask
      subst hmain htask
      cases actor <;> simp [step, mainStep, taskStep, Task.step]
    rw [run_cons, hstep, run_of_returned_unspawned env commandRetries s result hmain htask schedule]

/-- What holds in every state a run of `Run` reaches: the supervisor keeps its
configuration and kill timeout, the flag is set exactly when the signal has been received,
and the goroutine exists exactly once the main flow is past the start loop. -/
structure Sane (ic : InternalConfig) (killTimeout : Nat) (s : System) : Prop where
  config : s.servers.config = ic
  killTimeout : s.servers.killTimeout = killTimeout
  stop : s.servers.stop = true ↔ .signalReceived ∈ s.log
  spawned : s.task = .unspawned ↔ s.main.spawned = false

theorem sane_init (ic : InternalConfig) (killTimeout : Nat) :
    Sane ic killTimeout (init ic killTimeout) :=
  ⟨rfl, rfl, by simp [init, newServers], by simp [init, Main.spawned]⟩

theorem step_sane (env : Env) (commandRetries : Nat) (ic : InternalConfig) (killTimeout : Nat)
    (s : System) (actor : Actor) (h : Sane ic killTimeout s) :
    Sane ic killTimeout (s.step env commandRetries actor) := by
  unfold step
  split
  · exact h
  · cases actor with
    | main =>
      obtain ⟨es, hlog, -, -, -, hconfig, hkill, hstop, hspawn, hkeep, hphase⟩ :=
        mainStep_frame env s
      refine ⟨hconfig.trans h.config, hkill.trans h.killTimeout, ?_, ?_⟩
      · rw [hstop, h.stop, hlog, List.mem_append]
      · by_cases hstart : s.main = .starting []
        · simp [hspawn hstart, hphase, hstart]
        · rw [hkeep hstart, h.spawned, ← Bool.not_eq_true, ← Bool.not_eq_true, hphase]
          simp [hstart]
    | task =>
      obtain ⟨-, -, hsignal⟩ := Task.step_quiet env s.servers.config commandRetries
        s.servers.stop s.log s.task
      refine ⟨h.config, h.killTimeout, ?_, ?_⟩
      · simp [h.stop, hsignal]
      · simp [Task.step_eq_unspawned, h.spawned]

/-- The main flow spawns the goroutine at `starting []`, where it was never spawned. -/
theorem mainStep_task (env : Env) (ic : InternalConfig) (killTimeout : Nat) (s : System)
    (h : Sane ic killTimeout s) :
    (s.main = .starting [] ∧ s.task = .unspawned ∧
        (s.mainStep env).task = .next ic.config.commands) ∨
      (s.main ≠ .starting [] ∧ (s.mainStep env).task = s.task) := by
  obtain ⟨-, -, -, -, -, -, -, -, hspawn, hkeep, -⟩ := mainStep_frame env s
  by_cases hstart : s.main = .starting []
  · refine .inl ⟨hstart, h.spawned.2 (by simp [hstart, Main.spawned]), ?_⟩
    rw [hspawn hstart, h.config]
  · exact .inr ⟨hstart, hkeep hstart⟩

/-- A step of the main flow leaves a spawned goroutine where it is. -/
theorem step_main_task (env : Env) (commandRetries : Nat) (ic : InternalConfig)
    (killTimeout : Nat) (s : System) (hs : Sane ic killTimeout s)
    (hspawned : s.task ≠ .unspawned) : (s.step env commandRetries .main).task = s.task := by
  unfold step
  split
  · rfl
  · rcases mainStep_task env ic killTimeout s hs with ⟨-, h, -⟩ | ⟨-, h⟩
    · exact absurd h hspawned
    · exact h

/-! ### At most one `utils.RunCommand` after the signal -/

/-- After the signal, the `utils.RunCommand` calls made, and the one about to begin if the
goroutine is at `attempt`, are at most one. -/
def AttemptsAfterSignal (s : System) : Prop :=
  s.servers.stop = true → runCommandAttempts (afterSignal s.log) + s.task.isAttempt.toNat ≤ 1

theorem step_attemptsAfterSignal (env : Env) (commandRetries : Nat) (ic : InternalConfig)
    (killTimeout : Nat) (s : System) (actor : Actor) (hsane : Sane ic killTimeout s)
    (h : AttemptsAfterSignal s) : AttemptsAfterSignal (s.step env commandRetries actor) := by
  unfold step
  split
  · exact h
  · cases actor with
    | main =>
      obtain ⟨es, hlog, -, hattempts, -, -, -, hstop, -⟩ := mainStep_frame env s
      have htask : (s.mainStep env).task.isAttempt = s.task.isAttempt := by
        rcases mainStep_task env ic killTimeout s hsane with ⟨-, hun, hnext⟩ | ⟨-, hkeep⟩
        · rw [hnext, hun]; rfl
        · rw [hkeep]
      intro hstop'
      rw [hlog, htask]
      by_cases hsig : .signalReceived ∈ s.log
      · rw [afterSignal_append_of_mem hsig, runCommandAttempts_append, hattempts]
        exact h (hsane.stop.2 hsig)
      · have hnone : runCommandAttempts (afterSignal es) = 0 :=
          Nat.eq_zero_of_le_zero
            (hattempts ▸ runCommandAttempts_le_of_suffix (afterSignal_suffix es))
        rw [afterSignal_append_of_not_mem hsig, hnone]
        cases s.task.isAttempt <;> simp
    | task =>
      intro hstop
      obtain ⟨hcount, hnext⟩ := Task.step_attempts env s.servers.config commandRetries
        s.servers.stop s.log s.task
      simp only [taskStep_log, taskStep_task, taskStep_servers] at hstop ⊢
      rw [afterSignal_append_of_mem (hsane.stop.1 hstop), runCommandAttempts_append, hcount,
        hnext hstop]
      have := h hstop
      simp only [Bool.toNat_false]
      omega

/-! ### The `runCommand` calls of the goroutine -/

theorem step_callsMade (env : Env) (commandRetries : Nat) (ic : InternalConfig)
    (killTimeout : Nat) (s : System) (actor : Actor) (hsane : Sane ic killTimeout s)
    (h : s.task.CallsMade env ic ic.config.commands (runCommandCalls s.log)) :
    (s.step env commandRetries actor).task.CallsMade env ic ic.config.commands
      (runCommandCalls (s.step env commandRetries actor).log) := by
  unfold step
  split
  · exact h
  · cases actor with
    | main =>
      obtain ⟨es, hlog, hcalls, -⟩ := mainStep_frame env s
      rw [hlog, runCommandCalls_append, hcalls, List.append_nil]
      rcases mainStep_task env ic killTimeout s hsane with ⟨-, hun, hnext⟩ | ⟨-, hkeep⟩
      · rw [hnext]
        rw [hun] at h
        obtain ⟨walked, hwalked, hahead⟩ : ∃ walked, _ ∧ _ := by
          simpa [Task.CallsMade] using h
        have hnil : walked = [] := by simpa [Task.ahead] using hahead
        simp [Task.CallsMade, Task.ahead, hwalked, hnil]
      · rwa [hkeep]
    | task =>
      rw [← hsane.config] at h ⊢
      simpa using Task.step_callsMade env s.servers.config commandRetries s.servers.stop s.log
        s.servers.config.config.commands s.task _ h

/-! ### The attempts of each command -/

theorem step_attemptsWithin (env : Env) (commandRetries : Nat) (ic : InternalConfig)
    (killTimeout : Nat) (s : System) (actor : Actor) (hsane : Sane ic killTimeout s)
    (h : s.task.AttemptsWithin env ic commandRetries ic.config.commands (commandsRun s.log)) :
    (s.step env commandRetries actor).task.AttemptsWithin env ic commandRetries
      ic.config.commands (commandsRun (s.step env commandRetries actor).log) := by
  unfold step
  split
  · exact h
  · cases actor with
    | main =>
      obtain ⟨es, hlog, -, hattempts, -⟩ := mainStep_frame env s
      rw [hlog, commandsRun_append, commandsRun_eq_nil_of_attempts hattempts, List.append_nil]
      rcases mainStep_task env ic killTimeout s hsane with ⟨-, hun, hnext⟩ | ⟨-, hkeep⟩
      · rw [hnext]
        rw [hun] at h
        exact h
      · rwa [hkeep]
    | task =>
      rw [← hsane.config] at h ⊢
      simpa using Task.step_attemptsWithin env s.servers.config commandRetries s.servers.stop
        s.log s.servers.config.config.commands s.task _ h

/-! ### Progress steps -/

/-- Until `log.Fatal`, the progress steps are the successful starts and the commands the
goroutine has walked past. -/
def ProgressCounted (ic : InternalConfig) (s : System) : Prop :=
  s.task ≠ .exited →
    progressSteps s.log + s.task.remaining ic.config.commands =
      startsSucceeded s.log + ic.config.commands.length

theorem step_progressCounted (env : Env) (commandRetries : Nat) (ic : InternalConfig)
    (killTimeout : Nat) (s : System) (actor : Actor) (hsane : Sane ic killTimeout s)
    (h : ProgressCounted ic s) : ProgressCounted ic (s.step env commandRetries actor) := by
  unfold step
  split
  · exact h
  · rename_i hexited
    cases actor with
    | main =>
      obtain ⟨es, hlog, -, -, hprogress, -⟩ := mainStep_frame env s
      intro _
      have hremaining : (s.mainStep env).task.remaining ic.config.commands =
          s.task.remaining ic.config.commands := by
        rcases mainStep_task env ic killTimeout s hsane with ⟨-, hun, hnext⟩ | ⟨-, hkeep⟩
        · rw [hnext, hun]; rfl
        · rw [hkeep]
      rw [hlog, progressSteps_append, startsSucceeded_append, hremaining, hprogress]
      have := h hexited
      omega
    | task =>
      intro hnot
      obtain ⟨-, hstarts, -⟩ := Task.step_quiet env s.servers.config commandRetries
        s.servers.stop s.log s.task
      have hstep := Task.step_progress env s.servers.config commandRetries s.servers.stop s.log
        ic.config.commands s.task hnot
      simp only [taskStep_log, taskStep_task, progressSteps_append, startsSucceeded_append,
        hstarts] at hstep ⊢
      have := h hexited
      omega

/-! ### The supervisor's own calls -/

/-- What the main flow has done at each of its program points, on a fresh supervisor
whose registration yields `registered`: the `Start` calls made so far are a prefix of
`registered`, all returning `nil` but for a last failing one at which `Run` returned; then
come the signal, a `Stop` of each registered server in order, and one kill. -/
def Supervised (ic : InternalConfig) (killTimeout : Nat) (registered : List Server)
    (s : System) : Prop :=
  match s.main with
  | .start => s.servers = newServers ic killTimeout ∧ supervisorEvents s.log = []
  | .starting pending =>
    s.servers = { newServers ic killTimeout with servers := registered } ∧
      ∃ started, registered = started ++ pending ∧
        supervisorEvents s.log = started.map fun server => .call (.start server) none
  | .waiting =>
    s.servers = { newServers ic killTimeout with servers := registered } ∧
      supervisorEvents s.log = registered.map fun server => .call (.start server) none
  | .stopping pending =>
    s.servers = { newServers ic killTimeout with servers := registered, stop := true } ∧
      ∃ stopped, registered = stopped ++ pending ∧
        supervisorEvents s.log = (registered.map fun server => .call (.start server) none) ++
          .signalReceived :: stopped.map .stop
  | .returned none =>
    supervisorEvents s.log = (registered.map fun server => .call (.start server) none) ++
      .signalReceived :: registered.map .stop ++ [.killProcessChildren killTimeout]
  | .returned (some e) =>
    ∃ started server rest, registered = started ++ server :: rest ∧
      supervisorEvents s.log = (started.map fun server => .call (.start server) none) ++
        [.call (.start server) (some e)]

theorem step_supervised (env : Env) (commandRetries : Nat) (ic : InternalConfig)
    (killTimeout : Nat) (registered : List Server)
    (hreg : Servers.addServers env (newServers ic killTimeout) =
      .ok { newServers ic killTimeout with servers := registered })
    (s : System) (actor : Actor) (h : Supervised ic killTimeout registered s) :
    Supervised ic killTimeout registered (s.step env commandRetries actor) := by
  unfold step
  split
  · exact h
  · cases actor with
    | task =>
      obtain ⟨hquiet, -, -⟩ := Task.step_quiet env s.servers.config commandRetries
        s.servers.stop s.log s.task
      unfold Supervised at h ⊢
      simpa [hquiet] using h
    | main =>
      rcases s with ⟨servers, main, task, log⟩
      cases main with
      | start =>
        obtain ⟨hservers, hlog⟩ := h
        subst hservers
        obtain ⟨es, hes, hextract⟩ := Servers.extractEmbeddedFiles_log env log
        have hx : Servers.extractEmbeddedFiles env log = (none, log ++ es) := Prod.ext rfl hes
        simp only [mainStep, hx, hreg, Supervised]
        exact ⟨by simp, [], by simp, by simp [hlog, (quiet_of_isExtraction hextract).1]⟩
      | starting pending =>
        obtain ⟨hservers, started, hreg', hlog⟩ := h
        simp only at hservers hlog
        cases pending with
        | nil =>
          subst hreg'
          simp only [Supervised, mainStep]
          exact ⟨hservers, by simpa using hlog⟩
        | cons server pending =>
          cases hstart : env.oracle log (.start server) with
          | some e =>
            simp only [Supervised, mainStep, hstart]
            exact ⟨started, server, pending, hreg', by simp [hlog, Event.isSupervisor]⟩
          | none =>
            simp only [Supervised, mainStep, hstart]
            exact ⟨hservers, started ++ [server], by simp [hreg'],
              by simp [hlog, Event.isSupervisor]⟩
      | waiting =>
        obtain ⟨hservers, hlog⟩ := h
        subst hservers
        simp only [Supervised, mainStep]
        exact ⟨by simp, [], by simp, by simp [hlog, Event.isSupervisor]⟩
      | stopping pending =>
        obtain ⟨hservers, stopped, hreg', hlog⟩ := h
        subst hservers
        cases pending with
        | nil =>
          simp only [Supervised, mainStep]
          simp [hlog, hreg', Event.isSupervisor, newServers]
        | cons server pending =>
          simp only [Supervised, mainStep]
          exact ⟨by simp, stopped ++ [server], by simp [hreg'],
            by simp [hlog, Event.isSupervisor]⟩
      | returned result => exact h

/-- Registration fails at a wrapper: `Run` returns its error and no `Start` is made. -/
def WrapperFailed (ic : InternalConfig) (killTimeout : Nat) (e : Error) (s : System) : Prop :=
  (s.main = .start ∧ s.servers = newServers ic killTimeout ∨ s.main = .returned (some e)) ∧
    supervisorEvents s.log = []

theorem step_wrapperFailed (env : Env) (commandRetries : Nat) (ic : InternalConfig)
    (killTimeout : Nat) (e : Error)
    (hreg : Servers.addServers env (newServers ic killTimeout) = .error e)
    (s : System) (actor : Actor) (h : WrapperFailed ic killTimeout e s) :
    WrapperFailed ic killTimeout e (s.step env commandRetries actor) := by
  unfold step
  split
  · exact h
  · obtain ⟨hmain, hlog⟩ := h
    cases actor with
    | task =>
      obtain ⟨hquiet, -, -⟩ := Task.step_quiet env s.servers.config commandRetries
        s.servers.stop s.log s.task
      exact ⟨by simpa using hmain, by simp [hlog, hquiet]⟩
    | main =>
      rcases s with ⟨servers, main, task, log⟩
      rcases hmain with ⟨hstart, hservers⟩ | hreturned
      · simp only at hstart hservers
        subst hstart hservers
        obtain ⟨es, hes, hextract⟩ := Servers.extractEmbeddedFiles_log env log
        have hx : Servers.extractEmbeddedFiles env log = (none, log ++ es) := Prod.ext rfl hes
        simp only [mainStep, hx, hreg]
        exact ⟨.inr rfl, by simp [hlog, (quiet_of_isExtraction hextract).1]⟩
      · simp only at hreturned
        subst hreturned
        exact ⟨.inr rfl, hlog⟩

/-- No `utils.RunCommand` before the goroutine is spawned. -/
theorem step_quiescent (env : Env) (commandRetries : Nat) (ic : InternalConfig)
    (killTimeout : Nat) (s : System) (actor : Actor) (hsane : Sane ic killTimeout s)
    (h : s.task = .unspawned → runCommandAttempts s.log = 0) :
    (s.step env commandRetries actor).task = .unspawned →
      runCommandAttempts (s.step env commandRetries actor).log = 0 := by
  unfold step
  split
  · exact h
  · cases actor with
    | main =>
      obtain ⟨es, hlog, -, hattempts, -⟩ := mainStep_frame env s
      rcases mainStep_task env ic killTimeout s hsane with ⟨-, -, hnext⟩ | ⟨-, hkeep⟩
      · simp [hnext]
      · intro hun
        rw [hkeep] at hun
        simp [hlog, hattempts, h hun]
    | task =>
      intro hun
      simp only [taskStep_task, Task.step_eq_unspawned] at hun
      simp [hun, Task.step, h hun]

end System

end K8sTew
