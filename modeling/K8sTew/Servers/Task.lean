import K8sTew.Servers.Registration
import K8sTew.Retry
set_option autoImplicit false

/-!
# Servers: the command goroutine

Once every server has started, `Run` spawns a goroutine that walks `Config.Commands` in
order, skips those whose labels or OS set do not match, and hands the others to
`servers.runCommand`, whose retry loop polls the shared flag `servers.stop` before each
attempt:

    for retries := uint(0); retries < commandRetries; retries++ {
      if servers.stop {
        break
      }
      if error = utils.RunCommand(newCommand); error == nil {
        break
      }
      time.Sleep(time.Second)
    }

A failed command ends the process through `log.Fatal`.  `Task` names the goroutine's
program points, with `runCommand` inlined, and `Task.step` moves from one to the next.
The main flow writes `servers.stop` concurrently, so the flag is an argument of each step:
a step of the `poll` point reads it, and no other step reads shared state.  Steps without
a shared access are merged with the one before them, which changes no interleaving the
other thread can observe.

The lemmas here say what one step does to what the log records of the goroutine: the
`runCommand` calls made and what each returned, the runs of `utils.RunCommand` attempts,
one per command, and the progress steps.
-/

namespace K8sTew

/-- A call of `servers.runCommand` in progress: the command, its rendered form, and the
commands the goroutine's loop has still to walk after it. -/
structure Frame where
  command : Command
  newCommand : String
  rest : List Command
  deriving DecidableEq, Repr

/-- Program points of the command goroutine of `Servers.Run`, `runCommand` inlined. -/
inductive Task
  /-- `go func()` has not run yet -/
  | unspawned
  /-- head of `for index, command := range Commands`, with `rest` still to walk -/
  | next (rest : List Command)
  /-- head of the retry loop: `retries < commandRetries`, then `if servers.stop` -/
  | poll (frame : Frame) (retries : Nat) (error : Option Error)
  /-- `servers.stop` was read false: `utils.RunCommand(newCommand)` is next -/
  | attempt (frame : Frame) (retries : Nat)
  /-- the retry loop is over and `runCommand` returns `error` -/
  | returns (frame : Frame) (error : Option Error)
  /-- `utils.HideProgress()` returned: the goroutine ended -/
  | done
  /-- `log.Fatal` ended the process -/
  | exited
  deriving DecidableEq, Repr

/-- Whether the goroutine hands `command` to `runCommand`. -/
def selected (env : Env) (ic : InternalConfig) (command : Command) : Bool :=
  env.compareLabels ic.node.labels command.labels && env.hasOS command.os

namespace Task

/-- One step of the goroutine; `stop` is the value a read of `servers.stop` returns now. -/
def step (env : Env) (ic : InternalConfig) (commandRetries : Nat) (stop : Bool)
    (log : List Event) : Task → Task × List Event
  | .unspawned => (.unspawned, [])
  | .next [] => (.done, [.log .info "Cluster setup finished", .hideProgress])
  | .next (command :: rest) =>
    if !env.compareLabels ic.node.labels command.labels then (.next rest, [.increaseProgressStep])
    else if !env.hasOS command.os then (.next rest, [.increaseProgressStep])
    else
      match env.applyTemplate ic command.name command.command with
      | .error e => (.exited, [.runCommand command (some e), .log .fatal "Cluster setup failed"])
      | .ok newCommand =>
        (.poll ⟨command, newCommand, rest⟩ 0 none, [.log .info "Executing command"])
  | .poll frame retries error =>
    if retries < commandRetries ∧ stop = false then (.attempt frame retries, [])
    else (.returns frame error, [])
  | .attempt frame retries =>
    match env.oracle log (.runCommand frame.newCommand) with
    | none => (.returns frame none, [.call (.runCommand frame.newCommand) none])
    | some e =>
      (.poll frame (retries + 1) (some e), [.call (.runCommand frame.newCommand) (some e), .sleep])
  | .returns frame (some e) =>
    (.exited, [.log .error "Command failed", .runCommand frame.command (some e),
      .log .fatal "Cluster setup failed"])
  | .returns frame none =>
    (.next frame.rest, [.runCommand frame.command none, .increaseProgressStep])
  | .done => (.done, [])
  | .exited => (.exited, [])

/-- The program point is `attempt`: the next step begins a `utils.RunCommand`. -/
def isAttempt : Task → Bool
  | .attempt _ _ => true
  | _ => false

/-- The commands the goroutine has still to walk, the one in `runCommand` included. -/
def remaining (commands : List Command) : Task → Nat
  | .unspawned => commands.length
  | .next rest => rest.length
  | .poll frame _ _ | .attempt frame _ | .returns frame _ => frame.rest.length + 1
  | .done | .exited => 0

end Task

/-! ## What a log records -/

/-- The `servers.runCommand` call an entry records, with the error it returned. -/
def Event.runCommandCall? : Event → Option (Command × Option Error)
  | .runCommand command result => some (command, result)
  | _ => none

/-- The `servers.runCommand` calls of a log, each with the error it returned. -/
def runCommandCalls (log : List Event) : List (Command × Option Error) :=
  log.filterMap Event.runCommandCall?

/-- Whether an entry is a `utils.RunCommand` call. -/
def Event.isRunCommand : Event → Bool
  | .call (.runCommand _) _ => true
  | _ => false

/-- How many `utils.RunCommand` calls a log records. -/
def runCommandAttempts (log : List Event) : Nat := log.countP Event.isRunCommand

@[simp] theorem runCommandCalls_append (l₁ l₂ : List Event) :
    runCommandCalls (l₁ ++ l₂) = runCommandCalls l₁ ++ runCommandCalls l₂ :=
  List.filterMap_append _ _ _

@[simp] theorem runCommandCalls_nil : runCommandCalls [] = [] := rfl

@[simp] theorem runCommandCalls_cons (e : Event) (log : List Event) :
    runCommandCalls (e :: log) = e.runCommandCall?.toList ++ runCommandCalls log := by
  cases h : e.runCommandCall? <;> simp [runCommandCalls, h]

@[simp] theorem runCommandAttempts_nil : runCommandAttempts [] = 0 := rfl

@[simp] theorem runCommandAttempts_cons (e : Event) (log : List Event) :
    runCommandAttempts (e :: log) = runCommandAttempts log + if e.isRunCommand then 1 else 0 :=
  List.countP_cons _ _ _

@[simp] theorem runCommandAttempts_append (l₁ l₂ : List Event) :
    runCommandAttempts (l₁ ++ l₂) = runCommandAttempts l₁ + runCommandAttempts l₂ :=
  List.countP_append _ _ _

/-- The `utils.RunCommand` calls of a log are its `utils.RunCommand` entries. -/
theorem length_commandsRun (log : List Event) :
    (commandsRun log).length = runCommandAttempts log := by
  induction log with
  | nil => rfl
  | cons e log ih =>
    rw [← List.singleton_append, commandsRun_append, runCommandAttempts_append, List.length_append,
      ih]
    congr 1
    cases e with
    | call c r => cases c <;> rfl
    | _ => rfl

theorem commandsRun_eq_nil_of_attempts {log : List Event} (h : runCommandAttempts log = 0) :
    commandsRun log = [] :=
  List.eq_nil_of_length_eq_zero (h ▸ length_commandsRun log)

/-- The selected commands the goroutine has still to hand to `runCommand`, the one in
`runCommand` included. -/
def Task.ahead (env : Env) (ic : InternalConfig) (commands : List Command) : Task → List Command
  | .unspawned => commands.filter (selected env ic)
  | .next rest => rest.filter (selected env ic)
  | .poll frame _ _ | .attempt frame _ | .returns frame _ =>
    frame.command :: frame.rest.filter (selected env ic)
  | .done | .exited => []

/-- The `runCommand` calls the goroutine has made, at each of its program points: the
selected commands it has walked past, in order, each returning `nil`; after `log.Fatal`,
such calls followed by one on the next selected command that returned an error. -/
def Task.CallsMade (env : Env) (ic : InternalConfig) (commands : List Command) (t : Task)
    (calls : List (Command × Option Error)) : Prop :=
  if t = .exited then
    ∃ walked command e, calls = walked.map (·, none) ++ [(command, some e)] ∧
      walked ++ [command] <+: commands.filter (selected env ic)
  else
    ∃ walked, calls = walked.map (·, none) ∧
      walked ++ t.ahead env ic commands = commands.filter (selected env ic)

/-- The retry loop in progress, as a run of attempts: the command, its rendering and the
attempts begun so far. -/
def Task.segment : Task → List (Command × String × Nat)
  | .poll frame retries _ | .attempt frame retries =>
    [(frame.command, frame.newCommand, retries)]
  | _ => []

/-- The selected commands the goroutine has not yet handed to `runCommand`. -/
def Task.pending (env : Env) (ic : InternalConfig) (commands : List Command) :
    Task → List Command
  | .unspawned => commands.filter (selected env ic)
  | .next rest => rest.filter (selected env ic)
  | .poll frame _ _ | .attempt frame _ | .returns frame _ => frame.rest.filter (selected env ic)
  | .done | .exited => []

/-- The retry counter is within the budget, and at `attempt` the attempt about to begin is
too. -/
def Task.RetriesWithin (commandRetries : Nat) : Task → Prop
  | .poll _ retries _ => retries ≤ commandRetries
  | .attempt _ retries => retries < commandRetries
  | _ => True

/-- The `utils.RunCommand` calls the goroutine has made, at each of its program points:
one run of attempts per selected command handed to `runCommand`, in order, the last one
that of the loop in progress; each run is of the command's rendering and of at most
`commandRetries` attempts. -/
def Task.AttemptsWithin (env : Env) (ic : InternalConfig) (commandRetries : Nat)
    (commands : List Command) (t : Task) (attempts : List String) : Prop :=
  t.RetriesWithin commandRetries ∧ ∃ ran : List (Command × String × Nat),
    attempts = attemptsOf (ran ++ t.segment) ∧
    List.Sublist ((ran ++ t.segment).map (·.1) ++ t.pending env ic commands)
      (commands.filter (selected env ic)) ∧
    ∀ p ∈ ran ++ t.segment, p.2.2 ≤ commandRetries ∧
      env.applyTemplate ic p.1.name p.1.command = .ok p.2.1

/-! ## One step -/

section
variable (env : Env) (ic : InternalConfig) (commandRetries : Nat) (stop : Bool)
  (log : List Event)

/-- A step begins a `utils.RunCommand` only from `attempt`, and a step that reads the
flag set never reaches `attempt`: the only way in is a read of `servers.stop` returning
false. -/
theorem Task.step_attempts (t : Task) :
    runCommandAttempts (t.step env ic commandRetries stop log).2 = t.isAttempt.toNat ∧
      (stop = true → (t.step env ic commandRetries stop log).1.isAttempt = false) := by
  cases t with
  | next rest =>
    cases rest with
    | nil => simp [Task.step, Event.isRunCommand, Task.isAttempt]
    | cons command rest =>
      simp only [Task.step]
      split_ifs <;> (try split) <;>
        simp [Event.isRunCommand, Task.isAttempt]
  | poll frame retries error =>
    simp only [Task.step]
    split_ifs with h <;> simp_all [Task.isAttempt]
  | attempt frame retries =>
    simp only [Task.step]
    split <;> simp [Event.isRunCommand, Task.isAttempt]
  | returns frame error =>
    cases error <;> simp [Task.step, Event.isRunCommand, Task.isAttempt]
  | unspawned | done | exited => simp [Task.step, Task.isAttempt]

/-- Only a goroutine that was never spawned is at `unspawned` after a step. -/
theorem Task.step_eq_unspawned (t : Task) :
    (t.step env ic commandRetries stop log).1 = .unspawned ↔ t = .unspawned := by
  cases t with
  | next rest =>
    cases rest with
    | nil => simp [Task.step]
    | cons command rest =>
      simp only [Task.step]
      split_ifs <;> (try split) <;> simp
  | poll frame retries error =>
    simp only [Task.step]
    split_ifs <;> simp
  | attempt frame retries =>
    simp only [Task.step]
    split <;> simp
  | returns frame error => cases error <;> simp [Task.step]
  | unspawned | done | exited => simp [Task.step]

/-- A step keeps `CallsMade`: the goroutine calls `runCommand` on the next selected
command only, and only once every earlier call returned `nil`. -/
theorem Task.step_callsMade (commands : List Command) (t : Task)
    (calls : List (Command × Option Error)) (h : t.CallsMade env ic commands calls) :
    (t.step env ic commandRetries stop log).1.CallsMade env ic commands
      (calls ++ runCommandCalls (t.step env ic commandRetries stop log).2) := by
  cases t with
  | next rest =>
    cases rest with
    | nil => simpa [Task.step, Task.CallsMade, Task.ahead, Event.runCommandCall?] using h
    | cons command rest =>
      simp only [Task.CallsMade, Task.ahead, reduceCtorEq, if_false] at h
      obtain ⟨walked, rfl, hwalked⟩ := h
      by_cases hsel : selected env ic command = true
      · have ⟨hlabels, hos⟩ : env.compareLabels ic.node.labels command.labels = true ∧
            env.hasOS command.os = true := by simpa [selected] using hsel
        rw [List.filter_cons_of_pos hsel] at hwalked
        cases htemplate : env.applyTemplate ic command.name command.command with
        | error e =>
          simp only [Task.step, hlabels, hos, htemplate, Bool.not_true, Bool.false_eq_true,
            if_false, Task.CallsMade, Event.runCommandCall?, if_true]
          exact ⟨walked, command, e, by simp [Event.runCommandCall?],
            rest.filter (selected env ic), by simp [← hwalked]⟩
        | ok newCommand =>
          simp only [Task.step, hlabels, hos, htemplate, Bool.not_true, Bool.false_eq_true,
            if_false, Task.CallsMade, Task.ahead, reduceCtorEq]
          exact ⟨walked, by simp [Event.runCommandCall?], hwalked⟩
      · rw [List.filter_cons_of_neg hsel] at hwalked
        have hskip : (Task.next (command :: rest)).step env ic commandRetries stop log =
            (.next rest, [.increaseProgressStep]) := by
          cases env.compareLabels ic.node.labels command.labels <;>
            cases env.hasOS command.os <;> simp_all [Task.step, selected]
        rw [hskip]
        simp only [Task.CallsMade, Task.ahead, reduceCtorEq, if_false]
        exact ⟨walked, by simp [Event.runCommandCall?], hwalked⟩
  | poll frame retries error =>
    simp only [Task.step]
    split_ifs <;> simpa [Task.CallsMade, Task.ahead, Event.runCommandCall?] using h
  | attempt frame retries =>
    simp only [Task.step]
    split <;> simpa [Task.CallsMade, Task.ahead, Event.runCommandCall?] using h
  | returns frame error =>
    simp only [Task.CallsMade, Task.ahead, reduceCtorEq, if_false] at h
    obtain ⟨walked, rfl, hwalked⟩ := h
    cases error with
    | some e =>
      simp only [Task.step, Task.CallsMade, Event.runCommandCall?, if_true]
      exact ⟨walked, frame.command, e, by simp [Event.runCommandCall?],
        frame.rest.filter (selected env ic), by simp [← hwalked]⟩
    | none =>
      simp only [Task.step, Task.CallsMade, Task.ahead, runCommandCalls, reduceCtorEq, if_false]
      exact ⟨walked ++ [frame.command], by simp [Event.runCommandCall?], by simp [← hwalked]⟩
  | unspawned | done | exited => simpa [Task.step, Event.runCommandCall?] using h

/-- A step that does not end the process walks past as many commands as it makes
progress steps. -/
theorem Task.step_progress (commands : List Command) (t : Task)
    (hstep : (t.step env ic commandRetries stop log).1 ≠ .exited) :
    progressSteps (t.step env ic commandRetries stop log).2 +
        (t.step env ic commandRetries stop log).1.remaining commands =
      t.remaining commands := by
  cases t with
  | next rest =>
    cases rest with
    | nil => simp [Task.step, Task.remaining]
    | cons command rest =>
      simp only [Task.step] at hstep ⊢
      split_ifs at hstep ⊢ <;> (try split at hstep) <;>
        simp_all [Task.remaining, Nat.add_comm]
  | poll frame retries error =>
    simp only [Task.step]
    split_ifs <;> simp [Task.remaining]
  | attempt frame retries =>
    simp only [Task.step]
    split <;> simp [Task.remaining]
  | returns frame error =>
    cases error with
    | some e => simp [Task.step] at hstep
    | none => simp [Task.step, Task.remaining]; omega
  | unspawned | done | exited => simp [Task.step]

/-- A move that makes no `utils.RunCommand` call, keeps the loop in progress and hands no
command to `runCommand` keeps `AttemptsWithin`. -/
theorem Task.attemptsWithin_of_quiet {commands : List Command} {t t' : Task}
    {attempts : List String} {es : List Event}
    (h : t.AttemptsWithin env ic commandRetries commands attempts)
    (hretries : t'.RetriesWithin commandRetries) (hsegment : t'.segment = t.segment)
    (hpending : List.Sublist (t'.pending env ic commands) (t.pending env ic commands))
    (hes : commandsRun es = []) :
    t'.AttemptsWithin env ic commandRetries commands (attempts ++ commandsRun es) := by
  obtain ⟨-, ran, rfl, hsub, hran⟩ := h
  rw [hes, List.append_nil, ← hsegment] at *
  exact ⟨hretries, ran, rfl, (hpending.append_left _).trans hsub, hran⟩

/-- A step keeps `AttemptsWithin`: an attempt is added to the run of the loop in progress,
within the budget, and a command handed to `runCommand` opens a run of its own. -/
theorem Task.step_attemptsWithin (commands : List Command) (t : Task)
    (attempts : List String) (h : t.AttemptsWithin env ic commandRetries commands attempts) :
    (t.step env ic commandRetries stop log).1.AttemptsWithin env ic commandRetries commands
      (attempts ++ commandsRun (t.step env ic commandRetries stop log).2) := by
  cases t with
  | next rest =>
    cases rest with
    | nil =>
      refine Task.attemptsWithin_of_quiet env ic commandRetries h ?_ ?_ ?_ ?_
      exacts [trivial, rfl, List.nil_sublist _, rfl]
    | cons command rest =>
      have hskip : (Task.next rest).AttemptsWithin env ic commandRetries commands
          (attempts ++ commandsRun [.increaseProgressStep]) :=
        Task.attemptsWithin_of_quiet env ic commandRetries h trivial rfl
          ((List.sublist_cons_self _ _).filter _) rfl
      simp only [Task.step]
      split_ifs with hlabels hos
      · exact hskip
      · exact hskip
      · split
        · refine Task.attemptsWithin_of_quiet env ic commandRetries h ?_ ?_ ?_ ?_
          exacts [trivial, rfl, List.nil_sublist _, rfl]
        · rename_i newCommand htemplate
          have hsel : selected env ic command = true := by simp_all [selected]
          obtain ⟨-, ran, rfl, hsub, hran⟩ := h
          simp only [Task.segment, Task.pending, List.append_nil,
            List.filter_cons_of_pos hsel] at hsub hran
          refine ⟨Nat.zero_le _, ran, by simp [Task.segment, commandsRun, Event.call?],
            by simpa [Task.segment, Task.pending] using hsub, fun p hp => ?_⟩
          rcases List.mem_append.1 hp with hp | hp
          · exact hran p hp
          · obtain rfl := List.mem_singleton.1 hp
            exact ⟨Nat.zero_le _, htemplate⟩
  | poll frame retries error =>
    simp only [Task.step]
    split_ifs with hlt
    · refine Task.attemptsWithin_of_quiet env ic commandRetries h ?_ ?_ ?_ ?_
      exacts [hlt.1, rfl, List.Sublist.refl _, rfl]
    · obtain ⟨-, ran, rfl, hsub, hran⟩ := h
      exact ⟨trivial, ran ++ [(frame.command, frame.newCommand, retries)],
        by simp [Task.segment, commandsRun],
        by simpa only [Task.segment, Task.pending, List.append_nil] using hsub,
        by simpa only [Task.segment, List.append_nil] using hran⟩
  | attempt frame retries =>
    obtain ⟨hlt, ran, rfl, hsub, hran⟩ := h
    have hlt : retries < commandRetries := hlt
    /- The attempt is counted in the run of the loop in progress, whatever it returns. -/
    have hsub' : List.Sublist ((ran ++ [(frame.command, frame.newCommand, retries + 1)]).map
        (·.1) ++ frame.rest.filter (selected env ic)) (commands.filter (selected env ic)) := by
      simpa only [Task.segment, Task.pending, List.map_append, List.map_cons] using hsub
    have hran' : ∀ p ∈ ran ++ [(frame.command, frame.newCommand, retries + 1)],
        p.2.2 ≤ commandRetries ∧ env.applyTemplate ic p.1.name p.1.command = .ok p.2.1 := by
      intro p hp
      rcases List.mem_append.1 hp with hp | hp
      · exact hran p (List.mem_append_left _ hp)
      · obtain rfl := List.mem_singleton.1 hp
        exact ⟨hlt, (hran _ (List.mem_append_right _ (List.mem_singleton_self _))).2⟩
    simp only [Task.step]
    split
    · refine ⟨trivial, ran ++ [(frame.command, frame.newCommand, retries + 1)], ?_,
        by simpa only [Task.segment, Task.pending, List.append_nil] using hsub',
        by simpa only [Task.segment, List.append_nil] using hran'⟩
      simp [Task.segment, commandsRun, Event.call?, Call.runCommand?, List.replicate_succ']
    · refine ⟨hlt, ran, ?_, hsub', hran'⟩
      simp [Task.segment, commandsRun, Event.call?, Call.runCommand?, List.replicate_succ']
  | returns frame error =>
    cases error with
    | some e =>
      refine Task.attemptsWithin_of_quiet env ic commandRetries h ?_ ?_ ?_ ?_
      exacts [trivial, rfl, List.nil_sublist _, rfl]
    | none =>
      refine Task.attemptsWithin_of_quiet env ic commandRetries h ?_ ?_ ?_ ?_
      exacts [trivial, rfl, List.Sublist.refl _, rfl]
  | unspawned | done | exited =>
    refine Task.attemptsWithin_of_quiet env ic commandRetries h ?_ ?_ ?_ ?_
    exacts [h.1, rfl, List.Sublist.refl _, rfl]

end

/-! ## The retry loop with the flag down -/

section
variable (env : Env) (ic : InternalConfig) (commandRetries : Nat)

/-- `n` steps of the goroutine alone, the flag reading `stop` throughout. -/
def Task.iterate (stop : Bool) : Nat → Task → List Event → Task × List Event
  | 0, t, log => (t, log)
  | n + 1, t, log =>
    Task.iterate stop n (t.step env ic commandRetries stop log).1
      (log ++ (t.step env ic commandRetries stop log).2)

/-- From the head of its retry loop with `retries` attempts made, the goroutine with the
flag down reaches `returns` with the result and the log of `retryLoop` on the attempts
left, which fail with nothing but the sleep. -/
theorem Task.poll_iterate (frame : Frame) (k : Nat) :
    ∀ (retries : Nat) (error : Option Error) (log : List Event), commandRetries - retries = k →
      ∃ n, Task.iterate env ic commandRetries false n (.poll frame retries error) log =
        (.returns frame (retryLoop env.oracle (.runCommand frame.newCommand) [] k error log).1,
          (retryLoop env.oracle (.runCommand frame.newCommand) [] k error log).2) := by
  induction k with
  | zero =>
    intro retries error log hk
    exact ⟨1, by simp [Task.iterate, Task.step, show ¬retries < commandRetries by omega]⟩
  | succ k ih =>
    intro retries error log hk
    have hlt : retries < commandRetries := by omega
    cases ho : env.oracle log (.runCommand frame.newCommand) with
    | none => exact ⟨2, by simp [Task.iterate, Task.step, hlt, ho, retryLoop]⟩
    | some e =>
      obtain ⟨n, hn⟩ := ih (retries + 1) (some e)
        (log ++ [.call (.runCommand frame.newCommand) (some e), .sleep]) (by omega)
      exact ⟨n + 2, by simpa [Task.iterate, Task.step, hlt, ho, retryLoop] using hn⟩

theorem Task.iterate_add (stop : Bool) (n m : Nat) (t : Task) (log : List Event) :
    Task.iterate env ic commandRetries stop (n + m) t log =
      Task.iterate env ic commandRetries stop m (Task.iterate env ic commandRetries stop n t log).1
        (Task.iterate env ic commandRetries stop n t log).2 := by
  induction n generalizing t log with
  | zero => simp [Task.iterate]
  | succ n ih => rw [Nat.succ_add]; exact ih _ _

/-- With the flag down throughout, a command that fails whenever it runs is attempted
exactly `commandRetries` times by `servers.runCommand`, with a sleep after each failure;
the goroutine then logs the failure and ends the process through `log.Fatal` with the last
attempt's error.  With no attempt allowed, `runCommand` returns `nil` having run nothing,
and the goroutine moves on to the next command. -/
theorem Task.runCommand_fatal_of_always_fails (frame : Frame) (log : List Event)
    (hfail : ∀ log, env.oracle log (.runCommand frame.newCommand) ≠ none) :
    ∃ n, ∃ fails : List Error, fails.length = commandRetries ∧
      Task.iterate env ic commandRetries false n (.poll frame 0 none) log =
        match fails.getLast? with
        | some e =>
          (.exited, log ++ fails.flatMap (fun e => [.call (.runCommand frame.newCommand) (some e),
              .sleep]) ++ [.log .error "Command failed", .runCommand frame.command (some e),
              .log .fatal "Cluster setup failed"])
        | none => (.next frame.rest, log ++ [.runCommand frame.command none, .increaseProgressStep])
    := by
  obtain ⟨n, hn⟩ := Task.poll_iterate env ic commandRetries frame commandRetries 0 none log
    (Nat.sub_zero _)
  obtain ⟨fails, hlen, heq⟩ := retryLoop_of_fails env.oracle (.runCommand frame.newCommand) []
    hfail commandRetries none log
  have hattempt : failedAttempt (.runCommand frame.newCommand) [] =
      fun e => [.call (.runCommand frame.newCommand) (some e), .sleep] := rfl
  rw [heq, lastError_none, hattempt] at hn
  refine ⟨n + 1, fails, hlen, ?_⟩
  rw [Task.iterate_add, hn]
  cases hlast : fails.getLast? with
  | none => simp [List.getLast?_eq_none_iff.1 hlast, Task.iterate, Task.step]
  | some e => simp [Task.iterate, Task.step]

/-- The witness of `Task.runCommand_fatal_of_always_fails`: the sample command, rendered, failing
both of its two attempts. -/
theorem Task.runCommand_fatal_of_always_fails_sample :
    (∀ log, (sampleEnv commandsFail).oracle log (.runCommand "systemctl restart kubelet") ≠
      none) ∧
    ∃ n, ∃ fails : List Error, fails.length = 2 ∧
      Task.iterate (sampleEnv commandsFail) (sampleConfig [] [sampleCommand]) 2 false n
          (.poll ⟨sampleCommand, "systemctl restart kubelet", []⟩ 0 none) [] =
        match fails.getLast? with
        | some e =>
          (.exited, [] ++ fails.flatMap (fun e =>
              [.call (.runCommand "systemctl restart kubelet") (some e), .sleep]) ++
            [.log .error "Command failed", .runCommand sampleCommand (some e),
              .log .fatal "Cluster setup failed"])
        | none => (.next [], [] ++ [.runCommand sampleCommand none, .increaseProgressStep]) :=
  ⟨fun _ => by simp [sampleEnv, commandsFail], Task.runCommand_fatal_of_always_fails
    (sampleEnv commandsFail) (sampleConfig [] [sampleCommand]) 2
    ⟨sampleCommand, "systemctl restart kubelet", []⟩ []
    fun _ => by simp [sampleEnv, commandsFail]⟩

/-- With the flag down throughout, the retry loop of `Servers.runCommand` is the loop
`retryLoop` that `Deployment.runCommand` runs, on the whole budget: it returns what
`retryLoop` reports, after the entries `retryLoop` logs.  These are failed attempts, each
followed by a sleep, and then either the budget is spent and the last failure's error is
returned (`nil` only when the budget is zero and no attempt was made), or one more
attempt succeeds and ends the loop, and `nil` is returned. -/
theorem Task.runCommand_loop_eq_retryLoop (frame : Frame) (log : List Event) :
    ∃ n, Task.iterate env ic commandRetries false n (.poll frame 0 none) log =
      (.returns frame
          (retryLoop env.oracle (.runCommand frame.newCommand) [] commandRetries none log).1,
        (retryLoop env.oracle (.runCommand frame.newCommand) [] commandRetries none log).2) ∧
      ∃ fails : List Error,
        (fails.length = commandRetries ∧
          retryLoop env.oracle (.runCommand frame.newCommand) [] commandRetries none log =
            (fails.getLast?, log ++ fails.flatMap fun e =>
              [.call (.runCommand frame.newCommand) (some e), .sleep])) ∨
        (fails.length < commandRetries ∧
          retryLoop env.oracle (.runCommand frame.newCommand) [] commandRetries none log =
            (none, log ++ (fails.flatMap fun e =>
                [.call (.runCommand frame.newCommand) (some e), .sleep]) ++
              [.call (.runCommand frame.newCommand) none])) := by
  obtain ⟨n, hn⟩ := Task.poll_iterate env ic commandRetries frame commandRetries 0 none log
    (Nat.sub_zero _)
  obtain ⟨fails, h⟩ := retryLoop_eq env.oracle (.runCommand frame.newCommand) [] commandRetries
    none log
  rw [lastError_none] at h
  exact ⟨n, hn, fails, h⟩

end

end K8sTew
