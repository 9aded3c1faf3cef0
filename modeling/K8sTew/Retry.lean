import K8sTew.Basic
set_option autoImplicit false

/-!
# The fixed-backoff retry loop

`Deployment.runCommand` and every node of `Deployment.runConfigureTaints` run the same
loop:

    for retries := uint(0); retries < deployment.commandRetries; retries++ {
      if error = <attempt>; error == nil {
        break
      }
      <on failure>
      time.Sleep(time.Second)
    }

`retryLoop` is that loop, by structural recursion on the attempts left
(`commandRetries - retries`).  `retryLoop_eq` says everything a run of it can do: a
number of failed attempts, then either the budget is spent and the last error (or the
value `error` held before the loop, when there was no attempt) is reported, or one more
attempt succeeds and `nil` is reported.

The third loop, in `Servers.runCommand`, also reads the stop flag before each attempt, so
it is part of the command goroutine's machine (`K8sTew.Servers.Task`); while the flag is
down it is this loop (`Task.runCommand_loop_eq_retryLoop`).
-/

namespace K8sTew

/-- The retry loop over `attempt`; `remaining` is `commandRetries - retries`, `error` the
value the loop's error variable holds, which is what is reported once no attempt is left.
`onFailure` is what the loop body does after a failed attempt, before sleeping. -/
def retryLoop (o : Oracle) (attempt : Call) (onFailure : List Event) :
    Nat → Option Error → List Event → Option Error × List Event
  | 0, error, log => (error, log)
  | remaining + 1, _, log =>
    match o log attempt with
    | none => (none, log ++ [.call attempt none])
    | some e =>
      retryLoop o attempt onFailure remaining (some e)
        (log ++ .call attempt (some e) :: onFailure ++ [.sleep])

/-- The log entries of one failed attempt of the loop. -/
def failedAttempt (attempt : Call) (onFailure : List Event) (e : Error) : List Event :=
  .call attempt (some e) :: onFailure ++ [.sleep]

section
variable (o : Oracle) (attempt : Call) (onFailure : List Event)

@[simp] theorem retryLoop_zero (error : Option Error) (log : List Event) :
    retryLoop o attempt onFailure 0 error log = (error, log) := rfl

/-- The error the loop reports after the failed attempts `fails` used up its budget. -/
def lastError (fails : List Error) (error : Option Error) : Option Error :=
  (fails.getLast?.map some).getD error

@[simp] theorem lastError_nil (error : Option Error) : lastError [] error = error := rfl

theorem lastError_cons (e : Error) (fails : List Error) (error : Option Error) :
    lastError (e :: fails) error = lastError fails (some e) := by
  cases h : fails.getLast? <;> simp [lastError, List.getLast?_cons, h]

/-- Every run of the loop: `fails` are the outcomes of the failed attempts, in order.
Either all `remaining` attempts failed and the last error is reported, or fewer failed
and the next attempt succeeded. -/
theorem retryLoop_eq (remaining : Nat) (error : Option Error) (log : List Event) :
    ∃ fails : List Error,
      (fails.length = remaining ∧ retryLoop o attempt onFailure remaining error log =
          (lastError fails error, log ++ fails.flatMap (failedAttempt attempt onFailure))) ∨
      (fails.length < remaining ∧ retryLoop o attempt onFailure remaining error log =
          (none, log ++ fails.flatMap (failedAttempt attempt onFailure) ++
            [.call attempt none])) := by
  induction remaining generalizing error log with
  | zero => exact ⟨[], .inl ⟨rfl, by simp⟩⟩
  | succ n ih =>
    cases h : o log attempt with
    | none => exact ⟨[], .inr ⟨by simp, by simp [retryLoop, h]⟩⟩
    | some e =>
      obtain ⟨fails, ⟨hlen, heq⟩ | ⟨hlen, heq⟩⟩ :=
        ih (some e) (log ++ failedAttempt attempt onFailure e)
      · refine ⟨e :: fails, .inl ⟨by simp [hlen], ?_⟩⟩
        simp [retryLoop, h, failedAttempt, lastError_cons] at heq ⊢
        exact heq
      · refine ⟨e :: fails, .inr ⟨by simp [hlen], ?_⟩⟩
        simp [retryLoop, h, failedAttempt] at heq ⊢
        exact heq

/-- A loop whose every attempt fails makes all `remaining` attempts and reports the last
error, or `error` when it makes none. -/
theorem retryLoop_of_fails (hfail : ∀ log, o log attempt ≠ none) (remaining : Nat)
    (error : Option Error) (log : List Event) :
    ∃ fails : List Error, fails.length = remaining ∧
      retryLoop o attempt onFailure remaining error log =
        (lastError fails error, log ++ fails.flatMap (failedAttempt attempt onFailure)) := by
  induction remaining generalizing error log with
  | zero => exact ⟨[], rfl, by simp⟩
  | succ n ih =>
    obtain ⟨e, he⟩ := Option.ne_none_iff_exists'.1 (hfail log)
    obtain ⟨fails, hlen, heq⟩ := ih (some e) (log ++ failedAttempt attempt onFailure e)
    refine ⟨e :: fails, by simp [hlen], ?_⟩
    simp [retryLoop, he, failedAttempt, lastError_cons] at heq ⊢
    exact heq

theorem lastError_none (fails : List Error) : lastError fails none = fails.getLast? := by
  cases h : fails.getLast? <;> simp [lastError, h]

/-- An error the loop reports, when its error variable starts `nil`, is the outcome of an
attempt it logged. -/
theorem retryLoop_error {remaining : Nat} {log : List Event} {e : Error}
    (h : (retryLoop o attempt onFailure remaining none log).1 = some e) :
    .call attempt (some e) ∈ (retryLoop o attempt onFailure remaining none log).2 := by
  obtain ⟨fails, ⟨-, heq⟩ | ⟨-, heq⟩⟩ :=
    retryLoop_eq o attempt onFailure remaining none log
  · rw [heq, lastError_none] at h
    rw [heq]
    exact List.mem_append_right _
      (List.mem_flatMap.2 ⟨e, List.mem_of_getLast?_eq_some h, by simp [failedAttempt]⟩)
  · rw [heq] at h
    cases h

theorem mem_failedAttempt {e : Event} {f : Error}
    (h : e ∈ failedAttempt attempt onFailure f) :
    e ∈ onFailure ∨ e = .sleep ∨ ∃ r, e = .call attempt r := by
  simp only [failedAttempt, List.cons_append, List.mem_cons, List.mem_append,
    List.mem_singleton, List.not_mem_nil, or_false] at h
  rcases h with rfl | h | rfl
  · exact .inr (.inr ⟨_, rfl⟩)
  · exact .inl h
  · exact .inr (.inl rfl)

theorem lastError_ne_none {fails : List Error} (h : fails ≠ []) (error : Option Error) :
    lastError fails error ≠ none := by
  obtain ⟨f, hf⟩ := Option.ne_none_iff_exists'.1 (mt List.getLast?_eq_none_iff.1 h)
  simp [lastError, hf]

/-- What the loop appends: its attempts, what it does after a failure, and the sleeps;
with an attempt left, it reports `nil` only after an attempt returned `nil`. -/
theorem retryLoop_log (remaining : Nat) (error : Option Error) (log : List Event) :
    ∃ es, (retryLoop o attempt onFailure remaining error log).2 = log ++ es ∧
      (∀ e ∈ es, e ∈ onFailure ∨ e = .sleep ∨ ∃ r, e = .call attempt r) ∧
      ((retryLoop o attempt onFailure remaining error log).1 = none → 0 < remaining →
        .call attempt none ∈ es) := by
  obtain ⟨fails, ⟨hlen, heq⟩ | ⟨-, heq⟩⟩ :=
    retryLoop_eq o attempt onFailure remaining error log
  · refine ⟨_, by rw [heq], fun e he => ?_, fun h hpos => ?_⟩
    · obtain ⟨f, -, he⟩ := List.mem_flatMap.1 he
      exact mem_failedAttempt attempt onFailure he
    · rw [heq] at h
      exact absurd h (lastError_ne_none (List.ne_nil_of_length_pos (hlen ▸ hpos)) error)
  · refine ⟨_, by rw [heq, List.append_assoc], fun e he => ?_, fun _ _ => by simp⟩
    rcases List.mem_append.1 he with he | he
    · obtain ⟨f, -, he⟩ := List.mem_flatMap.1 he
      exact mem_failedAttempt attempt onFailure he
    · exact .inr (.inr ⟨_, List.mem_singleton.1 he⟩)

/-- What a loop whose failures only log appends makes no progress step and no call but
`attempt`. -/
theorem retryEntries_quiet {es : List Event}
    (honFailure : ∀ e ∈ onFailure, ∃ level message, e = .log level message)
    (h : ∀ e ∈ es, e ∈ onFailure ∨ e = .sleep ∨ ∃ r, e = .call attempt r) :
    progressSteps es = 0 ∧ ∀ c ∈ calls es, c = attempt := by
  refine ⟨progressSteps_eq_zero fun e he => ?_, fun c hc => ?_⟩
  · rcases h e he with he | rfl | ⟨r, rfl⟩
    · obtain ⟨level, message, rfl⟩ := honFailure e he
      simp
    · simp
    · simp
  · obtain ⟨r, hr⟩ := mem_calls.1 hc
    rcases h _ hr with he | he | ⟨r', he⟩
    · obtain ⟨level, message, he⟩ := honFailure _ he
      cases he
    · cases he
    · cases he
      rfl

end

end K8sTew
