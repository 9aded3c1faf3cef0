import K8sTew.Deployment.Deploy
set_option autoImplicit false

/-!
# Deployment: the work `Deploy` does is bounded

Every loop of `Deploy` either stops at its first error or moves on, and every retry loop
breaks at the first success and stops after `commandRetries` attempts.  So, whatever the
calls return, `Deploy` uploads to each sorted node key at most once, tries its taint at
most `commandRetries` times, pulls each image of the table at most once on it, and runs
each command of `Config.Commands` in one run of at most `commandRetries` attempts of its
rendered form, the commands in order; it sleeps (one `time.Sleep(time.Second)` after each
failed attempt) only in the taint and command loops.

The calls a loop may make are an allowance per call: `uploadAllowance`, `taintAllowance`
and `pullAllowance` give each call its count, and a call of another loop gets none.  Each
loop has one bound lemma, by induction on its list; the phases are then composed.
-/

namespace K8sTew

/-- How many `time.Sleep(time.Second)` a log records. -/
def sleeps (log : List Event) : Nat := log.count .sleep

@[simp] theorem sleeps_nil : sleeps [] = 0 := rfl

@[simp] theorem sleeps_cons (e : Event) (log : List Event) :
    sleeps (e :: log) = sleeps log + if e = .sleep then 1 else 0 := by
  simp [sleeps, List.count_cons]

@[simp] theorem sleeps_append (l₁ l₂ : List Event) :
    sleeps (l₁ ++ l₂) = sleeps l₁ + sleeps l₂ :=
  List.count_append _ _ _

/-- A retry loop whose failures only log makes `n ≤ remaining` attempts and sleeps at most
`n` times. -/
theorem retryLoop_bound (o : Oracle) (attempt : Call) (onFailure : List Event)
    (hcalls : calls onFailure = []) (hsleeps : sleeps onFailure = 0) :
    ∀ (remaining : Nat) (error : Option Error) (log : List Event),
    ∃ es n, (retryLoop o attempt onFailure remaining error log).2 = log ++ es ∧
      calls es = List.replicate n attempt ∧ n ≤ remaining ∧ sleeps es ≤ n
  | 0, _, _ => ⟨[], 0, by simp⟩
  | remaining + 1, _, log => by
    cases h : o log attempt with
    | none =>
      exact ⟨[.call attempt none], 1, by simp [retryLoop, h], by simp [Event.call?], by simp,
        by simp⟩
    | some e =>
      obtain ⟨es, n, hes, hc, hn, hs⟩ := retryLoop_bound o attempt onFailure hcalls hsleeps
        remaining (some e) (log ++ .call attempt (some e) :: onFailure ++ [.sleep])
      refine ⟨.call attempt (some e) :: onFailure ++ .sleep :: es, n + 1,
        by simp only [retryLoop, h]; rw [hes]; simp, ?_, by omega, ?_⟩
      · simp [hcalls, hc, Event.call?, List.replicate_succ]
      · simp [hsleeps]
        omega

theorem count_append_le {l₁ l₂ : List Call} {c : Call} {a b : Nat} (h₁ : l₁.count c ≤ a)
    (h₂ : l₂.count c ≤ b) : (l₁ ++ l₂).count c ≤ a + b := by
  rw [List.count_append]
  omega

namespace Deployment

variable (d : Deployment)

/-! ## Allowances -/

/-- The calls an upload loop over `keys` may make: an upload per occurrence of a key. -/
def uploadAllowance (keys : List String) : Call → Nat
  | .uploadFiles k _ => keys.count k
  | _ => 0

/-- The calls a taint loop over `keys` may make: `commandRetries` attempts per occurrence
of a key. -/
def taintAllowance (keys : List String) (commandRetries : Nat) : Call → Nat
  | .configureTaint k => keys.count k * commandRetries
  | _ => 0

/-- The calls a pull loop over `keys` may make: a pull per occurrence of a key and per
image of the name. -/
def pullAllowance (keys : List String) (images : List Image) : Call → Nat
  | .pullImage k name => keys.count k * images.countP fun image => image.name == name
  | _ => 0

theorem uploadAllowance_cons (k : String) (keys : List String) (c : Call) :
    uploadAllowance (k :: keys) c = uploadAllowance [k] c + uploadAllowance keys c := by
  cases c <;> simp [uploadAllowance, List.count_cons, Nat.add_comm]

theorem taintAllowance_cons (k : String) (keys : List String) (commandRetries : Nat)
    (c : Call) : taintAllowance (k :: keys) commandRetries c =
      taintAllowance [k] commandRetries c + taintAllowance keys commandRetries c := by
  cases c <;> simp [taintAllowance, List.count_cons, Nat.add_mul, Nat.add_comm]

theorem pullAllowance_cons (k : String) (keys : List String) (images : List Image)
    (c : Call) : pullAllowance (k :: keys) images c =
      pullAllowance [k] images c + pullAllowance keys images c := by
  cases c <;> simp [pullAllowance, List.count_cons, Nat.add_mul, Nat.add_comm]

theorem pullAllowance_cons_image (keys : List String) (image : Image) (images : List Image)
    (c : Call) : pullAllowance keys (image :: images) c =
      pullAllowance keys [image] c + pullAllowance keys images c := by
  cases c <;> simp [pullAllowance, List.countP_cons, Nat.mul_add, Nat.add_comm]

theorem count_uploadFiles_le (k : String) (force : Bool) (c : Call) :
    [Call.uploadFiles k force].count c ≤ uploadAllowance [k] c := by
  cases c <;> simp [uploadAllowance, List.count_cons]
  split_ifs <;> simp_all

theorem count_configureTaint_le (k : String) {n commandRetries : Nat} (hn : n ≤ commandRetries)
    (c : Call) :
    (List.replicate n (Call.configureTaint k)).count c ≤ taintAllowance [k] commandRetries c := by
  cases c <;> simp [taintAllowance, List.count_replicate, List.count_cons]
  split_ifs <;> simp_all

theorem count_pullImage_le (k : String) (image : Image) (c : Call) :
    [Call.pullImage k image.name].count c ≤ pullAllowance [k] [image] c := by
  cases c <;> simp [pullAllowance, List.count_cons, List.countP_cons]
  split_ifs <;> simp_all

/-- The `utils.RunCommand` calls of a bootstrapper loop over `commands`: runs of at most
`commandRetries` attempts, at most one per command and in order, each of the command's
rendering against `ic`. -/
def RunsWithin (env : Env) (ic : InternalConfig) (commands : List Command) (cs : List Call) :
    Prop :=
  ∃ ran : List (Command × String × Nat), List.Sublist (ran.map (·.1)) commands ∧
    cs = (attemptsOf ran).map .runCommand ∧
    ∀ p ∈ ran, p.2.2 ≤ d.commandRetries ∧ env.applyTemplate ic p.1.name p.1.command = .ok p.2.1

theorem runsWithin_nil (env : Env) (ic : InternalConfig) (commands : List Command) :
    d.RunsWithin env ic commands [] :=
  ⟨[], List.nil_sublist _, rfl, by simp⟩

theorem RunsWithin.cons_skip {env : Env} {ic : InternalConfig} {rest : List Command}
    {cs : List Call} (command : Command) (h : d.RunsWithin env ic rest cs) :
    d.RunsWithin env ic (command :: rest) cs :=
  let ⟨ran, hsub, hcs, hran⟩ := h
  ⟨ran, hsub.cons _, hcs, hran⟩

theorem RunsWithin.cons_run {env : Env} {ic : InternalConfig} {command : Command}
    {rest : List Command} {rendered : String} {n : Nat} {cs : List Call}
    (h : d.RunsWithin env ic rest cs)
    (hrender : env.applyTemplate ic command.name command.command = .ok rendered)
    (hn : n ≤ d.commandRetries) :
    d.RunsWithin env ic (command :: rest) (List.replicate n (.runCommand rendered) ++ cs) :=
  let ⟨ran, hsub, hcs, hran⟩ := h
  ⟨(command, rendered, n) :: ran, hsub.cons₂ _, by simp [hcs, List.map_replicate],
    by simpa [hn, hrender] using hran⟩

/-- A bootstrapper loop makes no call but `utils.RunCommand`. -/
theorem RunsWithin.count_eq_zero {env : Env} {ic : InternalConfig} {commands : List Command}
    {cs : List Call} (h : d.RunsWithin env ic commands cs) {c : Call}
    (hc : c.runCommand? = none) : cs.count c = 0 := by
  obtain ⟨ran, -, rfl, -⟩ := h
  refine List.count_eq_zero.2 fun hmem => ?_
  obtain ⟨command, -, rfl⟩ := List.mem_map.1 hmem
  simp [Call.runCommand?] at hc

/-! ## One bound per loop -/

theorem runCommand_bound (o : Oracle) (command : String) (log : List Event) :
    ∃ es n, (d.runCommand o command log).2 = log ++ es ∧
      calls es = List.replicate n (.runCommand command) ∧ n ≤ d.commandRetries ∧
      sleeps es ≤ d.commandRetries := by
  obtain ⟨rs, n, hrs, hc, hn, hs⟩ := retryLoop_bound o (.runCommand command)
    [.log .debug "Command failed"] rfl rfl d.commandRetries none
    (log ++ [.log .info "Executing command"])
  unfold runCommand
  split <;> rename_i hr <;> rw [hr] at hrs <;> simp only at hrs ⊢ <;> subst hrs
  · exact ⟨.log .info "Executing command" :: rs ++ [.log .error "Command failed"], n, by simp,
      by simpa [Event.call?] using hc, hn, by simp; omega⟩
  · exact ⟨.log .info "Executing command" :: rs, n, by simp, by simpa [Event.call?] using hc, hn,
      by simp; omega⟩

theorem uploadFiles_bound (o : Oracle) : ∀ (keys : List String) (st : DeployState),
    ∃ es, (d.uploadFiles o keys st).2.log = st.log ++ es ∧
      (∀ c, (calls es).count c ≤ uploadAllowance keys c) ∧ sleeps es = 0
  | [], st => ⟨[], by simp [uploadFiles]⟩
  | k :: rest, st => by
    unfold uploadFiles
    split
    · exact ⟨[], by simp⟩
    · rename_i nodeDeployment _
      dsimp only
      have hone := count_uploadFiles_le k d.forceUpload
      split
      · rename_i e _
        refine ⟨[.setNode k, .call (.uploadFiles k d.forceUpload) (some e)], by simp,
          fun c => ?_, by simp⟩
        simp only [calls_cons, calls_nil, Event.call?, Option.toList_some, Option.toList_none,
          List.nil_append, List.append_nil, uploadAllowance_cons k rest]
        exact (hone c).trans (Nat.le_add_right _ _)
      · obtain ⟨es, hes, hc, hs⟩ := uploadFiles_bound o rest
          ⟨(setNode st k nodeDeployment).config,
            (setNode st k nodeDeployment).log ++ [.call (.uploadFiles k d.forceUpload) none]⟩
        refine ⟨.setNode k :: .call (.uploadFiles k d.forceUpload) none :: es,
          by simpa using hes, fun c => ?_, by simpa using hs⟩
        simp only [calls_cons, Event.call?, Option.toList_some, Option.toList_none,
          List.nil_append, uploadAllowance_cons k rest]
        exact count_append_le (hone c) (hc c)

theorem configureTaints_bound (o : Oracle) :
    ∀ (keys : List String) (error : Option Error) (st : DeployState),
    ∃ es, (d.configureTaints o keys error st).2.log = st.log ++ es ∧
      (∀ c, (calls es).count c ≤ taintAllowance keys d.commandRetries c) ∧
      sleeps es ≤ keys.length * d.commandRetries
  | [], _, st => ⟨[], by simp [configureTaints]⟩
  | k :: rest, error, st => by
    unfold configureTaints
    split
    · exact ⟨[], by simp⟩
    · rename_i nodeDeployment _
      dsimp only
      obtain ⟨rs, n, hrs, hc, hn, hs⟩ := retryLoop_bound o (.configureTaint k) [] rfl rfl
        d.commandRetries error
        ((setNode st k nodeDeployment).log ++ [.log .info "Configuring taint"])
      have hone := count_configureTaint_le k hn
      split <;> rename_i hr <;> rw [hr] at hrs <;> simp only at hrs <;> subst hrs
      · refine ⟨.setNode k :: .log .info "Configuring taint" :: rs ++
          [.increaseProgressStep, .log .error "Taint node failed"], by simp, fun c => ?_, ?_⟩
        · simp only [calls_cons, calls_append, calls_nil, Event.call?, Option.toList_none,
            List.nil_append, List.append_nil, hc, taintAllowance_cons k rest]
          exact (hone c).trans (Nat.le_add_right _ _)
        · simp [Nat.add_mul]
          omega
      · obtain ⟨es, hes, hc', hs'⟩ := configureTaints_bound o rest none
          ⟨(setNode st k nodeDeployment).config, (setNode st k nodeDeployment).log ++
            [.log .info "Configuring taint"] ++ rs ++ [.increaseProgressStep]⟩
        refine ⟨.setNode k :: .log .info "Configuring taint" :: rs ++
          .increaseProgressStep :: es, by simpa using hes, fun c => ?_, ?_⟩
        · simp only [calls_cons, calls_append, Event.call?, Option.toList_none,
            List.nil_append, hc, taintAllowance_cons k rest]
          exact count_append_le (hone c) (hc' c)
        · simp [Nat.add_mul]
          omega

theorem pullImageTask_bound (env : Env) (nodeName : String) (image : Image)
    (log : List Event) :
    ∃ es, (d.pullImageTask env nodeName image log).2 = log ++ es ∧
      (∀ c, (calls es).count c ≤ pullAllowance [nodeName] [image] c) ∧ sleeps es = 0 := by
  unfold pullImageTask
  split
  · exact ⟨[.increaseProgressStep], rfl, by simp [Event.call?], by simp⟩
  · split <;> exact ⟨_, rfl, fun c => by
      simpa [Event.call?] using count_pullImage_le nodeName image c, by simp⟩

theorem runParallelTasks_pullImageTask_bound (env : Env) (nodeName : String) :
    ∀ (images : List Image) (log : List Event),
    ∃ es, (runParallelTasks (images.map (d.pullImageTask env nodeName)) log).2 = log ++ es ∧
      (∀ c, (calls es).count c ≤ pullAllowance [nodeName] images c) ∧ sleeps es = 0
  | [], log => ⟨[], by simp [runParallelTasks]⟩
  | image :: images, log => by
    obtain ⟨es₁, hes₁, hc₁, hs₁⟩ := d.pullImageTask_bound env nodeName image log
    obtain ⟨es₂, hes₂, hc₂, hs₂⟩ := runParallelTasks_pullImageTask_bound env nodeName images
      (d.pullImageTask env nodeName image log).2
    simp only [List.map_cons, runParallelTasks] at hes₂ ⊢
    refine ⟨es₁ ++ es₂, by rw [hes₂, hes₁, List.append_assoc], fun c => ?_, by simp [hs₁, hs₂]⟩
    rw [calls_append, pullAllowance_cons_image]
    exact count_append_le (hc₁ c) (hc₂ c)

theorem pullNodeImages_bound (env : Env) : ∀ (keys : List String) (st : DeployState),
    ∃ es, (d.pullNodeImages env keys st).2.log = st.log ++ es ∧
      (∀ c, (calls es).count c ≤ pullAllowance keys d.images c) ∧ sleeps es = 0
  | [], st => ⟨[], by simp [pullNodeImages]⟩
  | k :: rest, st => by
    unfold pullNodeImages
    split
    · exact ⟨[], by simp⟩
    · rename_i nodeDeployment _
      dsimp only
      obtain ⟨ps, hps, hc, hs⟩ :=
        d.runParallelTasks_pullImageTask_bound env k d.images (setNode st k nodeDeployment).log
      split <;> rename_i hr <;> rw [hr] at hps <;> simp only at hps <;> subst hps
      · refine ⟨.setNode k :: ps, by simp, fun c => ?_, by simpa using hs⟩
        simp only [calls_cons, Event.call?, Option.toList_none, List.nil_append,
          pullAllowance_cons k rest]
        exact (hc c).trans (Nat.le_add_right _ _)
      · obtain ⟨es, hes, hc', hs'⟩ := pullNodeImages_bound env rest
          ⟨(setNode st k nodeDeployment).config, (setNode st k nodeDeployment).log ++ ps⟩
        refine ⟨.setNode k :: ps ++ es, by simpa using hes, fun c => ?_, by simp [hs, hs']⟩
        simp only [List.cons_append, calls_cons, calls_append, Event.call?, Option.toList_none,
          List.nil_append, pullAllowance_cons k rest]
        exact count_append_le (hc c) (hc' c)

theorem bootstrapperCommands_bound (env : Env) :
    ∀ (commands : List Command) (st : DeployState),
    ∃ es, (d.bootstrapperCommands env commands st).2.log = st.log ++ es ∧
      d.RunsWithin env st.config commands (calls es) ∧
      sleeps es ≤ commands.length * d.commandRetries
  | [], st => ⟨[], by simp [bootstrapperCommands], d.runsWithin_nil env _ _, by simp⟩
  | command :: rest, st => by
    have hskipped : ∃ es, (d.bootstrapperCommands env rest
          { st with log := st.log ++ [.increaseProgressStep] }).2.log = st.log ++ es ∧
        d.RunsWithin env st.config (command :: rest) (calls es) ∧
        sleeps es ≤ (command :: rest).length * d.commandRetries := by
      obtain ⟨es, hes, hc, hs⟩ := bootstrapperCommands_bound env rest
        ⟨st.config, st.log ++ [.increaseProgressStep]⟩
      refine ⟨.increaseProgressStep :: es, by simpa using hes,
        by simpa [Event.call?] using RunsWithin.cons_skip d command hc, ?_⟩
      simp [Nat.add_mul]
      omega
    unfold bootstrapperCommands
    split
    · exact hskipped
    · split
      · exact hskipped
      · split
        · exact ⟨[], by simp, d.runsWithin_nil env _ _, by simp⟩
        · rename_i rendered hrender
          obtain ⟨rs, n, hrs, hc, hn, hs⟩ := d.runCommand_bound env.oracle rendered st.log
          split <;> rename_i hr <;> rw [hr] at hrs <;> simp only at hrs <;> subst hrs
          · refine ⟨rs, rfl, ?_, by simp [Nat.add_mul]; omega⟩
            simpa [hc] using RunsWithin.cons_run d (d.runsWithin_nil env st.config rest) hrender hn
          · obtain ⟨es, hes, hc', hs'⟩ := bootstrapperCommands_bound env rest
              ⟨st.config, st.log ++ rs ++ [.increaseProgressStep]⟩
            refine ⟨rs ++ .increaseProgressStep :: es, by simpa using hes, ?_, ?_⟩
            · simpa [hc, Event.call?] using RunsWithin.cons_run d hc' hrender hn
            · simp [Nat.add_mul]
              omega

theorem runPullImages_bound (env : Env) (st : DeployState) :
    ∃ es, (d.runPullImages env st).2.log = st.log ++ es ∧
      (∀ c, (calls es).count c ≤
        pullAllowance (env.getSortedNodeKeys st.config.config) d.images c) ∧
      sleeps es = 0 := by
  unfold runPullImages
  split
  · exact ⟨[], by simp⟩
  · exact d.pullNodeImages_bound env _ st

/-! ## The phases composed -/

/-- The log `setup` appends is the taint loop's, the pull loop's and the bootstrapper
loop's entries, each within its allowance. -/
theorem setup_bound (env : Env) (st : DeployState) :
    ∃ ts ps bs, (d.setup env st).2.log = st.log ++ (ts ++ ps ++ bs) ∧
      (∀ c, (calls ts).count c ≤
        taintAllowance (env.getSortedNodeKeys st.config.config) d.commandRetries c) ∧
      (∀ c, (calls ps).count c ≤
        pullAllowance (env.getSortedNodeKeys st.config.config) d.images c) ∧
      (∃ ic : InternalConfig, ic.config = st.config.config ∧
        d.RunsWithin env ic st.config.config.commands (calls bs)) ∧
      sleeps (ts ++ ps ++ bs) ≤ ((env.getSortedNodeKeys st.config.config).length +
        st.config.config.commands.length) * d.commandRetries := by
  have hnone : ∃ ic : InternalConfig, ic.config = st.config.config ∧
      d.RunsWithin env ic st.config.config.commands (calls []) :=
    ⟨st.config, rfl, d.runsWithin_nil env _ _⟩
  unfold setup
  split
  · exact ⟨[], [], [], by simp, by simp, by simp, hnone, by simp⟩
  obtain ⟨ts, hts, htc, hts'⟩ :=
    d.configureTaints_bound env.oracle (env.getSortedNodeKeys st.config.config) none st
  obtain ⟨_, -, hconfig₁, -⟩ :=
    d.configureTaints_spec env.oracle (env.getSortedNodeKeys st.config.config) none st
  unfold runConfigureTaints
  split
  · rename_i e st₁ hr
    rw [hr] at hts
    refine ⟨ts, [], [], by simpa using hts, htc, by simp, hnone, ?_⟩
    simp only [List.append_nil, Nat.add_mul]
    omega
  rename_i st₁ hr
  rw [hr] at hts hconfig₁
  obtain ⟨ps, hps, hpc, hps'⟩ := d.runPullImages_bound env st₁
  obtain ⟨_, -, hconfig₂, -⟩ := d.runPullImages_spec env st₁
  rw [hconfig₁] at hpc
  split
  · rename_i e st₂ hr
    rw [hr] at hps
    refine ⟨ts, ps, [], by rw [hps, hts]; simp, htc, hpc, hnone, ?_⟩
    simp only [List.append_nil, sleeps_append, hps', Nat.add_mul]
    omega
  rename_i st₂ hr
  rw [hr] at hps hconfig₂
  obtain ⟨bs, hbs, hbc, hbs'⟩ := d.bootstrapperCommands_bound env st₂.config.config.commands st₂
  rw [hconfig₂, hconfig₁] at hbc hbs'
  refine ⟨ts, ps, bs, by rw [runBoostrapperCommands, hbs, hps, hts]; simp, htc, hpc,
    ⟨st₂.config, hconfig₂.trans hconfig₁, hbc⟩, ?_⟩
  simp only [sleeps_append, hps', Nat.add_mul]
  omega

/-- The log `Deploy` appends is the upload loop's entries followed by `setup`'s. -/
theorem deploy_bound (env : Env) (st : DeployState) :
    ∃ us ts ps bs, (d.deploy env st).2.log = st.log ++ (us ++ ts ++ ps ++ bs) ∧
      (∀ c, (calls us).count c ≤ uploadAllowance (env.getSortedNodeKeys st.config.config) c) ∧
      (∀ c, (calls ts).count c ≤
        taintAllowance (env.getSortedNodeKeys st.config.config) d.commandRetries c) ∧
      (∀ c, (calls ps).count c ≤
        pullAllowance (env.getSortedNodeKeys st.config.config) d.images c) ∧
      (∃ ic : InternalConfig, ic.config = st.config.config ∧
        d.RunsWithin env ic st.config.config.commands (calls bs)) ∧
      sleeps (us ++ ts ++ ps ++ bs) ≤ ((env.getSortedNodeKeys st.config.config).length +
        st.config.config.commands.length) * d.commandRetries := by
  obtain ⟨us, hus, huc, hus'⟩ :=
    d.uploadFiles_bound env.oracle (env.getSortedNodeKeys st.config.config) st
  obtain ⟨_, -, hconfig, -⟩ :=
    d.uploadFiles_spec env.oracle (env.getSortedNodeKeys st.config.config) st
  unfold deploy
  split
  · rename_i e st₁ hr
    rw [hr] at hus
    exact ⟨us, [], [], [], by simpa using hus, huc, by simp, by simp,
      ⟨st.config, rfl, d.runsWithin_nil env _ _⟩, by simp [hus']⟩
  · rename_i st₁ hr
    rw [hr] at hus hconfig
    obtain ⟨ts, ps, bs, hss, htc, hpc, hbc, hss'⟩ := d.setup_bound env st₁
    rw [hconfig] at htc hpc hbc hss'
    exact ⟨us, ts, ps, bs, by rw [hss, hus]; simp, huc, htc, hpc, hbc,
      by simpa [hus'] using hss'⟩

/-- Whatever every external call returns, `Deploy` uploads to each sorted node key at most
once, makes at most `commandRetries` taint attempts per key and at most one pull per key
and image of the table, and runs the commands of `Config.Commands` in order, each at most
once, in one run of at most `commandRetries` attempts of its rendering; it sleeps one
second at most `commandRetries` times per key and per command. -/
theorem deploy_work_bounded (env : Env) (st : DeployState) :
    ∃ es, (d.deploy env st).2.log = st.log ++ es ∧
      (∀ k force, (calls es).count (.uploadFiles k force) ≤
        (env.getSortedNodeKeys st.config.config).count k) ∧
      (∀ k, (calls es).count (.configureTaint k) ≤
        (env.getSortedNodeKeys st.config.config).count k * d.commandRetries) ∧
      (∀ k name, (calls es).count (.pullImage k name) ≤
        (env.getSortedNodeKeys st.config.config).count k *
          d.images.countP (fun image => image.name == name)) ∧
      (∃ (ic : InternalConfig) (ran : List (Command × String × Nat)),
        ic.config = st.config.config ∧ List.Sublist (ran.map (·.1)) st.config.config.commands ∧
        commandsRun es = attemptsOf ran ∧
        ∀ p ∈ ran, p.2.2 ≤ d.commandRetries ∧
          env.applyTemplate ic p.1.name p.1.command = .ok p.2.1) ∧
      sleeps es ≤ ((env.getSortedNodeKeys st.config.config).length +
        st.config.config.commands.length) * d.commandRetries := by
  obtain ⟨us, ts, ps, bs, hes, huc, htc, hpc, ⟨ic, hic, hbc⟩, hs⟩ := d.deploy_bound env st
  set keys := env.getSortedNodeKeys st.config.config
  /- The first three loops keep each call within the sum of their allowances, and the
  bootstrapper loop makes no call but `utils.RunCommand`. -/
  have hfirst : ∀ c, (calls (us ++ ts ++ ps)).count c ≤ uploadAllowance keys c +
      taintAllowance keys d.commandRetries c + pullAllowance keys d.images c := fun c => by
    simp only [calls_append]
    exact count_append_le (count_append_le (huc c) (htc c)) (hpc c)
  have hcount : ∀ c, c.runCommand? = none → (calls (us ++ ts ++ ps ++ bs)).count c ≤
      uploadAllowance keys c + taintAllowance keys d.commandRetries c +
        pullAllowance keys d.images c := fun c hc => by
    rw [calls_append, List.count_append, RunsWithin.count_eq_zero d hbc hc]
    exact hfirst c
  obtain ⟨ran, hsub, hcalls, hran⟩ := hbc
  have hrun : commandsRun (us ++ ts ++ ps) = [] :=
    commandsRun_eq_nil fun command => Nat.le_zero.1 (hfirst (.runCommand command))
  refine ⟨us ++ ts ++ ps ++ bs, hes, fun k force => ?_, fun k => ?_, fun k name => ?_,
    ⟨ic, ran, hic, hsub, by rw [commandsRun_append, hrun, commandsRun_of_calls hcalls]; rfl,
      hran⟩, hs⟩
  · simpa [uploadAllowance, taintAllowance, pullAllowance] using
      hcount (.uploadFiles k force) rfl
  · simpa [uploadAllowance, taintAllowance, pullAllowance] using hcount (.configureTaint k) rfl
  · simpa [uploadAllowance, taintAllowance, pullAllowance] using hcount (.pullImage k name) rfl

end Deployment

end K8sTew
