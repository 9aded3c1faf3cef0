import K8sTew.Deployment.Properties
set_option autoImplicit false

/-!
# Deployment: where an error of `Deploy` comes from

Every phase of `Deploy` stops at its first error and returns it.  That error was returned
by a call the phase made and logged (an upload, a taint, an image pull, a
`utils.RunCommand`), or by `ApplyTemplate` on a bootstrapper command, or it is the `nil`
dereference of `deployment.nodes[nodeName]` for a key the map does not hold.
`NewDeployment` builds the map from `Config.Nodes`, so on the map it builds, with sorted
keys drawn from `Config.Nodes`, the last case cannot happen.

One lemma per loop traces its error back; the phases only append to the log, so what a
phase logged stays in the log of `Deploy`.
-/

namespace K8sTew

namespace Deployment

variable (d : Deployment)

/-- `Deployment.runCommand` returns only the error of an attempt it logged. -/
theorem runCommand_error (o : Oracle) (command : String) (log : List Event) {e : Error}
    (h : (d.runCommand o command log).1 = some e) :
    .call (.runCommand command) (some e) ∈ (d.runCommand o command log).2 := by
  unfold runCommand at h ⊢
  split at h
  · rename_i e' log' hr
    cases h
    have := retryLoop_error o (.runCommand command) [.log .debug "Command failed"]
      (by rw [hr])
    rw [hr] at this
    exact List.mem_append_left _ this
  · cases h

theorem uploadFiles_error (o : Oracle) : ∀ (keys : List String) (st : DeployState) {e : Error},
    (∀ k ∈ keys, d.nodes.lookup k ≠ none) → (d.uploadFiles o keys st).1 = some e →
      ∃ c, .call c (some e) ∈ (d.uploadFiles o keys st).2.log
  | [], _, _, _, h => by cases h
  | k :: rest, st, e, hkeys, h => by
    unfold uploadFiles at h ⊢
    split at h
    · exact absurd ‹_› (hkeys k (List.mem_cons_self _ _))
    · dsimp only at h ⊢
      split at h
      · cases h
        exact ⟨.uploadFiles k d.forceUpload, by simp⟩
      · exact uploadFiles_error o rest _ (fun k' hk' => hkeys k' (List.mem_cons_of_mem _ hk')) h

theorem configureTaints_error (o : Oracle) :
    ∀ (keys : List String) (st : DeployState) {e : Error},
    (∀ k ∈ keys, d.nodes.lookup k ≠ none) →
      (d.configureTaints o keys none st).1 = some e →
        ∃ c, .call c (some e) ∈ (d.configureTaints o keys none st).2.log
  | [], _, _, _, h => by cases h
  | k :: rest, st, e, hkeys, h => by
    unfold configureTaints at h ⊢
    split at h
    · exact absurd ‹_› (hkeys k (List.mem_cons_self _ _))
    · dsimp only at h ⊢
      split at h
      · rename_i e' log hr
        cases h
        have := retryLoop_error o (.configureTaint k) [] (by rw [hr])
        rw [hr] at this
        exact ⟨_, List.mem_append_left _ this⟩
      · exact configureTaints_error o rest _
          (fun k' hk' => hkeys k' (List.mem_cons_of_mem _ hk')) h

theorem runParallelTasks_error (env : Env) (nodeName : String) :
    ∀ (images : List Image) (log : List Event) {e : Error},
    e ∈ (runParallelTasks (images.map (d.pullImageTask env nodeName)) log).1 →
      ∃ c, .call c (some e) ∈
        (runParallelTasks (images.map (d.pullImageTask env nodeName)) log).2
  | [], _, _, h => by cases h
  | image :: images, log, e, h => by
    obtain ⟨es, hes, -⟩ := d.runParallelTasks_pullImageTask env nodeName images
      (d.pullImageTask env nodeName image log).2
    simp only [List.map_cons, runParallelTasks, List.mem_append] at h hes ⊢
    rcases h with h | h
    · refine ⟨.pullImage nodeName image.name, hes ▸ List.mem_append_left _ ?_⟩
      unfold pullImageTask at h ⊢
      split at h
      · cases h
      · split at h <;> simp_all
    · exact runParallelTasks_error env nodeName images _ h

theorem pullNodeImages_error (env : Env) :
    ∀ (keys : List String) (st : DeployState) {e : Error},
    (∀ k ∈ keys, d.nodes.lookup k ≠ none) → (d.pullNodeImages env keys st).1 = some e →
      ∃ c, .call c (some e) ∈ (d.pullNodeImages env keys st).2.log
  | [], _, _, _, h => by cases h
  | k :: rest, st, e, hkeys, h => by
    unfold pullNodeImages at h ⊢
    split at h
    · exact absurd ‹_› (hkeys k (List.mem_cons_self _ _))
    · dsimp only at h ⊢
      split at h
      · rename_i e' others log hr
        cases h
        have := d.runParallelTasks_error env k d.images (setNode st k ‹_›).log (e := e)
        rw [hr] at this
        exact this (List.mem_cons_self _ _)
      · exact pullNodeImages_error env rest _
          (fun k' hk' => hkeys k' (List.mem_cons_of_mem _ hk')) h

theorem bootstrapperCommands_error (env : Env) :
    ∀ (commands : List Command) (st : DeployState) {e : Error},
    (d.bootstrapperCommands env commands st).1 = some e →
      (∃ c, .call c (some e) ∈ (d.bootstrapperCommands env commands st).2.log) ∨
        ∃ command ∈ commands,
          env.applyTemplate st.config command.name command.command = .error e
  | [], _, _, h => by cases h
  | command :: rest, st, e, h => by
    by_cases hsel : env.hasLabels command.labels [nodeBootstrapper] = true ∧
        env.hasFeatures command.features d.skipSetupFeatures = false
    · obtain ⟨hl, hf⟩ := hsel
      simp only [bootstrapperCommands, hl, hf, Bool.not_true, Bool.false_eq_true, if_false]
        at h ⊢
      split at h
      · rename_i e' hrender
        cases h
        exact .inr ⟨command, List.mem_cons_self _ _, hrender⟩
      · rename_i rendered hrender
        split at h
        · rename_i e' log hr
          cases h
          have := d.runCommand_error env.oracle rendered st.log (by rw [hr])
          rw [hr] at this
          exact .inl ⟨_, this⟩
        · rcases bootstrapperCommands_error env rest _ h with h | ⟨command', hmem, hr'⟩
          · exact .inl h
          · exact .inr ⟨command', List.mem_cons_of_mem _ hmem, hr'⟩
    · have hskip : env.hasLabels command.labels [nodeBootstrapper] = false ∨
          env.hasFeatures command.features d.skipSetupFeatures = true := by
        cases hl : env.hasLabels command.labels [nodeBootstrapper] <;>
          cases hf : env.hasFeatures command.features d.skipSetupFeatures <;> simp_all
      rw [d.bootstrapperCommands_cons_of_skipped env command rest st hskip] at h ⊢
      rcases bootstrapperCommands_error env rest _ h with h | ⟨command', hmem, hr'⟩
      · exact .inl h
      · exact .inr ⟨command', List.mem_cons_of_mem _ hmem, hr'⟩

theorem setup_error (env : Env) (st : DeployState) {e : Error}
    (hkeys : ∀ k ∈ env.getSortedNodeKeys st.config.config, d.nodes.lookup k ≠ none)
    (h : (d.setup env st).1 = some e) :
    (∃ c, .call c (some e) ∈ (d.setup env st).2.log) ∨
      ∃ ic, ic.config = st.config.config ∧ ∃ command ∈ st.config.config.commands,
        env.applyTemplate ic command.name command.command = .error e := by
  unfold setup at h ⊢
  cases hskip : d.skipSetup
  · simp only [hskip, Bool.false_eq_true, if_false] at h ⊢
    obtain ⟨-, -, hconfig₁, -, -⟩ := d.configureTaints_spec env.oracle
      (env.getSortedNodeKeys st.config.config) none st
    unfold runConfigureTaints at h ⊢
    split at h
    · rename_i e' st₁ hr
      cases h
      have := d.configureTaints_error env.oracle _ st hkeys (by rw [hr])
      rw [hr] at this
      exact .inl this
    · rename_i st₁ hr
      rw [hr] at hconfig₁
      simp only at hconfig₁
      obtain ⟨-, -, hconfig₂, -, -, -⟩ := d.runPullImages_spec env st₁
      split at h
      · rename_i e' st₂ hr₂
        cases h
        unfold runPullImages at hr₂
        cases hpull : d.pullImages
        · simp [hpull] at hr₂
        · simp only [hpull, Bool.not_true, Bool.false_eq_true, if_false] at hr₂
          have := d.pullNodeImages_error env (env.getSortedNodeKeys st₁.config.config) st₁
            (by rw [hconfig₁]; exact hkeys) (by rw [hr₂])
          rw [hr₂] at this
          exact .inl this
      · rename_i st₂ hr₂
        rw [hr₂] at hconfig₂
        simp only at hconfig₂
        rcases d.bootstrapperCommands_error env _ st₂ h with h | ⟨command, hmem, hr'⟩
        · exact .inl h
        · exact .inr ⟨st₂.config, hconfig₂.trans hconfig₁, command,
            by rwa [hconfig₂, hconfig₁] at hmem, hr'⟩
  · simp [hskip] at h

/-- The node map `NewDeployment` builds holds a node deployment for each node of
`Config.Nodes`, under its name. -/
theorem lookup_nodeDeployments (entries : List (String × Node)) (k : String) :
    (entries.map fun (nodeName, node) =>
        (nodeName, (⟨nodeName, node⟩ : NodeDeployment))).lookup k =
      (entries.lookup k).map fun node => ⟨k, node⟩ := by
  induction entries with
  | nil => rfl
  | cons entry rest ih =>
    obtain ⟨nodeName, node⟩ := entry
    by_cases hk : k = nodeName
    · subst hk
      simp
    · simp [List.lookup_cons, beq_false_of_ne hk, ih]

/-- On the node map `NewDeployment` builds from `Config.Nodes`, with sorted keys that are
keys of `Config.Nodes`, `Deploy` never dereferences `nil`: every error it returns was
returned by an upload, a taint, an image pull or a `utils.RunCommand` call it logged, or by
`ApplyTemplate` on one of `Config.Commands`. -/
theorem deploy_error_source (env : Env) (st : DeployState)
    (hnodes : d.nodes = st.config.config.nodes.entries.map
      fun (nodeName, node) => (nodeName, ⟨nodeName, node⟩))
    (hkeys : ∀ k ∈ env.getSortedNodeKeys st.config.config,
      st.config.config.nodes.get? k ≠ none)
    {e : Error} (h : (d.deploy env st).1 = some e) :
    (∃ c, .call c (some e) ∈ (d.deploy env st).2.log) ∨
      ∃ ic, ic.config = st.config.config ∧ ∃ command ∈ st.config.config.commands,
        env.applyTemplate ic command.name command.command = .error e := by
  have hlookup : ∀ k ∈ env.getSortedNodeKeys st.config.config, d.nodes.lookup k ≠ none := by
    intro k hk
    simpa [hnodes, lookup_nodeDeployments, NodeTable.get?] using hkeys k hk
  obtain ⟨-, -, hconfig₁, -, -, -⟩ := d.uploadFiles_spec env.oracle
    (env.getSortedNodeKeys st.config.config) st
  unfold deploy at h ⊢
  split at h
  · rename_i e' st₁ hr
    cases h
    have := d.uploadFiles_error env.oracle _ st hlookup (by rw [hr])
    rw [hr] at this
    exact .inl this
  · rename_i st₁ hr
    rw [hr] at hconfig₁
    simp only at hconfig₁
    rcases d.setup_error env st₁ (by rw [hconfig₁]; exact hlookup) h with h | ⟨ic, hic, hr'⟩
    · exact .inl h
    · exact .inr ⟨ic, hic.trans hconfig₁, by rwa [hconfig₁] at hr'⟩

/-- The witness of `deploy_error_source`: on the sample nodes, with every
`utils.RunCommand` failing, `Deploy` returns the bootstrapper command's error. -/
theorem deploy_error_source_sample :
    (sampleDeployment [bootstrapCommand] 1).nodes =
      (sampleState [bootstrapCommand]).config.config.nodes.entries.map
        (fun (nodeName, node) => (nodeName, ⟨nodeName, node⟩)) ∧
    (∀ k ∈ (sampleEnv commandsFail).getSortedNodeKeys
        (sampleState [bootstrapCommand]).config.config,
      (sampleState [bootstrapCommand]).config.config.nodes.get? k ≠ none) ∧
    ((sampleDeployment [bootstrapCommand] 1).deploy (sampleEnv commandsFail)
        (sampleState [bootstrapCommand])).1 = some ⟨"exit status 1"⟩ ∧
    ((∃ c, .call c (some ⟨"exit status 1"⟩) ∈
        ((sampleDeployment [bootstrapCommand] 1).deploy (sampleEnv commandsFail)
          (sampleState [bootstrapCommand])).2.log) ∨
      ∃ ic, ic.config = (sampleState [bootstrapCommand]).config.config ∧
        ∃ command ∈ (sampleState [bootstrapCommand]).config.config.commands,
          (sampleEnv commandsFail).applyTemplate ic command.name command.command =
            .error ⟨"exit status 1"⟩) :=
  ⟨rfl, by decide, by decide, deploy_error_source (sampleDeployment [bootstrapCommand] 1)
    (sampleEnv commandsFail) (sampleState [bootstrapCommand]) rfl (by decide) (by decide)⟩

end Deployment

end K8sTew
