import K8sTew.Deployment.Deploy
set_option autoImplicit false

/-!
# Deployment: what `setup` and `Deploy` do

The spec lemmas of the phases, composed: the log of a deployment is the uploads, then the
taints, then the pulls, then the bootstrapper commands, each part making only its own
phase's calls; a `nil` result says every intended action of every phase succeeded, as
long as the retry budget allows an attempt; and the progress steps `setup` reports.
-/

namespace K8sTew

namespace Deployment

variable (d : Deployment) (env : Env)

/-- The parts of `setup`'s log, one per phase. -/
theorem setup_spec (st : DeployState) :
    ∃ taints pulls runs, (d.setup env st).2.log = st.log ++ taints ++ pulls ++ runs ∧
      (∀ c ∈ calls taints, ∃ k ∈ env.getSortedNodeKeys st.config.config,
        c = .configureTaint k) ∧
      (∀ c ∈ calls pulls, ∃ k ∈ env.getSortedNodeKeys st.config.config,
        ∃ image ∈ d.images, env.hasFeatures image.features d.skipSetupFeatures = false ∧
          c = .pullImage k image.name) ∧
      (∀ c ∈ calls runs, ∃ command ∈ st.config.config.commands,
        env.hasLabels command.labels [nodeBootstrapper] = true ∧
        env.hasFeatures command.features d.skipSetupFeatures = false ∧
        ∃ ic rendered, ic.config = st.config.config ∧
          env.applyTemplate ic command.name command.command = .ok rendered ∧
          c = .runCommand rendered) ∧
      (d.pullImages = false → pulls = []) ∧
      ((d.setup env st).1 = none → d.skipSetup = false →
        progressSteps taints = (env.getSortedNodeKeys st.config.config).length ∧
        progressSteps pulls = (if d.pullImages then
          (env.getSortedNodeKeys st.config.config).length * d.images.length else 0) ∧
        progressSteps runs = st.config.config.commands.length ∧
        (0 < d.commandRetries → ∀ k ∈ env.getSortedNodeKeys st.config.config,
          .call (.configureTaint k) none ∈ taints) ∧
        (d.pullImages = true → ∀ k ∈ env.getSortedNodeKeys st.config.config,
          ∀ image ∈ d.images, env.hasFeatures image.features d.skipSetupFeatures = false →
            .call (.pullImage k image.name) none ∈ pulls) ∧
        (0 < d.commandRetries → ∀ command ∈ st.config.config.commands,
          env.hasLabels command.labels [nodeBootstrapper] = true →
          env.hasFeatures command.features d.skipSetupFeatures = false →
          ∃ ic rendered, ic.config = st.config.config ∧
            env.applyTemplate ic command.name command.command = .ok rendered ∧
            .call (.runCommand rendered) none ∈ runs)) := by
  unfold setup
  cases hskip : d.skipSetup
  · obtain ⟨ts, hts, hconfig₁, hcalls₁, hok₁⟩ := d.configureTaints_spec env.oracle
      (env.getSortedNodeKeys st.config.config) none st
    simp only [Bool.false_eq_true, if_false]
    unfold runConfigureTaints
    split
    · rename_i e st₁ hr
      rw [hr] at hts hok₁
      exact ⟨ts, [], [], by simpa using hts, hcalls₁, by simp, by simp, fun _ => rfl, by simp⟩
    · rename_i st₁ hr
      rw [hr] at hts hconfig₁ hok₁
      simp only at hts hconfig₁ hok₁
      obtain ⟨hsteps₁, htaints⟩ := hok₁ trivial
      obtain ⟨ps, hps, hconfig₂, hcalls₂, hnopull, hok₂⟩ := d.runPullImages_spec env st₁
      rw [hconfig₁] at hcalls₂ hok₂
      split
      · rename_i e st₂ hr₂
        rw [hr₂] at hps hok₂
        simp only at hps
        exact ⟨ts, ps, [], by simp [hps, hts], hcalls₁, hcalls₂, by simp, hnopull, by simp⟩
      · rename_i st₂ hr₂
        rw [hr₂] at hps hconfig₂ hok₂
        simp only at hps hconfig₂ hok₂
        obtain ⟨hsteps₂, hpulled⟩ := hok₂ trivial
        obtain ⟨rs, hrs, -, hcalls₃, hok₃⟩ := d.bootstrapperCommands_spec env
          st₂.config.config.commands st₂
        have hconfig : st₂.config.config = st.config.config := hconfig₂.trans hconfig₁
        refine ⟨ts, ps, rs, by simp [runBoostrapperCommands, hrs, hps, hts], hcalls₁, hcalls₂,
          fun c hc => ?_, hnopull, fun h _ => ?_⟩
        · obtain ⟨command, hmem, hl, hf, rendered, hrender, rfl⟩ := hcalls₃ c hc
          exact ⟨command, hconfig ▸ hmem, hl, hf, st₂.config, rendered, hconfig, hrender,
            rfl⟩
        · obtain ⟨hsteps₃, hran⟩ := hok₃ h
          refine ⟨hsteps₁, hsteps₂, hconfig ▸ hsteps₃, htaints, hpulled,
            fun hpos command hmem hl hf => ?_⟩
          obtain ⟨rendered, hrender, hcall⟩ := hran hpos command (hconfig ▸ hmem) hl hf
          exact ⟨st₂.config, rendered, hconfig, hrender, hcall⟩
  · exact ⟨[], [], [], by simp, by simp, by simp, by simp, fun _ => rfl, by simp⟩

/-- A `setup` that returns `nil` reports a progress step per node key for the taints, one
per node key and image for the pulls, and one per command for the bootstrapper commands. -/
theorem setup_progressSteps (st : DeployState) (hskip : d.skipSetup = false)
    (hok : (d.setup env st).1 = none) :
    progressSteps (d.setup env st).2.log = progressSteps st.log +
      (env.getSortedNodeKeys st.config.config).length +
      (if d.pullImages then (env.getSortedNodeKeys st.config.config).length * d.images.length
        else 0) +
      st.config.config.commands.length := by
  obtain ⟨taints, pulls, runs, hlog, -, -, -, -, hok'⟩ := d.setup_spec env st
  obtain ⟨htaints, hpulls, hruns, -⟩ := hok' hok hskip
  simp only [hlog, progressSteps_append, htaints, hpulls, hruns]

/-- `Deploy`'s log is the uploads, then the taints, the pulls and the bootstrapper
commands, each part making only its own phase's calls.  With an attempt allowed, a `nil`
result says that every upload succeeded and, unless `skipSetup`, every taint, every pull
of an image no skipped feature covers, and the `utils.RunCommand` of the rendered form of
every bootstrapper command no skipped feature covers. -/
theorem deploy_spec (st : DeployState) :
    ∃ uploads taints pulls runs,
      (d.deploy env st).2.log = st.log ++ uploads ++ taints ++ pulls ++ runs ∧
      (∀ c ∈ calls uploads, ∃ k ∈ env.getSortedNodeKeys st.config.config,
        c = .uploadFiles k d.forceUpload) ∧
      (∀ c ∈ calls taints, ∃ k ∈ env.getSortedNodeKeys st.config.config,
        c = .configureTaint k) ∧
      (∀ c ∈ calls pulls, ∃ k ∈ env.getSortedNodeKeys st.config.config,
        ∃ image ∈ d.images, env.hasFeatures image.features d.skipSetupFeatures = false ∧
          c = .pullImage k image.name) ∧
      (∀ c ∈ calls runs, ∃ command ∈ st.config.config.commands,
        env.hasLabels command.labels [nodeBootstrapper] = true ∧
        env.hasFeatures command.features d.skipSetupFeatures = false ∧
        ∃ ic rendered, ic.config = st.config.config ∧
          env.applyTemplate ic command.name command.command = .ok rendered ∧
          c = .runCommand rendered) ∧
      (d.skipSetup = true → taints = [] ∧ pulls = [] ∧ runs = []) ∧
      (d.pullImages = false → pulls = []) ∧
      ((d.deploy env st).1 = none → 0 < d.commandRetries →
        (∀ k ∈ env.getSortedNodeKeys st.config.config,
          .call (.uploadFiles k d.forceUpload) none ∈ uploads) ∧
        (d.skipSetup = false →
          (∀ k ∈ env.getSortedNodeKeys st.config.config,
            .call (.configureTaint k) none ∈ taints) ∧
          (d.pullImages = true → ∀ k ∈ env.getSortedNodeKeys st.config.config,
            ∀ image ∈ d.images, env.hasFeatures image.features d.skipSetupFeatures = false →
              .call (.pullImage k image.name) none ∈ pulls) ∧
          (∀ command ∈ st.config.config.commands,
            env.hasLabels command.labels [nodeBootstrapper] = true →
            env.hasFeatures command.features d.skipSetupFeatures = false →
            ∃ ic rendered, ic.config = st.config.config ∧
              env.applyTemplate ic command.name command.command = .ok rendered ∧
              .call (.runCommand rendered) none ∈ runs))) := by
  obtain ⟨us, hus, hconfig, -, hcalls, hok⟩ := d.uploadFiles_spec env.oracle
    (env.getSortedNodeKeys st.config.config) st
  unfold deploy
  split
  · rename_i e st₁ hr
    rw [hr] at hus
    exact ⟨us, [], [], [], by simpa using hus, hcalls, by simp, by simp, by simp, by simp,
      fun _ => rfl, by simp⟩
  · rename_i st₁ hr
    rw [hr] at hus hconfig hok
    simp only at hus hconfig hok
    obtain ⟨taints, pulls, runs, hlog, htaints, hpulls, hruns, hnopull, hok'⟩ :=
      d.setup_spec env st₁
    rw [hconfig] at htaints hpulls hruns hok'
    refine ⟨us, taints, pulls, runs, by simp [hlog, hus], hcalls, htaints, hpulls, hruns,
      fun h => ?_, hnopull, fun h hpos => ⟨hok trivial, fun hskip => ?_⟩⟩
    · simpa [setup, h] using hlog
    · obtain ⟨-, -, -, htaint, hpull, hrun⟩ := hok' h hskip
      exact ⟨htaint hpos, hpull, hrun hpos⟩

/-! ## Sample deployments -/

/-- The deployment of `sampleConfig [] commands`: no image table, no pulls, no skipped
setup or feature, and a budget of `commandRetries` attempts. -/
def sampleDeployment (commands : List Command) (commandRetries : Nat) : Deployment :=
  newDeployment (sampleConfig [] commands) [] false false commandRetries false false false false
    false false false false

/-- The state `Deploy` starts from on `sampleConfig [] commands`. -/
def sampleState (commands : List Command) : DeployState := ⟨sampleConfig [] commands, []⟩

/-- A bootstrapper command. -/
def bootstrapCommand : Command :=
  { name := "calico", command := "kubectl apply -f calico.yaml", labels := [nodeBootstrapper],
    os := [], features := [] }

/-- The witness of `setup_progressSteps`: three nodes and one command, all succeeding. -/
theorem setup_progressSteps_sample :
    (sampleDeployment [sampleCommand] 1).skipSetup = false ∧
    ((sampleDeployment [sampleCommand] 1).setup (sampleEnv allSucceed)
        (sampleState [sampleCommand])).1 = none ∧
    progressSteps ((sampleDeployment [sampleCommand] 1).setup (sampleEnv allSucceed)
        (sampleState [sampleCommand])).2.log = progressSteps (sampleState [sampleCommand]).log +
      ((sampleEnv allSucceed).getSortedNodeKeys
        (sampleState [sampleCommand]).config.config).length +
      (if (sampleDeployment [sampleCommand] 1).pullImages then
        ((sampleEnv allSucceed).getSortedNodeKeys
          (sampleState [sampleCommand]).config.config).length *
          (sampleDeployment [sampleCommand] 1).images.length else 0) +
      (sampleState [sampleCommand]).config.config.commands.length :=
  ⟨rfl, by decide, setup_progressSteps _ _ _ rfl (by decide)⟩

/-- Three nodes and one command, all succeeding: `setup` reports four progress steps, a
taint per node and one for the command, while `Steps` counts, beyond the three node
deployments of one step each, six for it: a command per node. -/
theorem setup_progressSteps_three_nodes :
    ((sampleDeployment [sampleCommand] 1).setup (sampleEnv allSucceed)
        (sampleState [sampleCommand])).1 = none ∧
    progressSteps ((sampleDeployment [sampleCommand] 1).setup (sampleEnv allSucceed)
        (sampleState [sampleCommand])).2.log = 4 ∧
    (sampleDeployment [sampleCommand] 1).steps (sampleEnv allSucceed)
        (sampleConfig [] [sampleCommand]) = 3 + 6 := by
  decide

/-- With a budget of no attempt, `Deploy` uploads the files and returns `nil` without
configuring a taint or running the bootstrapper command. -/
theorem deploy_without_attempts :
    ((sampleDeployment [bootstrapCommand] 0).deploy (sampleEnv allSucceed)
        (sampleState [bootstrapCommand])).1 = none ∧
    calls ((sampleDeployment [bootstrapCommand] 0).deploy (sampleEnv allSucceed)
        (sampleState [bootstrapCommand])).2.log =
      [.uploadFiles "controller00" false, .uploadFiles "controller01" false,
        .uploadFiles "worker00" false] := by
  decide

/-- A command that fails whenever it runs is attempted exactly `commandRetries` times, each
failure logged at debug level and followed by a one-second sleep; `runCommand` then logs
the failure and returns the last attempt's error.  With no attempt allowed it returns
`nil`, having run nothing. -/
theorem runCommand_of_always_fails (o : Oracle) (command : String) (log : List Event)
    (hfail : ∀ log, o log (.runCommand command) ≠ none) :
    ∃ fails : List Error, fails.length = d.commandRetries ∧
      (d.runCommand o command log).1 = fails.getLast? ∧
      (d.runCommand o command log).2 = log ++ .log .info "Executing command" ::
        fails.flatMap (fun e =>
          [.call (.runCommand command) (some e), .log .debug "Command failed", .sleep]) ++
        (if fails = [] then [] else [.log .error "Command failed"]) := by
  obtain ⟨fails, hlen, heq⟩ := retryLoop_of_fails o (.runCommand command)
    [.log .debug "Command failed"] hfail d.commandRetries none
    (log ++ [.log .info "Executing command"])
  have hattempt : failedAttempt (.runCommand command) [.log .debug "Command failed"] =
      fun e => [.call (.runCommand command) (some e), .log .debug "Command failed", .sleep] :=
    rfl
  refine ⟨fails, hlen, ?_⟩
  unfold runCommand
  rw [heq, lastError_none, hattempt]
  cases hlast : fails.getLast? with
  | none =>
    rw [List.getLast?_eq_none_iff] at hlast
    simp [hlast]
  | some e =>
    have hne : fails ≠ [] := fun h => by simp [h] at hlast
    simp [hne]

/-- The witness of `runCommand_of_always_fails`: a budget of two attempts, both failing. -/
theorem runCommand_of_always_fails_sample :
    (∀ log, commandsFail log (.runCommand "kubeadm init") ≠ none) ∧
    ∃ fails : List Error, fails.length = (sampleDeployment [] 2).commandRetries ∧
      ((sampleDeployment [] 2).runCommand commandsFail "kubeadm init" []).1 = fails.getLast? ∧
      ((sampleDeployment [] 2).runCommand commandsFail "kubeadm init" []).2 =
        [] ++ .log .info "Executing command" :: fails.flatMap (fun e =>
          [.call (.runCommand "kubeadm init") (some e), .log .debug "Command failed", .sleep]) ++
        (if fails = [] then [] else [.log .error "Command failed"]) :=
  ⟨fun _ => by simp [commandsFail], runCommand_of_always_fails (sampleDeployment [] 2)
    commandsFail "kubeadm init" [] fun _ => by simp [commandsFail]⟩

/-! ## The image table -/

/-- Every image of `NewDeployment`'s table that carries a feature carries the storage
feature; the others are the pause, Calico, CoreDNS and dashboard images. -/
theorem newDeploymentImages_storage (v : Versions) :
    ∀ image ∈ newDeploymentImages v, featureStorage ∈ image.features ∨
      image.name ∈ [v.pause, v.calicoCNI, v.calicoNode, v.calicoTypha, v.coreDNS,
        v.kubernetesDashboard] := by
  intro image h
  simp only [newDeploymentImages, List.mem_cons, List.not_mem_nil, or_false] at h
  repeat' rcases h with rfl | h
  all_goals simp

/-- Every image `Deploy` pulls is one of `deployment.images` that no skipped feature
covers. -/
theorem deploy_pullImage (st : DeployState) :
    ∃ es, (d.deploy env st).2.log = st.log ++ es ∧
      ∀ k name, .pullImage k name ∈ calls es → ∃ image ∈ d.images,
        env.hasFeatures image.features d.skipSetupFeatures = false ∧ image.name = name := by
  obtain ⟨us, hus, hconfig, -, hucalls, -⟩ :=
    d.uploadFiles_spec env.oracle (env.getSortedNodeKeys st.config.config) st
  have hupload : ∀ k name, .pullImage k name ∉ calls us := fun k name h => by
    obtain ⟨_, -, h⟩ := hucalls _ h
    cases h
  unfold deploy
  split
  · rename_i e st₁ hr
    rw [hr] at hus
    exact ⟨us, hus, fun k name h => absurd h (hupload k name)⟩
  · rename_i st₁ hr
    rw [hr] at hus
    obtain ⟨taints, pulls, runs, hlog, htaints, hpulls, hruns, -⟩ := d.setup_spec env st₁
    simp only at hus
    refine ⟨us ++ taints ++ pulls ++ runs, by simp [hlog, hus], fun k name h => ?_⟩
    simp only [calls_append, List.mem_append] at h
    rcases h with ((h | h) | h) | h
    · exact absurd h (hupload k name)
    · obtain ⟨_, -, h⟩ := htaints _ h
      cases h
    · obtain ⟨_, -, image, himage, hskip, h⟩ := hpulls _ h
      cases h
      exact ⟨image, himage, hskip, rfl⟩
    · obtain ⟨_, -, -, -, _, _, -, -, h⟩ := hruns _ h
      cases h

/-- With `skipStorageSetup`, whatever else is skipped and whatever the calls return, the
only images `Deploy` pulls are the six of the table that carry no feature: every other
image is tagged storage, so the monitoring, logging, backup, showcase and ingress images
are skipped with it.  `HasFeatures` is only assumed to find a feature both lists hold. -/
theorem deploy_pulls_base_images_of_skip_storage
    (hstorage : ∀ features skipped : Features, featureStorage ∈ features →
      featureStorage ∈ skipped → env.hasFeatures features skipped = true)
    (config : InternalConfig) (v : Versions) (pullImages forceUpload : Bool)
    (commandRetries : Nat) (skipSetup skipMonitoringSetup skipLoggingSetup skipBackupSetup
      skipShowcaseSetup skipIngressSetup skipPackagingSetup : Bool) (st : DeployState) :
    ∃ es, ((newDeployment config (newDeploymentImages v) pullImages forceUpload commandRetries
        skipSetup true skipMonitoringSetup skipLoggingSetup skipBackupSetup skipShowcaseSetup
        skipIngressSetup skipPackagingSetup).deploy env st).2.log = st.log ++ es ∧
      ∀ k name, .pullImage k name ∈ calls es →
        name ∈ [v.pause, v.calicoCNI, v.calicoNode, v.calicoTypha, v.coreDNS,
          v.kubernetesDashboard] := by
  obtain ⟨es, hes, hpulls⟩ := deploy_pullImage (newDeployment config (newDeploymentImages v)
    pullImages forceUpload commandRetries skipSetup true skipMonitoringSetup skipLoggingSetup
    skipBackupSetup skipShowcaseSetup skipIngressSetup skipPackagingSetup) env st
  refine ⟨es, hes, fun k name h => ?_⟩
  obtain ⟨image, himage, hskip, rfl⟩ := hpulls k name h
  rcases newDeploymentImages_storage v image himage with hfeature | hbase
  · rw [hstorage _ _ hfeature (by simp [newDeployment])] at hskip
    cases hskip
  · exact hbase

/-- Sample versions: each image named after its component. -/
def sampleVersions : Versions :=
  ⟨"pause", "calico-cni", "calico-node", "calico-typha", "coredns", "minio-server",
    "minio-client", "ark", "ceph", "csi-attacher", "csi-provisioner", "csi-driver-registrar",
    "csi-rbdplugin", "csi-cephfsplugin", "rbd-provisioner", "fluent-bit", "elasticsearch",
    "elasticsearch-cron", "elasticsearch-operator", "kibana", "cerebro", "heapster",
    "addon-resizer", "metrics-server", "kubernetes-dashboard", "prometheus-operator",
    "prometheus-config-reloader", "configmap-reload", "kube-state-metrics", "grafana",
    "grafana-watcher", "prometheus", "node-exporter", "alertmanager", "cert-manager",
    "default-backend", "nginx-ingress-controller", "mysql", "wordpress"⟩

/-- The witness of `deploy_pulls_base_images_of_skip_storage`: the sample cluster with
image pulls on and only storage skipped. -/
theorem deploy_pulls_base_images_of_skip_storage_sample :
    (∀ features skipped : Features, featureStorage ∈ features → featureStorage ∈ skipped →
      (sampleEnv allSucceed).hasFeatures features skipped = true) ∧
    ∃ es, ((newDeployment (sampleConfig [] []) (newDeploymentImages sampleVersions) true false 1
        false true false false false false false false).deploy (sampleEnv allSucceed)
        (sampleState [])).2.log = (sampleState []).log ++ es ∧
      ∀ k name, .pullImage k name ∈ calls es →
        name ∈ [sampleVersions.pause, sampleVersions.calicoCNI, sampleVersions.calicoNode,
          sampleVersions.calicoTypha, sampleVersions.coreDNS,
          sampleVersions.kubernetesDashboard] :=
  ⟨fun features skipped h₁ h₂ => by simpa [sampleEnv] using ⟨featureStorage, h₁, h₂⟩,
    deploy_pulls_base_images_of_skip_storage (sampleEnv allSucceed)
      (fun features skipped h₁ h₂ => by simpa [sampleEnv] using ⟨featureStorage, h₁, h₂⟩)
      (sampleConfig [] []) sampleVersions true false 1 false false false false false false false
      (sampleState [])⟩

end Deployment

end K8sTew
