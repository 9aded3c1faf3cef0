import K8sTew.Retry
set_option autoImplicit false

/-!
# Deployment: uploading the files and setting the cluster up

`Deployment.Deploy` uploads the files to every node in sorted order and then runs
`setup`: the taints of every node, the image pulls of every node, and the bootstrapper
commands.  Each phase stops at its first error and returns it; `setup` is skipped as a
whole under `skipSetup`.

The `*config.InternalConfig` the deployment points to is mutated by `SetNode` as the
loops walk the nodes, and `ApplyTemplate` reads it, so it is part of the state a phase
threads (`DeployState`), together with the log.  `deployment.nodes` is a Go map built by
`NewDeployment` from `Config.Nodes`; a key it does not hold dereferences `nil`, which
is the error `nilDereference` here.
-/

namespace K8sTew

/-- `deployment.Image`. -/
structure Image where
  name : String
  features : Features
  deriving DecidableEq, Repr

/-- `NodeDeployment`: the node `Deploy` hands to `SetNode`.  Its actions are calls keyed by
the node's name. -/
structure NodeDeployment where
  nodeName : String
  node : Node
  deriving DecidableEq, Repr

/-- `deployment.Deployment`: the fields the modelled functions read. -/
structure Deployment where
  skipSetup : Bool
  skipSetupFeatures : Features
  pullImages : Bool
  forceUpload : Bool
  commandRetries : Nat
  nodes : List (String × NodeDeployment)
  images : List Image

/-- The state a deployment threads: the configuration `deployment.config` points to, and
the log. -/
structure DeployState where
  config : InternalConfig
  log : List Event

/-! ## Construction -/

/-- `utils.FEATURE_STORAGE`. -/
def featureStorage : String := "storage"

/-- `utils.FEATURE_MONITORING`. -/
def featureMonitoring : String := "monitoring"

/-- `utils.FEATURE_LOGGING`. -/
def featureLogging : String := "logging"

/-- `utils.FEATURE_BACKUP`. -/
def featureBackup : String := "backup"

/-- `utils.FEATURE_SHOWCASE`. -/
def featureShowcase : String := "showcase"

/-- `utils.FEATURE_INGRESS`. -/
def featureIngress : String := "ingress"

/-- `utils.FEATURE_PACKAGING`. -/
def featurePackaging : String := "packaging"

/-- `NewDeployment(...)`.  `images` is the image table it builds from `Config.Versions`,
`newDeploymentImages` below. -/
def newDeployment (config : InternalConfig) (images : List Image) (pullImages forceUpload : Bool)
    (commandRetries : Nat) (skipSetup skipStorageSetup skipMonitoringSetup skipLoggingSetup
      skipBackupSetup skipShowcaseSetup skipIngressSetup skipPackagingSetup : Bool) :
    Deployment where
  skipSetup := skipSetup
  skipSetupFeatures :=
    (if skipStorageSetup then [featureStorage] else []) ++
    (if skipMonitoringSetup then [featureMonitoring] else []) ++
    (if skipLoggingSetup then [featureLogging] else []) ++
    (if skipBackupSetup then [featureBackup] else []) ++
    (if skipShowcaseSetup then [featureShowcase] else []) ++
    (if skipIngressSetup then [featureIngress] else []) ++
    (if skipPackagingSetup then [featurePackaging] else [])
  pullImages := pullImages
  forceUpload := forceUpload
  commandRetries := commandRetries
  nodes := config.config.nodes.entries.map fun (nodeName, node) => (nodeName, ⟨nodeName, node⟩)
  images := images

/-- The fields of `Config.Versions` that `NewDeployment` reads: the image of each
component. -/
structure Versions where
  pause : String
  calicoCNI : String
  calicoNode : String
  calicoTypha : String
  coreDNS : String
  minioServer : String
  minioClient : String
  ark : String
  ceph : String
  csiAttacher : String
  csiProvisioner : String
  csiDriverRegistrar : String
  csiCephRBDPlugin : String
  csiCephFSPlugin : String
  rbdProvisioner : String
  fluentBit : String
  elasticsearch : String
  elasticsearchCron : String
  elasticsearchOperator : String
  kibana : String
  cerebro : String
  heapster : String
  addonResizer : String
  metricsServer : String
  kubernetesDashboard : String
  prometheusOperator : String
  prometheusConfigReloader : String
  configMapReload : String
  kubeStateMetrics : String
  grafana : String
  grafanaWatcher : String
  prometheus : String
  prometheusNodeExporter : String
  prometheusAlertManager : String
  certManagerController : String
  nginxIngressDefaultBackend : String
  nginxIngressController : String
  mySQL : String
  wordPress : String

/-- The image table `NewDeployment` assigns to `deployment.images`, each image with the
features that skip it. -/
def newDeploymentImages (v : Versions) : List Image :=
  [⟨v.pause, []⟩, ⟨v.calicoCNI, []⟩, ⟨v.calicoNode, []⟩, ⟨v.calicoTypha, []⟩, ⟨v.coreDNS, []⟩,
    ⟨v.minioServer, [featureBackup, featureStorage]⟩,
    ⟨v.minioClient, [featureBackup, featureStorage]⟩,
    ⟨v.ark, [featureBackup, featureStorage]⟩,
    ⟨v.ceph, [featureStorage]⟩,
    ⟨v.csiAttacher, [featureStorage]⟩,
    ⟨v.csiProvisioner, [featureStorage]⟩,
    ⟨v.csiDriverRegistrar, [featureStorage]⟩,
    ⟨v.csiCephRBDPlugin, [featureStorage]⟩,
    ⟨v.csiCephFSPlugin, [featureStorage]⟩,
    ⟨v.rbdProvisioner, [featureStorage]⟩,
    ⟨v.fluentBit, [featureLogging, featureStorage]⟩,
    ⟨v.elasticsearch, [featureLogging, featureStorage]⟩,
    ⟨v.elasticsearchCron, [featureLogging, featureStorage]⟩,
    ⟨v.elasticsearchOperator, [featureLogging, featureStorage]⟩,
    ⟨v.kibana, [featureLogging, featureStorage]⟩,
    ⟨v.cerebro, [featureLogging, featureStorage]⟩,
    ⟨v.heapster, [featureMonitoring, featureStorage]⟩,
    ⟨v.addonResizer, [featureMonitoring, featureStorage]⟩,
    ⟨v.metricsServer, [featureMonitoring, featureStorage]⟩,
    ⟨v.kubernetesDashboard, []⟩,
    ⟨v.prometheusOperator, [featureMonitoring, featureStorage]⟩,
    ⟨v.prometheusConfigReloader, [featureMonitoring, featureStorage]⟩,
    ⟨v.configMapReload, [featureMonitoring, featureStorage]⟩,
    ⟨v.kubeStateMetrics, [featureMonitoring, featureStorage]⟩,
    ⟨v.grafana, [featureMonitoring, featureStorage]⟩,
    ⟨v.grafanaWatcher, [featureMonitoring, featureStorage]⟩,
    ⟨v.prometheus, [featureMonitoring, featureStorage]⟩,
    ⟨v.prometheusNodeExporter, [featureMonitoring, featureStorage]⟩,
    ⟨v.prometheusAlertManager, [featureMonitoring, featureStorage]⟩,
    ⟨v.certManagerController, [featureIngress, featureStorage]⟩,
    ⟨v.nginxIngressDefaultBackend, [featureIngress, featureStorage]⟩,
    ⟨v.nginxIngressController, [featureIngress, featureStorage]⟩,
    ⟨v.mySQL, [featureShowcase, featureStorage]⟩,
    ⟨v.wordPress, [featureShowcase, featureStorage]⟩]

namespace Deployment

/-- `deployment.Steps()`: the steps of every node deployment, and unless `skipSetup` a
taint per node, a pull per node and image, and a command per node and command. -/
def steps (d : Deployment) (env : Env) (config : InternalConfig) : Nat :=
  let result := d.nodes.foldl (fun result (nodeName, _) => result + env.nodeSteps nodeName) 0
  if d.skipSetup then result
  else
    let result := result + config.config.nodes.size
    let result :=
      if d.pullImages then result + config.config.nodes.size * d.images.length else result
    result + config.config.nodes.size * config.config.commands.length

/-- `deployment.config.SetNode(nodeName, nodeDeployment.node)`, with `nodeName` the key
of the loop. -/
def setNode (st : DeployState) (nodeName : String) (nodeDeployment : NodeDeployment) :
    DeployState :=
  { config := st.config.setNode nodeName nodeDeployment.node,
    log := st.log ++ [.setNode nodeName] }

/-! ## Uploads -/

/-- The loop of `Deploy` over the sorted node keys. -/
def uploadFiles (d : Deployment) (o : Oracle) :
    List String → DeployState → Option Error × DeployState
  | [], st => (none, st)
  | nodeName :: rest, st =>
    match d.nodes.lookup nodeName with
    | none => (some nilDereference, st)
    | some nodeDeployment =>
      let st := setNode st nodeName nodeDeployment
      match o st.log (.uploadFiles nodeName d.forceUpload) with
      | some e =>
        (some e,
          { st with log := st.log ++ [.call (.uploadFiles nodeName d.forceUpload) (some e)] })
      | none =>
        uploadFiles d o rest
          { st with log := st.log ++ [.call (.uploadFiles nodeName d.forceUpload) none] }

/-! ## Setup -/

/-- `deployment.runCommand(name, command)`. -/
def runCommand (d : Deployment) (o : Oracle) (command : String) (log : List Event) :
    Option Error × List Event :=
  match retryLoop o (.runCommand command) [.log .debug "Command failed"] d.commandRetries none
      (log ++ [.log .info "Executing command"]) with
  | (some e, log) => (some e, log ++ [.log .error "Command failed"])
  | (none, log) => (none, log)

/-- The loop of `runConfigureTaints` over the sorted node keys; `error` is `_error`, which
all nodes share. -/
def configureTaints (d : Deployment) (o : Oracle) :
    List String → Option Error → DeployState → Option Error × DeployState
  | [], _, st => (none, st)
  | nodeName :: rest, error, st =>
    match d.nodes.lookup nodeName with
    | none => (some nilDereference, st)
    | some nodeDeployment =>
      let st := setNode st nodeName nodeDeployment
      match retryLoop o (.configureTaint nodeName) [] d.commandRetries error
          (st.log ++ [.log .info "Configuring taint"]) with
      | (some e, log) =>
        (some e, { st with log := log ++ [.increaseProgressStep, .log .error "Taint node failed"] })
      | (none, log) =>
        configureTaints d o rest none { st with log := log ++ [.increaseProgressStep] }

/-- `deployment.runConfigureTaints()`. -/
def runConfigureTaints (d : Deployment) (env : Env) (st : DeployState) :
    Option Error × DeployState :=
  d.configureTaints env.oracle (env.getSortedNodeKeys st.config.config) none st

/-- One task of `runPullImages`: pull `image` on the node unless a skipped feature covers
it; the deferred progress step follows either way. -/
def pullImageTask (d : Deployment) (env : Env) (nodeName : String) (image : Image)
    (log : List Event) : Option Error × List Event :=
  if env.hasFeatures image.features d.skipSetupFeatures then (none, log ++ [.increaseProgressStep])
  else
    match env.oracle log (.pullImage nodeName image.name) with
    | some e =>
      (some e, log ++ [.call (.pullImage nodeName image.name) (some e), .increaseProgressStep])
    | none => (none, log ++ [.call (.pullImage nodeName image.name) none, .increaseProgressStep])

/-- `utils.RunParallelTasks(tasks, parallel)`, which is not in the sources, as
`runPullImages` relies on it: every task runs, and the errors of the failed ones are
returned, in task order. -/
def runParallelTasks :
    List (List Event → Option Error × List Event) → List Event → List Error × List Event
  | [], log => ([], log)
  | task :: tasks, log =>
    let first := task log
    let others := runParallelTasks tasks first.2
    (first.1.toList ++ others.1, others.2)

/-- The loop of `runPullImages` over the sorted node keys. -/
def pullNodeImages (d : Deployment) (env : Env) :
    List String → DeployState → Option Error × DeployState
  | [], st => (none, st)
  | nodeName :: rest, st =>
    match d.nodes.lookup nodeName with
    | none => (some nilDereference, st)
    | some nodeDeployment =>
      let st := setNode st nodeName nodeDeployment
      match runParallelTasks (d.images.map (d.pullImageTask env nodeName)) st.log with
      | (e :: _, log) => (some e, { st with log := log })
      | ([], log) => pullNodeImages d env rest { st with log := log }

/-- `deployment.runPullImages()`. -/
def runPullImages (d : Deployment) (env : Env) (st : DeployState) : Option Error × DeployState :=
  if !d.pullImages then (none, st)
  else d.pullNodeImages env (env.getSortedNodeKeys st.config.config) st

/-- The loop of `runBoostrapperCommands` over `Config.Commands`. -/
def bootstrapperCommands (d : Deployment) (env : Env) :
    List Command → DeployState → Option Error × DeployState
  | [], st => (none, st)
  | command :: rest, st =>
    if !env.hasLabels command.labels [nodeBootstrapper] then
      bootstrapperCommands d env rest { st with log := st.log ++ [.increaseProgressStep] }
    else if env.hasFeatures command.features d.skipSetupFeatures then
      bootstrapperCommands d env rest { st with log := st.log ++ [.increaseProgressStep] }
    else
      match env.applyTemplate st.config command.name command.command with
      | .error e => (some e, st)
      | .ok newCommand =>
        match d.runCommand env.oracle newCommand st.log with
        | (some e, log) => (some e, { st with log := log })
        | (none, log) =>
          bootstrapperCommands d env rest { st with log := log ++ [.increaseProgressStep] }

/-- `deployment.runBoostrapperCommands()`. -/
def runBoostrapperCommands (d : Deployment) (env : Env) (st : DeployState) :
    Option Error × DeployState :=
  d.bootstrapperCommands env st.config.config.commands st

/-- `deployment.setup()`. -/
def setup (d : Deployment) (env : Env) (st : DeployState) : Option Error × DeployState :=
  if d.skipSetup then (none, st)
  else
    match d.runConfigureTaints env st with
    | (some e, st) => (some e, st)
    | (none, st) =>
      match d.runPullImages env st with
      | (some e, st) => (some e, st)
      | (none, st) => d.runBoostrapperCommands env st

/-- `deployment.Deploy()`. -/
def deploy (d : Deployment) (env : Env) (st : DeployState) : Option Error × DeployState :=
  match d.uploadFiles env.oracle (env.getSortedNodeKeys st.config.config) st with
  | (some e, st) => (some e, st)
  | (none, st) => d.setup env st

/-! ## What each phase does

One lemma per function: what it appends to the log, that it keeps the cluster
configuration, which calls it makes, and what a `nil` result says about them. -/

variable (d : Deployment)

@[simp] theorem setNode_log (st : DeployState) (nodeName : String)
    (nodeDeployment : NodeDeployment) :
    (setNode st nodeName nodeDeployment).log = st.log ++ [.setNode nodeName] := rfl

@[simp] theorem setNode_config (st : DeployState) (nodeName : String)
    (nodeDeployment : NodeDeployment) :
    (setNode st nodeName nodeDeployment).config.config = st.config.config := rfl

theorem runCommand_spec (o : Oracle) (command : String) (log : List Event) :
    ∃ es, (d.runCommand o command log).2 = log ++ es ∧ progressSteps es = 0 ∧
      (∀ c ∈ calls es, c = .runCommand command) ∧
      ((d.runCommand o command log).1 = none → 0 < d.commandRetries →
        .call (.runCommand command) none ∈ es) := by
  obtain ⟨es, hes, hmem, hok⟩ := retryLoop_log o (.runCommand command)
    [.log .debug "Command failed"] d.commandRetries none (log ++ [.log .info "Executing command"])
  obtain ⟨hprogress, hcalls⟩ := retryEntries_quiet (.runCommand command) _ (by simp) hmem
  unfold runCommand
  split <;> rename_i hr <;> rw [hr] at hes hok <;> simp only at hes hok ⊢ <;> subst hes
  · exact ⟨.log .info "Executing command" :: es ++ [.log .error "Command failed"], by simp,
      by simp [hprogress], by simpa [Event.call?] using hcalls, by simp⟩
  · exact ⟨.log .info "Executing command" :: es, by simp, by simp [hprogress],
      by simpa [Event.call?] using hcalls, fun _ hpos => .tail _ (hok trivial hpos)⟩

theorem uploadFiles_spec (o : Oracle) : ∀ (keys : List String) (st : DeployState),
    ∃ es, (d.uploadFiles o keys st).2.log = st.log ++ es ∧
      (d.uploadFiles o keys st).2.config.config = st.config.config ∧ progressSteps es = 0 ∧
      (∀ c ∈ calls es, ∃ k ∈ keys, c = .uploadFiles k d.forceUpload) ∧
      ((d.uploadFiles o keys st).1 = none →
        ∀ k ∈ keys, .call (.uploadFiles k d.forceUpload) none ∈ es)
  | [], st => ⟨[], by simp [uploadFiles]⟩
  | k :: rest, st => by
    unfold uploadFiles
    split
    · exact ⟨[], by simp⟩
    · rename_i nodeDeployment _
      dsimp only
      split
      · rename_i e _
        refine ⟨[.setNode k, .call (.uploadFiles k d.forceUpload) (some e)],
          by simp, rfl, by simp, ?_, by simp⟩
        simp [Event.call?]
      · obtain ⟨es, hes, hconfig, hprogress, hcalls, hok⟩ := uploadFiles_spec o rest
          ⟨(setNode st k nodeDeployment).config,
            (setNode st k nodeDeployment).log ++ [.call (.uploadFiles k d.forceUpload) none]⟩
        refine ⟨.setNode k ::
            .call (.uploadFiles k d.forceUpload) none :: es, by simpa using hes,
          by simpa using hconfig, by simp [hprogress], fun c hc => ?_, fun h k' hk' => ?_⟩
        · simp only [calls_cons, Event.call?, Option.toList, List.nil_append,
            List.singleton_append, List.mem_cons] at hc
          rcases hc with rfl | hc
          · exact ⟨k, List.mem_cons_self _ _, rfl⟩
          · obtain ⟨k', hk', rfl⟩ := hcalls c hc
            exact ⟨k', List.mem_cons_of_mem _ hk', rfl⟩
        · rcases List.mem_cons.1 hk' with rfl | hk'
          · simp
          · exact List.mem_cons_of_mem _ (List.mem_cons_of_mem _ (hok h k' hk'))

theorem configureTaints_spec (o : Oracle) :
    ∀ (keys : List String) (error : Option Error) (st : DeployState),
    ∃ es, (d.configureTaints o keys error st).2.log = st.log ++ es ∧
      (d.configureTaints o keys error st).2.config.config = st.config.config ∧
      (∀ c ∈ calls es, ∃ k ∈ keys, c = .configureTaint k) ∧
      ((d.configureTaints o keys error st).1 = none → progressSteps es = keys.length ∧
        (0 < d.commandRetries → ∀ k ∈ keys, .call (.configureTaint k) none ∈ es))
  | [], _, st => ⟨[], by simp [configureTaints]⟩
  | k :: rest, error, st => by
    unfold configureTaints
    split
    · exact ⟨[], by simp⟩
    · rename_i nodeDeployment _
      dsimp only
      obtain ⟨rs, hrs, hmem, hok⟩ := retryLoop_log o (.configureTaint k) [] d.commandRetries
        error ((setNode st k nodeDeployment).log ++ [.log .info "Configuring taint"])
      obtain ⟨hprogress, hcalls⟩ := retryEntries_quiet (.configureTaint k) [] (by simp) hmem
      split <;> rename_i hr <;> rw [hr] at hrs hok <;> simp only at hrs hok <;> subst hrs
      · refine ⟨.setNode k :: .log .info "Configuring taint" :: rs ++
          [.increaseProgressStep, .log .error "Taint node failed"], by simp, rfl, fun c hc => ?_,
          by simp⟩
        simp only [calls_cons, calls_append, Event.call?, Option.toList, List.nil_append,
          List.append_nil, calls_nil] at hc
        exact ⟨k, List.mem_cons_self _ _, hcalls c hc⟩
      · obtain ⟨es, hes, hconfig, hcalls', hok'⟩ := configureTaints_spec o rest none
          ⟨(setNode st k nodeDeployment).config, (setNode st k nodeDeployment).log ++
            [.log .info "Configuring taint"] ++ rs ++ [.increaseProgressStep]⟩
        refine ⟨.setNode k :: .log .info "Configuring taint" :: rs ++
          .increaseProgressStep :: es, by simpa using hes, by simpa using hconfig,
          fun c hc => ?_, fun h => ?_⟩
        · simp only [calls_cons, calls_append, Event.call?, Option.toList, List.nil_append,
            List.mem_append] at hc
          rcases hc with hc | hc
          · exact ⟨k, List.mem_cons_self _ _, hcalls c hc⟩
          · obtain ⟨k', hk', rfl⟩ := hcalls' c hc
            exact ⟨k', List.mem_cons_of_mem _ hk', rfl⟩
        · obtain ⟨hsteps, hkeys⟩ := hok' h
          refine ⟨by simp [hprogress, hsteps], fun hpos k' hk' => ?_⟩
          rcases List.mem_cons.1 hk' with rfl | hk'
          · simp [hok trivial hpos]
          · simp [hkeys hpos k' hk']

theorem pullImageTask_spec (env : Env) (nodeName : String) (image : Image) (log : List Event) :
    ∃ es, (d.pullImageTask env nodeName image log).2 = log ++ es ∧ progressSteps es = 1 ∧
      calls es = (if env.hasFeatures image.features d.skipSetupFeatures then []
        else [.pullImage nodeName image.name]) ∧
      ((d.pullImageTask env nodeName image log).1 = none →
        env.hasFeatures image.features d.skipSetupFeatures = false →
        .call (.pullImage nodeName image.name) none ∈ es) := by
  unfold pullImageTask
  split
  · rename_i hskip
    exact ⟨[.increaseProgressStep], rfl, rfl, by simp [hskip, Event.call?], by simp [hskip]⟩
  · rename_i hskip
    split <;> rename_i e he
    · exact ⟨[.call (.pullImage nodeName image.name) (some e), .increaseProgressStep], rfl,
        by simp, by simp [hskip, Event.call?], by simp⟩
    · exact ⟨[.call (.pullImage nodeName image.name) none, .increaseProgressStep], rfl,
        by simp, by simp [hskip, Event.call?], by simp⟩

theorem toList_eq_nil_iff {α : Type} {x : Option α} : x.toList = [] ↔ x = none := by
  cases x <;> simp

theorem runParallelTasks_pullImageTask (env : Env) (nodeName : String) :
    ∀ (images : List Image) (log : List Event),
    ∃ es, (runParallelTasks (images.map (d.pullImageTask env nodeName)) log).2 = log ++ es ∧
      progressSteps es = images.length ∧
      calls es = (images.filter fun image =>
        !env.hasFeatures image.features d.skipSetupFeatures).map
          (fun image => .pullImage nodeName image.name) ∧
      ((runParallelTasks (images.map (d.pullImageTask env nodeName)) log).1 = [] →
        ∀ image ∈ images, env.hasFeatures image.features d.skipSetupFeatures = false →
          .call (.pullImage nodeName image.name) none ∈ es)
  | [], log => ⟨[], by simp [runParallelTasks]⟩
  | image :: images, log => by
    obtain ⟨es₁, hes₁, hprogress₁, hcalls₁, hok₁⟩ :=
      d.pullImageTask_spec env nodeName image log
    obtain ⟨es₂, hes₂, hprogress₂, hcalls₂, hok₂⟩ :=
      runParallelTasks_pullImageTask env nodeName images (d.pullImageTask env nodeName image log).2
    simp only [List.map_cons, runParallelTasks, List.append_eq_nil, toList_eq_nil_iff]
      at hes₂ hok₂ ⊢
    refine ⟨es₁ ++ es₂, by rw [hes₂, hes₁, List.append_assoc],
      by simp [hprogress₁, hprogress₂, Nat.add_comm], ?_,
      fun ⟨h₁, h₂⟩ image' himage' hskip => ?_⟩
    · cases hskip : env.hasFeatures image.features d.skipSetupFeatures <;>
        simp [hcalls₁, hcalls₂, hskip, List.filter_cons]
    · rcases List.mem_cons.1 himage' with rfl | himage'
      · exact List.mem_append_left _ (hok₁ h₁ hskip)
      · exact List.mem_append_right _ (hok₂ h₂ image' himage' hskip)

theorem pullNodeImages_spec (env : Env) : ∀ (keys : List String) (st : DeployState),
    ∃ es, (d.pullNodeImages env keys st).2.log = st.log ++ es ∧
      (d.pullNodeImages env keys st).2.config.config = st.config.config ∧
      (∀ c ∈ calls es, ∃ k ∈ keys, ∃ image ∈ d.images,
        env.hasFeatures image.features d.skipSetupFeatures = false ∧
          c = .pullImage k image.name) ∧
      ((d.pullNodeImages env keys st).1 = none →
        progressSteps es = keys.length * d.images.length ∧
        ∀ k ∈ keys, ∀ image ∈ d.images,
          env.hasFeatures image.features d.skipSetupFeatures = false →
            .call (.pullImage k image.name) none ∈ es)
  | [], st => ⟨[], by simp [pullNodeImages]⟩
  | k :: rest, st => by
    unfold pullNodeImages
    split
    · exact ⟨[], by simp⟩
    · rename_i nodeDeployment _
      dsimp only
      obtain ⟨ps, hps, hprogress, hcalls, hok⟩ :=
        d.runParallelTasks_pullImageTask env k d.images (setNode st k nodeDeployment).log
      have hpulled : ∀ c ∈ calls ps, ∃ image ∈ d.images,
          env.hasFeatures image.features d.skipSetupFeatures = false ∧
            c = .pullImage k image.name := by
        intro c hc
        rw [hcalls] at hc
        obtain ⟨image, himage, rfl⟩ := List.mem_map.1 hc
        obtain ⟨himage, hskip⟩ := List.mem_filter.1 himage
        exact ⟨image, himage, by simpa using hskip, rfl⟩
      split <;> rename_i hr <;> rw [hr] at hps hok <;> simp only at hps hok <;> subst hps
      · refine ⟨.setNode k :: ps, by simp, rfl, fun c hc => ?_, by simp⟩
        obtain ⟨image, himage, hskip, rfl⟩ := hpulled c (by simpa [Event.call?] using hc)
        exact ⟨k, List.mem_cons_self _ _, image, himage, hskip, rfl⟩
      · obtain ⟨es, hes, hconfig, hcalls', hok'⟩ := pullNodeImages_spec env rest
          ⟨(setNode st k nodeDeployment).config, (setNode st k nodeDeployment).log ++ ps⟩
        refine ⟨.setNode k :: ps ++ es, by simpa using hes,
          by simpa using hconfig, fun c hc => ?_, fun h => ?_⟩
        · simp only [calls_cons, calls_append, Event.call?, Option.toList, List.nil_append,
            List.mem_append] at hc
          rcases hc with hc | hc
          · obtain ⟨image, himage, hskip, rfl⟩ := hpulled c hc
            exact ⟨k, List.mem_cons_self _ _, image, himage, hskip, rfl⟩
          · obtain ⟨k', hk', image, himage, hskip, rfl⟩ := hcalls' c hc
            exact ⟨k', List.mem_cons_of_mem _ hk', image, himage, hskip, rfl⟩
        · obtain ⟨hsteps, hkeys⟩ := hok' h
          refine ⟨by simp [hprogress, hsteps, Nat.succ_mul, Nat.add_comm],
            fun k' hk' image himage hskip => ?_⟩
          rcases List.mem_cons.1 hk' with rfl | hk'
          · simp [hok trivial image himage hskip]
          · simp [hkeys k' hk' image himage hskip]

theorem bootstrapperCommands_cons_of_skipped (env : Env) (command : Command)
    (rest : List Command) (st : DeployState)
    (h : env.hasLabels command.labels [nodeBootstrapper] = false ∨
      env.hasFeatures command.features d.skipSetupFeatures = true) :
    d.bootstrapperCommands env (command :: rest) st =
      d.bootstrapperCommands env rest { st with log := st.log ++ [.increaseProgressStep] } := by
  rcases h with h | h <;> simp [bootstrapperCommands, h]

theorem bootstrapperCommands_spec (env : Env) : ∀ (commands : List Command) (st : DeployState),
    ∃ es, (d.bootstrapperCommands env commands st).2.log = st.log ++ es ∧
      (d.bootstrapperCommands env commands st).2.config = st.config ∧
      (∀ c ∈ calls es, ∃ command ∈ commands,
        env.hasLabels command.labels [nodeBootstrapper] = true ∧
        env.hasFeatures command.features d.skipSetupFeatures = false ∧
        ∃ rendered, env.applyTemplate st.config command.name command.command = .ok rendered ∧
          c = .runCommand rendered) ∧
      ((d.bootstrapperCommands env commands st).1 = none →
        progressSteps es = commands.length ∧
        (0 < d.commandRetries → ∀ command ∈ commands,
          env.hasLabels command.labels [nodeBootstrapper] = true →
          env.hasFeatures command.features d.skipSetupFeatures = false →
          ∃ rendered, env.applyTemplate st.config command.name command.command = .ok rendered ∧
            .call (.runCommand rendered) none ∈ es))
  | [], st => ⟨[], by simp [bootstrapperCommands]⟩
  | command :: rest, st => by
    by_cases hsel : env.hasLabels command.labels [nodeBootstrapper] = true ∧
        env.hasFeatures command.features d.skipSetupFeatures = false
    · obtain ⟨hl, hf⟩ := hsel
      simp only [bootstrapperCommands, hl, hf, Bool.not_true, Bool.false_eq_true, if_false]
      split
      · exact ⟨[], by simp, rfl, by simp, by simp⟩
      · rename_i rendered hrender
        obtain ⟨rs, hrs, hprogress, hcalls, hok⟩ := d.runCommand_spec env.oracle rendered st.log
        have hran : ∀ c ∈ calls rs, ∃ command' ∈ command :: rest,
            env.hasLabels command'.labels [nodeBootstrapper] = true ∧
            env.hasFeatures command'.features d.skipSetupFeatures = false ∧
            ∃ rendered,
              env.applyTemplate st.config command'.name command'.command = .ok rendered ∧
                c = .runCommand rendered :=
          fun c hc => ⟨command, List.mem_cons_self _ _, hl, hf, rendered, hrender, hcalls c hc⟩
        split <;> rename_i hr <;> rw [hr] at hrs hok <;> simp only at hrs hok <;> subst hrs
        · exact ⟨rs, rfl, rfl, hran, by simp⟩
        · obtain ⟨es, hes, hconfig, hcalls', hok'⟩ := bootstrapperCommands_spec env rest
            ⟨st.config, st.log ++ rs ++ [.increaseProgressStep]⟩
          refine ⟨rs ++ .increaseProgressStep :: es, by simpa using hes, hconfig, fun c hc => ?_,
            fun h => ?_⟩
          · simp only [calls_append, calls_cons, Event.call?, Option.toList, List.nil_append,
              List.mem_append] at hc
            rcases hc with hc | hc
            · exact hran c hc
            · obtain ⟨command', hmem, hl', hf', rendered', hr', rfl⟩ := hcalls' c hc
              exact ⟨command', List.mem_cons_of_mem _ hmem, hl', hf', rendered', hr', rfl⟩
          · obtain ⟨hsteps, hrun⟩ := hok' h
            refine ⟨by simp [hprogress, hsteps, Nat.add_comm],
              fun hpos command' hmem hl' hf' => ?_⟩
            rcases List.mem_cons.1 hmem with rfl | hmem
            · exact ⟨rendered, hrender, by simp [hok trivial hpos]⟩
            · obtain ⟨rendered', hr', hcall⟩ := hrun hpos command' hmem hl' hf'
              exact ⟨rendered', hr', by simp [hcall]⟩
    · have hskip : env.hasLabels command.labels [nodeBootstrapper] = false ∨
          env.hasFeatures command.features d.skipSetupFeatures = true := by
        cases hl : env.hasLabels command.labels [nodeBootstrapper] <;>
          cases hf : env.hasFeatures command.features d.skipSetupFeatures <;> simp_all
      rw [d.bootstrapperCommands_cons_of_skipped env command rest st hskip]
      obtain ⟨es, hes, hconfig, hcalls, hok⟩ := bootstrapperCommands_spec env rest
        ⟨st.config, st.log ++ [.increaseProgressStep]⟩
      refine ⟨.increaseProgressStep :: es, by simpa using hes, hconfig, fun c hc => ?_,
        fun h => ?_⟩
      · obtain ⟨command', hmem, hl', hf', rendered', hr', rfl⟩ :=
          hcalls c (by simpa [Event.call?] using hc)
        exact ⟨command', List.mem_cons_of_mem _ hmem, hl', hf', rendered', hr', rfl⟩
      · obtain ⟨hsteps, hrun⟩ := hok h
        refine ⟨by simp [hsteps], fun hpos command' hmem hl' hf' => ?_⟩
        rcases List.mem_cons.1 hmem with rfl | hmem
        · exact absurd ⟨hl', hf'⟩ hsel
        · obtain ⟨rendered', hr', hcall⟩ := hrun hpos command' hmem hl' hf'
          exact ⟨rendered', hr', .tail _ hcall⟩

theorem runPullImages_spec (env : Env) (st : DeployState) :
    ∃ es, (d.runPullImages env st).2.log = st.log ++ es ∧
      (d.runPullImages env st).2.config.config = st.config.config ∧
      (∀ c ∈ calls es, ∃ k ∈ env.getSortedNodeKeys st.config.config, ∃ image ∈ d.images,
        env.hasFeatures image.features d.skipSetupFeatures = false ∧
          c = .pullImage k image.name) ∧
      (d.pullImages = false → es = []) ∧
      ((d.runPullImages env st).1 = none →
        progressSteps es = (if d.pullImages then
          (env.getSortedNodeKeys st.config.config).length * d.images.length else 0) ∧
        (d.pullImages = true → ∀ k ∈ env.getSortedNodeKeys st.config.config,
          ∀ image ∈ d.images, env.hasFeatures image.features d.skipSetupFeatures = false →
            .call (.pullImage k image.name) none ∈ es)) := by
  unfold runPullImages
  cases hpull : d.pullImages
  · exact ⟨[], by simp, rfl, by simp, fun _ => rfl, by simp⟩
  · obtain ⟨es, hes, hconfig, hcalls, hok⟩ :=
      d.pullNodeImages_spec env (env.getSortedNodeKeys st.config.config) st
    exact ⟨es, hes, hconfig, hcalls, nofun,
      fun h => ⟨by simpa using (hok h).1, fun _ => (hok h).2⟩⟩

end Deployment

end K8sTew
