import Mathlib.Data.List.Nodup
import Mathlib.Data.List.Infix
set_option autoImplicit false

/-!
# k8s-tew: the data the supervisor and the deployment read

The cluster configuration (`config.InternalConfig` and what it holds), the servers the
supervisor launches, and the record of what a run does.

A run is observed through its log: every external call (`server.Start()`,
`utils.RunCommand`, the SSH actions of a node deployment, the file operations of the
embedded-file extraction) is recorded together with the outcome the environment gave it,
and every effect without an outcome (`Stop`, `time.Sleep`, a progress step, a log line)
is recorded as it happens.  The environment is an `Oracle`: it answers each call from the
log so far, so a theorem that holds for every oracle holds for every pattern of outcomes,
whatever the earlier calls returned.

The `config` and `utils` packages are not in the repository's sources.  Their pure
functions (`CompareLabels`, `HasLabels`, `HasOS`, `ApplyTemplate`, ...) are parameters,
collected in `Env`; nothing below assumes more of them than their types.
-/

namespace K8sTew

/-- A non-nil Go `error`.  Only whether an error is `nil` (`none`) steers the control
flow; the message is kept so that a theorem can say *which* error is returned. -/
structure Error where
  message : String
  deriving DecidableEq, Repr

/-- The runtime panic of dereferencing a missing map entry, `deployment.nodes[nodeName]`
for a key the map does not hold. -/
def nilDereference : Error :=
  ⟨"runtime error: invalid memory address or nil pointer dereference"⟩

/-- `config.Labels`. -/
abbrev Labels := List String

/-- `config.Features`. -/
abbrev Features := List String

/-- `utils.NODE_CONTROLLER`. -/
def nodeController : String := "controller"

/-- `utils.NODE_WORKER`. -/
def nodeWorker : String := "worker"

/-- `utils.NODE_BOOTSTRAPPER`. -/
def nodeBootstrapper : String := "bootstrapper"

/-- `utils.HOST_BINARIES_DIRECTORY`. -/
def hostBinariesDirectory : String := "host-binaries"

/-! ## Configuration -/

/-- `config.Node`: the fields of a node the modelled code reads. -/
structure Node where
  ip : String
  labels : Labels
  deriving DecidableEq, Repr

/-- `Config.Nodes`, a Go `map[string]*Node`.  Its keys are unique and its iteration
order is not fixed, so a table is any duplicate-free list of entries, iterated in list
order: a theorem over every table holds for every iteration order. -/
structure NodeTable where
  entries : List (String × Node)
  nodup : (entries.map Prod.fst).Nodup

/-- `Nodes[name]`. -/
def NodeTable.get? (t : NodeTable) (name : String) : Option Node := t.entries.lookup name

/-- `len(Nodes)`. -/
def NodeTable.size (t : NodeTable) : Nat := t.entries.length

/-- `config.ServerConfig`: the fields `Run` reads; the launch parameters are read only by
`NewServerWrapper`, which is not in the sources. -/
structure ServerConfig where
  name : String
  enabled : Bool
  labels : Labels
  deriving DecidableEq, Repr

/-- `config.Command`: a provisioning or bootstrapper command. -/
structure Command where
  name : String
  command : String
  labels : Labels
  os : List String
  features : Features
  deriving DecidableEq, Repr

/-- `config.Config`: the fields the modelled functions read. -/
structure Config where
  nodes : NodeTable
  servers : List ServerConfig
  commands : List Command
  controllerVirtualIP : String
  controllerVirtualIPInterface : String
  workerVirtualIP : String
  workerVirtualIPInterface : String
  vipRaftControllerPort : UInt16
  vipRaftWorkerPort : UInt16

/-- `config.InternalConfig`: the cluster configuration and the node this process acts
for (`Name`, `Node`). -/
structure InternalConfig where
  config : Config
  name : String
  node : Node

/-- `InternalConfig.SetNode(name, node)`. -/
def InternalConfig.setNode (ic : InternalConfig) (name : String) (node : Node) :
    InternalConfig :=
  { ic with name := name, node := node }

@[simp] theorem InternalConfig.setNode_config (ic : InternalConfig) (name : String)
    (node : Node) : (ic.setNode name node).config = ic.config := rfl

/-! ## Servers -/

/-- `Peers`: node name ↦ `"ip:port"` election endpoint, a Go `map[string]string`. -/
abbrev Peers := List (String × String)

/-- `peers[name]`. -/
def Peers.get? (peers : Peers) (name : String) : Option String := peers.lookup name

/-- `peers[name] = endpoint`: assignment replaces the value of a key already present. -/
def Peers.set (peers : Peers) (name endpoint : String) : Peers :=
  (name, endpoint) :: peers.filter (fun p => p.1 != name)

theorem lookup_filter_ne {name key : String} (h : key ≠ name) :
    ∀ peers : Peers, (peers.filter (fun p => p.1 != name)).lookup key = peers.lookup key
  | [] => rfl
  | (k, v) :: peers => by
    by_cases hk : k = name
    · subst hk
      simp [List.filter_cons, List.lookup_cons, beq_false_of_ne h, lookup_filter_ne h peers]
    · simp [List.filter_cons, hk, List.lookup_cons, lookup_filter_ne h peers]

@[simp] theorem Peers.get?_set (peers : Peers) (name endpoint key : String) :
    (peers.set name endpoint).get? key = if key = name then some endpoint else peers.get? key := by
  by_cases h : key = name
  · simp [Peers.set, Peers.get?, h]
  · simp [Peers.set, Peers.get?, List.lookup_cons, beq_false_of_ne h, h, lookup_filter_ne h]

/-- The arguments `addVIPManager` hands to `NewVIPManager` (not in the sources): the
election role, this node's id and endpoint, the floating IP and its interface, and the
peer map that fixes the election's membership. -/
structure VIPManager where
  role : String
  id : String
  endpoint : String
  virtualIP : String
  peers : Peers
  virtualIPInterface : String
  deriving DecidableEq, Repr

/-- A value of the `Server` interface. -/
inductive Server
  /-- `NewServerWrapper(config, name, serverConfig, pathEnvironment)` -/
  | wrapper (name : String) (config : ServerConfig) (pathEnvironment : String)
  /-- `NewVIPManager(...)` -/
  | vipManager (manager : VIPManager)
  deriving DecidableEq, Repr

/-! ## Runs -/

/-- A `logrus` level. -/
inductive Level
  | debug
  | info
  | error
  | fatal
  deriving DecidableEq, Repr

/-- An external call whose outcome, `nil` or an error, the environment decides. -/
inductive Call
  /-- `server.Start()` -/
  | start (server : Server)
  /-- `utils.RunCommand(command)` -/
  | runCommand (command : String)
  /-- `utils.CreateDirectoryIfMissing` on the directory of an extracted file -/
  | createDirectoryIfMissing (filename : String)
  /-- `os.OpenFile` of an extracted file's target -/
  | openFile (filename : String)
  /-- `io.Copy` of an embedded file to its target -/
  | copy (filename : String)
  /-- `out.Sync()` of an extracted file -/
  | sync (filename : String)
  /-- `nodeDeployment.UploadFiles(forceUpload)` -/
  | uploadFiles (node : String) (forceUpload : Bool)
  /-- `nodeDeployment.configureTaint()` -/
  | configureTaint (node : String)
  /-- `nodeDeployment.pullImage(image)` -/
  | pullImage (node : String) (image : String)
  deriving DecidableEq, Repr

/-- One entry of a run's log. -/
inductive Event
  /-- an external call and the outcome it returned -/
  | call (c : Call) (result : Option Error)
  /-- `server.Stop()` -/
  | stop (server : Server)
  /-- a log line -/
  | log (level : Level) (message : String)
  /-- `utils.IncreaseProgressStep()` -/
  | increaseProgressStep
  /-- `utils.HideProgress()` -/
  | hideProgress
  /-- `time.Sleep(time.Second)` -/
  | sleep
  /-- `config.SetNode(name, ...)` -/
  | setNode (name : String)
  /-- `<-signals` received SIGINT or SIGTERM, and `servers.stop = true` followed -/
  | signalReceived
  /-- `utils.KillProcessChildren(os.Getpid(), timeout)` -/
  | killProcessChildren (timeout : Nat)
  /-- `servers.runCommand(command, ...)` returned `result` -/
  | runCommand (command : Command) (result : Option Error)
  deriving DecidableEq, Repr

/-- The environment's answer to each external call, given the log so far. -/
abbrev Oracle := List Event → Call → Option Error

/-- The external call an entry records. -/
def Event.call? : Event → Option Call
  | .call c _ => some c
  | _ => none

/-- The external calls of a log, in order. -/
def calls (log : List Event) : List Call := log.filterMap Event.call?

/-- How many progress steps a log records. -/
def progressSteps (log : List Event) : Nat := log.count .increaseProgressStep

@[simp] theorem calls_append (l₁ l₂ : List Event) :
    calls (l₁ ++ l₂) = calls l₁ ++ calls l₂ :=
  List.filterMap_append _ _ _

@[simp] theorem progressSteps_append (l₁ l₂ : List Event) :
    progressSteps (l₁ ++ l₂) = progressSteps l₁ + progressSteps l₂ :=
  List.count_append _ _ _

@[simp] theorem calls_nil : calls [] = [] := rfl

@[simp] theorem calls_cons (e : Event) (log : List Event) :
    calls (e :: log) = e.call?.toList ++ calls log := by
  cases h : e.call? <;> simp [calls, h]

@[simp] theorem progressSteps_nil : progressSteps [] = 0 := rfl

@[simp] theorem progressSteps_cons (e : Event) (log : List Event) :
    progressSteps (e :: log) = progressSteps log + if e = .increaseProgressStep then 1 else 0 := by
  simp [progressSteps, List.count_cons]

theorem mem_calls {c : Call} {log : List Event} : c ∈ calls log ↔ ∃ r, .call c r ∈ log := by
  simp only [calls, List.mem_filterMap]
  constructor
  · rintro ⟨e, he, hc⟩
    cases e <;> simp only [Event.call?, Option.some.injEq, reduceCtorEq] at hc
    exact ⟨_, hc ▸ he⟩
  · rintro ⟨r, hr⟩
    exact ⟨_, hr, rfl⟩

theorem progressSteps_eq_zero {log : List Event} (h : ∀ e ∈ log, e ≠ .increaseProgressStep) :
    progressSteps log = 0 :=
  List.count_eq_zero.2 fun hm => h _ hm rfl

/-- The command a `utils.RunCommand` call runs. -/
def Call.runCommand? : Call → Option String
  | .runCommand command => some command
  | _ => none

/-- The commands a log hands to `utils.RunCommand`, one per attempt, in order. -/
def commandsRun (log : List Event) : List String := (calls log).filterMap Call.runCommand?

/-- The attempts of commands run one after the other: `n` attempts of `rendered` for each
`(command, rendered, n)`, in turn. -/
def attemptsOf (ran : List (Command × String × Nat)) : List String :=
  ran.flatMap fun p => List.replicate p.2.2 p.2.1

@[simp] theorem commandsRun_append (l₁ l₂ : List Event) :
    commandsRun (l₁ ++ l₂) = commandsRun l₁ ++ commandsRun l₂ := by
  simp [commandsRun]

@[simp] theorem attemptsOf_nil : attemptsOf [] = [] := rfl

@[simp] theorem attemptsOf_cons (p : Command × String × Nat) (ran : List (Command × String × Nat)) :
    attemptsOf (p :: ran) = List.replicate p.2.2 p.2.1 ++ attemptsOf ran := rfl

@[simp] theorem attemptsOf_append (ran₁ ran₂ : List (Command × String × Nat)) :
    attemptsOf (ran₁ ++ ran₂) = attemptsOf ran₁ ++ attemptsOf ran₂ :=
  List.flatMap_append _ _ _

/-- A log whose calls are the attempts of `commands` runs exactly those. -/
theorem commandsRun_of_calls {log : List Event} {commands : List String}
    (h : calls log = commands.map .runCommand) : commandsRun log = commands := by
  simp [commandsRun, h, List.filterMap_map, Function.comp_def, Call.runCommand?]

/-- A log without a `utils.RunCommand` call runs no command. -/
theorem commandsRun_eq_nil {log : List Event}
    (h : ∀ command, (calls log).count (.runCommand command) = 0) : commandsRun log = [] := by
  refine List.filterMap_eq_nil_iff.2 fun c hc => ?_
  cases c with
  | runCommand command => exact absurd (List.count_pos_iff.2 hc) (by simp [h command])
  | _ => rfl

/-- The parts of the program that are not in the repository's sources. -/
structure Env where
  /-- `config.CompareLabels(nodeLabels, requiredLabels)` -/
  compareLabels : Labels → Labels → Bool
  /-- `labels.HasLabels(required)` -/
  hasLabels : Labels → Labels → Bool
  /-- `features.HasFeatures(skipped)` -/
  hasFeatures : Features → Features → Bool
  /-- `utils.HasOS(os)`, against the host's operating system -/
  hasOS : List String → Bool
  /-- `Node.IsController()` -/
  isController : Node → Bool
  /-- `Node.IsWorker()` -/
  isWorker : Node → Bool
  /-- `InternalConfig.ApplyTemplate(name, command)` -/
  applyTemplate : InternalConfig → String → String → Except Error String
  /-- `InternalConfig.GetSortedNodeKeys()`, the keys of the cluster's `Config.Nodes` -/
  getSortedNodeKeys : Config → List String
  /-- `InternalConfig.GetFullLocalAssetDirectory(directory)` -/
  getFullLocalAssetDirectory : InternalConfig → String → String
  /-- the error `NewServerWrapper(config, name, serverConfig, pathEnvironment)` returns -/
  newServerWrapper : InternalConfig → String → ServerConfig → String → Option Error
  /-- `os.Getenv("PATH")` -/
  pathVariable : String
  /-- the files `utils.GetEmbeddedFiles` yields, in order -/
  embeddedFiles : List String
  /-- `NodeDeployment.Steps()` of each node -/
  nodeSteps : String → Nat
  /-- the outcome of every external call -/
  oracle : Oracle

/-! ## A sample cluster

The concrete inputs the witnesses of the development run on. -/

/-- A host of the `linux` OS where a label requirement is met by any shared label, a role
by carrying its label, templates render to the command itself and every wrapper is
created; `oracle` decides the external calls. -/
def sampleEnv (oracle : Oracle) : Env where
  compareLabels nodeLabels labels := labels.isEmpty || labels.any nodeLabels.contains
  hasLabels labels required := required.all labels.contains
  hasFeatures features skipped := features.any skipped.contains
  hasOS os := os.contains "linux"
  isController node := node.labels.contains nodeController
  isWorker node := node.labels.contains nodeWorker
  applyTemplate _ _ command := .ok command
  getSortedNodeKeys config := config.nodes.entries.map Prod.fst
  getFullLocalAssetDirectory _ directory := "/var/lib/k8s-tew/" ++ directory
  newServerWrapper _ _ _ _ := none
  pathVariable := "/usr/bin"
  embeddedFiles := []
  nodeSteps _ := 1
  oracle := oracle

/-- Two controllers and a worker, in sorted order. -/
def sampleNodes : NodeTable :=
  ⟨[("controller00", ⟨"192.168.100.50", [nodeController]⟩),
    ("controller01", ⟨"192.168.100.51", [nodeController]⟩),
    ("worker00", ⟨"192.168.100.60", [nodeWorker]⟩)], by decide⟩

/-- The configuration of `controller00` in `sampleNodes`, without VIPs, holding `servers`
and `commands`. -/
def sampleConfig (servers : List ServerConfig) (commands : List Command) : InternalConfig where
  config :=
    { nodes := sampleNodes, servers := servers, commands := commands,
      controllerVirtualIP := "", controllerVirtualIPInterface := "", workerVirtualIP := "",
      workerVirtualIPInterface := "", vipRaftControllerPort := 16277,
      vipRaftWorkerPort := 16278 }
  name := "controller00"
  node := ⟨"192.168.100.50", [nodeController]⟩

/-- A command for every node. -/
def sampleCommand : Command :=
  { name := "restart-kubelet", command := "systemctl restart kubelet", labels := [],
    os := ["linux"], features := [] }

/-- Every call succeeds. -/
def allSucceed : Oracle := fun _ _ => none

/-- Every call fails. -/
def allFail : Oracle := fun _ _ => some ⟨"connection refused"⟩

/-- Every `utils.RunCommand` fails; every other call succeeds. -/
def commandsFail : Oracle := fun _ c =>
  match c with
  | .runCommand _ => some ⟨"exit status 1"⟩
  | _ => none

end K8sTew
