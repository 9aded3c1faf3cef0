import K8sTew.Basic
set_option autoImplicit false

/-!
# Servers: the supervisor and what `Run` registers before starting anything

`Servers.Run` first extracts the embedded host binaries, then registers a wrapper for every
enabled server whose labels match this node and, where the node has the role and the
floating IP is configured, a controller and a worker VIP manager.  This module models
those steps; the start loop, the command goroutine and the shutdown are the machines of
`K8sTew.Servers.Task` and `K8sTew.Servers.Run`.

The VIP manager's peer map is the membership of its election: `addVIPManager_peers` says
it holds exactly the nodes carrying the role, each at the endpoint the node of that name
would bind, whatever order the Go map is iterated in.
-/

namespace K8sTew

/-- `servers.Servers`: the supervisor. -/
structure Servers where
  config : InternalConfig
  servers : List Server
  stop : Bool
  killTimeout : Nat

/-- `NewServers(_config, killTimeout)`. -/
def newServers (config : InternalConfig) (killTimeout : Nat) : Servers :=
  { config := config, servers := [], stop := false, killTimeout := killTimeout }

namespace Servers

/-- `servers.add(server)`. -/
def add (s : Servers) (server : Server) : Servers :=
  { s with servers := s.servers ++ [server] }

@[simp] theorem add_servers (s : Servers) (server : Server) :
    (s.add server).servers = s.servers ++ [server] := rfl

@[simp] theorem add_config (s : Servers) (server : Server) : (s.add server).config = s.config :=
  rfl

@[simp] theorem add_stop (s : Servers) (server : Server) : (s.add server).stop = s.stop := rfl

@[simp] theorem add_killTimeout (s : Servers) (server : Server) :
    (s.add server).killTimeout = s.killTimeout := rfl

/-- `servers.Steps()`: the size of the progress bar. -/
def steps (s : Servers) : Nat :=
  s.config.config.servers.length + s.config.config.commands.length + 1

/-! ## VIP managers -/

/-- `fmt.Sprintf("%s:%d", ip, raftPort)`. -/
def endpoint (ip : String) (raftPort : UInt16) : String := ip ++ ":" ++ toString raftPort

/-- The loop of `addVIPManager` over `Config.Nodes` that collects the election's peers. -/
def collectPeers (env : Env) (nodeRole : String) (raftPort : UInt16) :
    List (String × Node) → Peers → Peers
  | [], peers => peers
  | (nodeName, node) :: rest, peers =>
    collectPeers env nodeRole raftPort rest
      (if !env.hasLabels node.labels [nodeRole] then peers
       else peers.set nodeName (endpoint node.ip raftPort))

/-- `servers.addVIPManager(enabled, virtualIP, virtualIPInterface, nodeName, nodeIP,
nodeRole, raftPort)`. -/
def addVIPManager (env : Env) (s : Servers) (enabled : Bool)
    (virtualIP virtualIPInterface nodeName nodeIP nodeRole : String) (raftPort : UInt16) :
    Servers :=
  if !enabled then s
  else if virtualIP.length = 0 then s
  else if virtualIPInterface.length = 0 then s
  else
    let peers := collectPeers env nodeRole raftPort s.config.config.nodes.entries []
    s.add (.vipManager
      { role := nodeRole, id := nodeName, endpoint := endpoint nodeIP raftPort,
        virtualIP := virtualIP, peers := peers, virtualIPInterface := virtualIPInterface })

/-- A peer of the collected map is a node of the table carrying the role, at its
endpoint; every other key keeps the value it had before the loop. -/
theorem collectPeers_get? (env : Env) (nodeRole : String) (raftPort : UInt16) (key : String) :
    ∀ (entries : List (String × Node)) (peers : Peers), (entries.map Prod.fst).Nodup →
      (collectPeers env nodeRole raftPort entries peers).get? key =
        match entries.lookup key with
        | some node =>
          if env.hasLabels node.labels [nodeRole] then some (endpoint node.ip raftPort)
          else peers.get? key
        | none => peers.get? key
  | [], _, _ => rfl
  | (name, node) :: rest, peers, hnodup => by
    rw [List.map_cons, List.nodup_cons] at hnodup
    rw [collectPeers, collectPeers_get? env nodeRole raftPort key rest _ hnodup.2]
    by_cases hkey : key = name
    · subst hkey
      have hfresh : rest.lookup key = none := by
        simp only [List.lookup_eq_none_iff, bne_iff_ne]
        rintro ⟨k, n⟩ hmem rfl
        exact hnodup.1 (List.mem_map.2 ⟨_, hmem, rfl⟩)
      cases hlabel : env.hasLabels node.labels [nodeRole] <;> simp [hfresh, hlabel]
    · cases env.hasLabels node.labels [nodeRole] <;>
        simp [List.lookup_cons, beq_false_of_ne hkey, hkey]

/-- **The election's membership.**  Whenever `addVIPManager` adds a VIP manager, its peer
map has as keys exactly the nodes of `Config.Nodes` carrying the role, each mapped to the
node's IP and the raft port, formatted as the manager's own endpoint; so the local node,
when it is such an entry with the IP the manager binds, is its own peer. -/
theorem addVIPManager_peers (env : Env) (s : Servers) (enabled : Bool)
    (virtualIP virtualIPInterface nodeName nodeIP nodeRole : String) (raftPort : UInt16)
    (manager : VIPManager)
    (hadd : (s.addVIPManager env enabled virtualIP virtualIPInterface nodeName nodeIP nodeRole
      raftPort).servers = s.servers ++ [.vipManager manager]) :
    (∀ key value, manager.peers.get? key = some value ↔
      ∃ node, s.config.config.nodes.get? key = some node ∧
        env.hasLabels node.labels [nodeRole] = true ∧ value = endpoint node.ip raftPort) ∧
    manager.endpoint = endpoint nodeIP raftPort ∧
    (∀ node, s.config.config.nodes.get? nodeName = some node →
      env.hasLabels node.labels [nodeRole] = true → node.ip = nodeIP →
      manager.peers.get? nodeName = some manager.endpoint ∧ manager.peers ≠ []) := by
  have hm : manager =
      { role := nodeRole, id := nodeName, endpoint := endpoint nodeIP raftPort,
        virtualIP := virtualIP,
        peers := collectPeers env nodeRole raftPort s.config.config.nodes.entries [],
        virtualIPInterface := virtualIPInterface } := by
    unfold addVIPManager at hadd
    split_ifs at hadd <;> simp_all
  have hget (key : String) := collectPeers_get? env nodeRole raftPort key
    s.config.config.nodes.entries [] s.config.config.nodes.nodup
  subst hm
  refine ⟨fun key value => ?_, rfl, fun node hnode hlabel hip => ?_⟩
  · rw [hget key]
    simp only [NodeTable.get?] at *
    cases hlookup : s.config.config.nodes.entries.lookup key with
    | none => simp [Peers.get?]
    | some node =>
      cases hlabel : env.hasLabels node.labels [nodeRole] <;>
        simp [Peers.get?, hlabel, eq_comm (a := value)]
  · have hpeer : (collectPeers env nodeRole raftPort s.config.config.nodes.entries []).get?
        nodeName = some (endpoint nodeIP raftPort) := by
      rw [hget nodeName]; simp_all [NodeTable.get?]
    refine ⟨hpeer, fun hnil => ?_⟩
    simp only at hnil
    simp [hnil, Peers.get?] at hpeer

/-- The controller manager `controller00` of `sampleNodes` registers. -/
def sampleControllerManager : VIPManager :=
  { role := nodeController, id := "controller00", endpoint := "192.168.100.50:16277",
    virtualIP := "192.168.100.100",
    peers := [("controller01", "192.168.100.51:16277"), ("controller00", "192.168.100.50:16277")],
    virtualIPInterface := "eth0" }

/-- The witness of `addVIPManager_peers`: on `controller00` of `sampleNodes`, the
controller manager's peers are both controllers, itself among them. -/
theorem addVIPManager_peers_sample :
    ((newServers (sampleConfig [] []) 0).addVIPManager (sampleEnv allSucceed) true
        "192.168.100.100" "eth0" "controller00" "192.168.100.50" nodeController 16277).servers =
      [.vipManager sampleControllerManager] ∧
    sampleControllerManager.peers.get? "controller00" = some sampleControllerManager.endpoint ∧
      sampleControllerManager.peers ≠ [] :=
  ⟨by decide, (addVIPManager_peers (sampleEnv allSucceed) (newServers (sampleConfig [] []) 0) true
    "192.168.100.100" "eth0" "controller00" "192.168.100.50" nodeController 16277
    sampleControllerManager (by decide)).2.2 ⟨"192.168.100.50", [nodeController]⟩ (by decide)
    (by decide) rfl⟩

/-! ## Registration -/

theorem length_eq_zero_iff (s : String) : s.length = 0 ↔ s = "" := by
  cases s with
  | mk data => simp [String.length, List.length_eq_zero, String.ext_iff]

/-- The manager `addVIPManager` registers. -/
def vipManagerFor (env : Env) (nodes : NodeTable)
    (virtualIP virtualIPInterface nodeName nodeIP nodeRole : String) (raftPort : UInt16) :
    VIPManager :=
  { role := nodeRole, id := nodeName, endpoint := endpoint nodeIP raftPort,
    virtualIP := virtualIP, peers := collectPeers env nodeRole raftPort nodes.entries [],
    virtualIPInterface := virtualIPInterface }

/-- The manager, when the node has the role and the floating IP and its interface are
configured. -/
def vipManagerIf (enabled : Bool) (virtualIP virtualIPInterface : String) (manager : VIPManager) :
    List Server :=
  if enabled = true ∧ virtualIP ≠ "" ∧ virtualIPInterface ≠ "" then [.vipManager manager]
  else []

theorem addVIPManager_eq (env : Env) (s : Servers) (enabled : Bool)
    (virtualIP virtualIPInterface nodeName nodeIP nodeRole : String) (raftPort : UInt16) :
    s.addVIPManager env enabled virtualIP virtualIPInterface nodeName nodeIP nodeRole raftPort =
      { s with
        servers := s.servers ++ vipManagerIf enabled virtualIP virtualIPInterface
          (vipManagerFor env s.config.config.nodes virtualIP virtualIPInterface nodeName nodeIP
            nodeRole raftPort) } := by
  unfold addVIPManager vipManagerIf
  by_cases henabled : enabled = true <;> by_cases hip : virtualIP = "" <;>
    by_cases hif : virtualIPInterface = "" <;>
    simp [henabled, hip, hif, length_eq_zero_iff, add, vipManagerFor]

/-- `pathEnvironment` in `Run`: the host-binaries directory before `$PATH`. -/
def pathEnvironment (env : Env) (s : Servers) : String :=
  "PATH=" ++ env.getFullLocalAssetDirectory s.config hostBinariesDirectory ++ ":" ++
    env.pathVariable

/-- Whether `Run` wraps a server config: it is enabled and its labels match the node's. -/
def wraps (env : Env) (ic : InternalConfig) (serverConfig : ServerConfig) : Bool :=
  serverConfig.enabled && env.compareLabels ic.node.labels serverConfig.labels

/-- The `// Add servers` loop of `Run` over the remaining server configs. -/
def addServerConfigs (env : Env) (pathEnvironment : String) :
    List ServerConfig → Servers → Except Error Servers
  | [], s => .ok s
  | serverConfig :: rest, s =>
    if !serverConfig.enabled then addServerConfigs env pathEnvironment rest s
    else if !env.compareLabels s.config.node.labels serverConfig.labels then
      addServerConfigs env pathEnvironment rest s
    else
      match env.newServerWrapper s.config serverConfig.name serverConfig pathEnvironment with
      | some e => .error e
      | none =>
        addServerConfigs env pathEnvironment rest
          (s.add (.wrapper serverConfig.name serverConfig pathEnvironment))

/-- `// Add Controllers/Workers VIP servers`. -/
def addVIPManagers (env : Env) (s : Servers) : Servers :=
  let ic := s.config
  (s.addVIPManager env (env.isController ic.node) ic.config.controllerVirtualIP
      ic.config.controllerVirtualIPInterface ic.name ic.node.ip nodeController
      ic.config.vipRaftControllerPort).addVIPManager env (env.isWorker ic.node)
    ic.config.workerVirtualIP ic.config.workerVirtualIPInterface ic.name ic.node.ip nodeWorker
    ic.config.vipRaftWorkerPort

/-- Everything `Run` registers before its start loop. -/
def addServers (env : Env) (s : Servers) : Except Error Servers :=
  (addServerConfigs env (pathEnvironment env s) s.config.config.servers s).map (addVIPManagers env)

/-- The error of the first wrapped config whose `NewServerWrapper` fails. -/
def firstWrapperError (env : Env) (ic : InternalConfig) (pathEnvironment : String) :
    Option Error :=
  (ic.config.servers.filter (wraps env ic)).findSome? fun serverConfig =>
    env.newServerWrapper ic serverConfig.name serverConfig pathEnvironment

/-- The list `Run` starts when every wrapper is created: a wrapper for each enabled
server config whose labels match the node's, in order, then the controller and the worker
VIP manager where the node has the role and the floating IP and interface are set. -/
def registeredServers (env : Env) (ic : InternalConfig) (pathEnvironment : String) :
    List Server :=
  (ic.config.servers.filter (wraps env ic)).map
      (fun serverConfig => .wrapper serverConfig.name serverConfig pathEnvironment) ++
    vipManagerIf (env.isController ic.node) ic.config.controllerVirtualIP
      ic.config.controllerVirtualIPInterface
      (vipManagerFor env ic.config.nodes ic.config.controllerVirtualIP
        ic.config.controllerVirtualIPInterface ic.name ic.node.ip nodeController
        ic.config.vipRaftControllerPort) ++
    vipManagerIf (env.isWorker ic.node) ic.config.workerVirtualIP
      ic.config.workerVirtualIPInterface
      (vipManagerFor env ic.config.nodes ic.config.workerVirtualIP
        ic.config.workerVirtualIPInterface ic.name ic.node.ip nodeWorker
        ic.config.vipRaftWorkerPort)

theorem addServerConfigs_eq (env : Env) (pathEnvironment : String) :
    ∀ (serverConfigs : List ServerConfig) (s : Servers),
      addServerConfigs env pathEnvironment serverConfigs s =
        match (serverConfigs.filter (wraps env s.config)).findSome? fun serverConfig =>
            env.newServerWrapper s.config serverConfig.name serverConfig pathEnvironment with
        | some e => .error e
        | none => .ok { s with
            servers := s.servers ++ (serverConfigs.filter (wraps env s.config)).map
              (fun serverConfig => .wrapper serverConfig.name serverConfig pathEnvironment) }
  | [], s => by simp [addServerConfigs]
  | serverConfig :: rest, s => by
    have ih := addServerConfigs_eq env pathEnvironment rest
    unfold addServerConfigs
    by_cases hwraps : wraps env s.config serverConfig = true
    · have ⟨henabled, hlabels⟩ : serverConfig.enabled = true ∧
          env.compareLabels s.config.node.labels serverConfig.labels = true := by
        simpa [wraps] using hwraps
      cases hnew : env.newServerWrapper s.config serverConfig.name serverConfig pathEnvironment
      · simp [henabled, hlabels, hnew, hwraps, ih]
      · simp [henabled, hlabels, hnew, hwraps]
    · cases henabled : serverConfig.enabled
      · simp [henabled, hwraps, ih]
      · have hlabels : env.compareLabels s.config.node.labels serverConfig.labels = false := by
          simpa [wraps, henabled] using hwraps
        simp [henabled, hlabels, hwraps, ih]

/-- Registration on a fresh supervisor: the first failing `NewServerWrapper` error, or
the list `registeredServers`. -/
theorem addServers_newServers (env : Env) (ic : InternalConfig) (killTimeout : Nat) :
    addServers env (newServers ic killTimeout) =
      match firstWrapperError env ic (pathEnvironment env (newServers ic killTimeout)) with
      | some e => .error e
      | none => .ok { newServers ic killTimeout with
          servers :=
            registeredServers env ic (pathEnvironment env (newServers ic killTimeout)) } := by
  unfold addServers firstWrapperError
  rw [addServerConfigs_eq]
  simp only [newServers]
  split
  · simp [Except.map, *]
  · simp only [Except.map, addVIPManagers, *]
    rw [addVIPManager_eq, addVIPManager_eq]
    simp [registeredServers]

/-- Registration only adds servers, at most a wrapper per server config and the two VIP
managers: the configuration, the flag and the kill timeout are the supervisor's own. -/
theorem addServers_frame (env : Env) (s s' : Servers) (h : addServers env s = .ok s') :
    s'.config = s.config ∧ s'.stop = s.stop ∧ s'.killTimeout = s.killTimeout ∧
      s'.servers.length ≤ s.servers.length + s.config.config.servers.length + 2 := by
  unfold addServers at h
  rw [addServerConfigs_eq] at h
  split at h
  · cases h
  · simp only [Except.map, Except.ok.injEq] at h
    subst h
    simp only [addVIPManagers]
    rw [addVIPManager_eq, addVIPManager_eq]
    have hwrapped := List.length_filter_le (wraps env s.config) s.config.config.servers
    simp only [vipManagerIf, List.length_append, List.length_map, true_and]
    split_ifs <;> simp <;> omega

/-! ## Embedded host binaries -/

/-- Make the calls `ops` in order, stopping at the first that fails and returning its
error. -/
def callAll (o : Oracle) : List Call → List Event → Option Error × List Event
  | [], log => (none, log)
  | c :: ops, log =>
    match o log c with
    | some e => (some e, log ++ [.call c (some e)])
    | none => callAll o ops (log ++ [.call c none])

/-- The callback `extractEmbeddedFiles` hands to `utils.GetEmbeddedFiles`, on one file:
create the target's directory, open the target, copy, then `return out.Sync()`; the first
failing step's error is returned. -/
def extractEmbeddedFile (o : Oracle) (filename : String) (log : List Event) :
    Option Error × List Event :=
  callAll o [.createDirectoryIfMissing filename, .openFile filename, .copy filename,
    .sync filename] (log ++ [.log .info "Extracting embedded file"])

/-- Modelled from the spec: `utils.GetEmbeddedFiles`, which is not in the sources,
"iterates bundled files, yielding (filename, readable stream) pairs" to the callback; it
stops at the first error the callback returns and returns it. -/
def getEmbeddedFiles (callback : String → List Event → Option Error × List Event) :
    List String → List Event → Option Error × List Event
  | [], log => (none, log)
  | filename :: rest, log =>
    match callback filename log with
    | (some e, log) => (some e, log)
    | (none, log) => getEmbeddedFiles callback rest log

/-- `servers.extractEmbeddedFiles()`: the result of `utils.GetEmbeddedFiles` is dropped and
`nil` returned. -/
def extractEmbeddedFiles (env : Env) (log : List Event) : Option Error × List Event :=
  (none, (getEmbeddedFiles (extractEmbeddedFile env.oracle) env.embeddedFiles log).2)

/-- An entry the extraction records: its log line or a file operation. -/
def isExtraction : Event → Bool
  | .log _ _ => true
  | .call (.createDirectoryIfMissing _) _ | .call (.openFile _) _ | .call (.copy _) _
  | .call (.sync _) _ => true
  | _ => false

theorem callAll_log (o : Oracle) : ∀ (ops : List Call) (log : List Event),
    ∃ es, (callAll o ops log).2 = log ++ es ∧ ∀ e ∈ es, ∃ c ∈ ops, ∃ r, e = .call c r
  | [], log => ⟨[], by simp [callAll]⟩
  | c :: ops, log => by
    cases h : o log c with
    | some e => exact ⟨[.call c (some e)], by simp [callAll, h], by simp⟩
    | none =>
      obtain ⟨es, hes, hmem⟩ := callAll_log o ops (log ++ [.call c none])
      refine ⟨.call c none :: es, by simp [callAll, h, hes], ?_⟩
      rintro e (_ | ⟨_, he⟩)
      · exact ⟨c, by simp, none, rfl⟩
      · obtain ⟨c', hc', r, rfl⟩ := hmem e he
        exact ⟨c', by simp [hc'], r, rfl⟩

/-- The extraction only appends its log lines and file operations. -/
theorem extractEmbeddedFiles_log (env : Env) (log : List Event) :
    ∃ es, (extractEmbeddedFiles env log).2 = log ++ es ∧
      ∀ e ∈ es, isExtraction e = true := by
  suffices ∀ (files : List String) (log : List Event), ∃ es,
      (getEmbeddedFiles (extractEmbeddedFile env.oracle) files log).2 = log ++ es ∧
        ∀ e ∈ es, isExtraction e = true from this env.embeddedFiles log
  intro files
  induction files with
  | nil => exact fun log => ⟨[], by simp [getEmbeddedFiles]⟩
  | cons filename files ih =>
    intro log
    obtain ⟨es, hes, hmem⟩ := callAll_log env.oracle [.createDirectoryIfMissing filename,
      .openFile filename, .copy filename, .sync filename]
      (log ++ [.log .info "Extracting embedded file"])
    have hfile : ∀ e ∈ .log .info "Extracting embedded file" :: es, isExtraction e = true := by
      rintro e (_ | ⟨_, he⟩)
      · rfl
      · obtain ⟨c, hc, r, rfl⟩ := hmem e he
        simp only [List.mem_cons, List.mem_singleton, List.not_mem_nil, or_false] at hc
        rcases hc with rfl | rfl | rfl | rfl <;> rfl
    simp only [getEmbeddedFiles, extractEmbeddedFile] at hes ⊢
    split
    · rename_i e log' heq
      rw [heq] at hes
      simp only at hes
      exact ⟨_, by simp [hes], hfile⟩
    · rename_i log' heq
      rw [heq] at hes
      simp only at hes
      subst hes
      obtain ⟨es', hes', hmem'⟩ := ih (log ++ [.log .info "Extracting embedded file"] ++ es)
      refine ⟨.log .info "Extracting embedded file" :: es ++ es', by simpa using hes', ?_⟩
      intro e he
      rcases List.mem_append.1 he with he | he
      · exact hfile e he
      · exact hmem' e he

/-- Every run of `callAll`: every call returns `nil`, or the calls before one return `nil`,
that one fails, and nothing after it is called. -/
theorem callAll_eq (o : Oracle) : ∀ (ops : List Call) (log : List Event),
    callAll o ops log = (none, log ++ ops.map (.call · none)) ∨
      ∃ done c rest e, ops = done ++ c :: rest ∧
        callAll o ops log = (some e, log ++ done.map (.call · none) ++ [.call c (some e)])
  | [], log => .inl (by simp [callAll])
  | c :: ops, log => by
    cases h : o log c with
    | some e => exact .inr ⟨[], c, ops, e, rfl, by simp [callAll, h]⟩
    | none =>
      rcases callAll_eq o ops (log ++ [.call c none]) with heq | ⟨done, c', rest, e, hops, heq⟩
      · exact .inl (by simp [callAll, h, heq])
      · exact .inr ⟨c :: done, c', rest, e, by simp [hops], by simp [callAll, h, heq]⟩

/-- The file operations of the callback on one file, in order. -/
def fileOperations (filename : String) : List Call :=
  [.createDirectoryIfMissing filename, .openFile filename, .copy filename, .sync filename]

/-- What the extraction of one file records when every operation returns `nil`. -/
def fileExtracted (filename : String) : List Event :=
  .log .info "Extracting embedded file" :: (fileOperations filename).map (.call · none)

/-- Every run of the extraction over `files`: the files before `rest` extracted in full,
then nothing, or a first failing operation on the head of `rest` and nothing after it. -/
theorem getEmbeddedFiles_eq (o : Oracle) : ∀ (files : List String) (log : List Event),
    ∃ extracted rest, files = extracted ++ rest ∧
      ((rest = [] ∧ (getEmbeddedFiles (extractEmbeddedFile o) files log).2 =
          log ++ extracted.flatMap fileExtracted) ∨
        ∃ filename done c post e, rest.head? = some filename ∧
          fileOperations filename = done ++ c :: post ∧
          (getEmbeddedFiles (extractEmbeddedFile o) files log).2 =
            log ++ extracted.flatMap fileExtracted ++ .log .info "Extracting embedded file" ::
              done.map (.call · none) ++ [.call c (some e)])
  | [], log => ⟨[], [], rfl, .inl ⟨rfl, by simp [getEmbeddedFiles]⟩⟩
  | filename :: files, log => by
    rcases callAll_eq o (fileOperations filename) (log ++ [.log .info "Extracting embedded file"])
      with heq | ⟨done, c, post, e, hops, heq⟩
    · obtain ⟨extracted, rest, hfiles, hrun⟩ :=
        getEmbeddedFiles_eq o files (log ++ fileExtracted filename)
      have hfile : extractEmbeddedFile o filename log = (none, log ++ fileExtracted filename) := by
        simpa [fileExtracted] using heq
      refine ⟨filename :: extracted, rest, by simp [hfiles], ?_⟩
      simp only [getEmbeddedFiles, hfile, List.flatMap_cons, ← List.append_assoc]
      exact hrun
    · have hfile : extractEmbeddedFile o filename log = (some e, log ++
          .log .info "Extracting embedded file" :: done.map (.call · none) ++
            [.call c (some e)]) := by
        simpa using heq
      exact ⟨[], filename :: files, rfl, .inr ⟨filename, done, c, post, e, rfl, hops,
        by simp [getEmbeddedFiles, hfile]⟩⟩

/-- `extractEmbeddedFiles` extracts the embedded files in order, each by creating its
directory, opening its target, copying and syncing; the first operation that fails ends
that file and the whole extraction, with nothing after it attempted, and its error is
dropped. -/
theorem extractEmbeddedFiles_eq (env : Env) (log : List Event) :
    (extractEmbeddedFiles env log).1 = none ∧
      ∃ extracted rest, env.embeddedFiles = extracted ++ rest ∧
        ((rest = [] ∧ (extractEmbeddedFiles env log).2 = log ++ extracted.flatMap fileExtracted) ∨
          ∃ filename done c post e, rest.head? = some filename ∧
            fileOperations filename = done ++ c :: post ∧
            (extractEmbeddedFiles env log).2 =
              log ++ extracted.flatMap fileExtracted ++ .log .info "Extracting embedded file" ::
                done.map (.call · none) ++ [.call c (some e)]) :=
  ⟨rfl, getEmbeddedFiles_eq env.oracle env.embeddedFiles log⟩

end Servers

end K8sTew
