import K8sTew.Deployment.Properties
set_option autoImplicit false

/-!
# Deployment: the configuration `SetNode` leaves behind

`deployment.config` is one `*config.InternalConfig` shared by every phase of `Deploy`.
The upload loop, the taint loop and the pull loop each call `SetNode` for every sorted
node key, which overwrites the configuration's current node; `runBoostrapperCommands` calls
no `SetNode` but renders each command with `ApplyTemplate` against whatever node the loops
before it left there.  So every bootstrapper command is rendered against the last node of
the sorted keys, whichever node carries the bootstrapper label.

`setNodes` is what a loop that visits every key does to the configuration; a loop that
returns `nil` has done exactly that (`uploadFiles_setNodes`, `configureTaints_setNodes`,
`pullNodeImages_setNodes`), and doing it twice is doing it once (`setNodes_setNodes`).
-/

namespace K8sTew

theorem InternalConfig.setNode_eq_of_config {ic ic' : InternalConfig}
    (h : ic.config = ic'.config) (name : String) (node : Node) :
    ic.setNode name node = ic'.setNode name node := by
  cases ic
  cases ic'
  simp_all [InternalConfig.setNode]

namespace Deployment

variable (d : Deployment)

/-- `SetNode(nodeName, nodeDeployment.node)` for each key of `keys` in order; a key with no
node deployment is skipped (a loop that meets one returns the `nil` dereference). -/
def setNodes (keys : List String) (ic : InternalConfig) : InternalConfig :=
  keys.foldl (fun ic nodeName =>
    match d.nodes.lookup nodeName with
    | some nodeDeployment => ic.setNode nodeName nodeDeployment.node
    | none => ic) ic

theorem setNodes_cons_some {nodeName : String} {nodeDeployment : NodeDeployment}
    (h : d.nodes.lookup nodeName = some nodeDeployment) (rest : List String)
    (ic : InternalConfig) :
    d.setNodes (nodeName :: rest) ic =
      d.setNodes rest (ic.setNode nodeName nodeDeployment.node) := by
  simp [setNodes, h]

@[simp] theorem setNodes_config (keys : List String) (ic : InternalConfig) :
    (d.setNodes keys ic).config = ic.config := by
  induction keys generalizing ic with
  | nil => rfl
  | cons nodeName rest ih =>
    cases h : d.nodes.lookup nodeName with
    | none => simpa [setNodes, h] using ih ic
    | some nodeDeployment => simpa [setNodes_cons_some d h] using ih _

/-- Once a key with a node deployment is among `keys`, `setNodes` reads no more of the
configuration than its cluster part. -/
theorem setNodes_congr {keys : List String} (hfound : ∃ k ∈ keys, d.nodes.lookup k ≠ none)
    {ic ic' : InternalConfig} (h : ic.config = ic'.config) :
    d.setNodes keys ic = d.setNodes keys ic' := by
  induction keys generalizing ic ic' with
  | nil => simp at hfound
  | cons nodeName rest ih =>
    cases hk : d.nodes.lookup nodeName with
    | some nodeDeployment =>
      rw [setNodes_cons_some d hk, setNodes_cons_some d hk,
        InternalConfig.setNode_eq_of_config h]
    | none =>
      obtain ⟨k, hmem, hlookup⟩ := hfound
      rcases List.mem_cons.1 hmem with rfl | hmem
      · exact absurd hk hlookup
      · simpa [setNodes, hk] using ih ⟨k, hmem, hlookup⟩ h

theorem setNodes_of_none {keys : List String} (h : ∀ k ∈ keys, d.nodes.lookup k = none)
    (ic : InternalConfig) : d.setNodes keys ic = ic := by
  induction keys with
  | nil => rfl
  | cons nodeName rest ih =>
    simpa [setNodes, h nodeName (List.mem_cons_self _ _)] using
      ih fun k hk => h k (List.mem_cons_of_mem _ hk)

/-- Setting the nodes twice is setting them once. -/
theorem setNodes_setNodes (keys : List String) (ic : InternalConfig) :
    d.setNodes keys (d.setNodes keys ic) = d.setNodes keys ic := by
  by_cases hfound : ∃ k ∈ keys, d.nodes.lookup k ≠ none
  · exact d.setNodes_congr hfound (setNodes_config d keys ic)
  · push_neg at hfound
    rw [setNodes_of_none d hfound, setNodes_of_none d hfound]

/-- The last key wins. -/
theorem setNodes_of_getLast? {keys : List String} {k : String}
    (hlast : keys.getLast? = some k) {nodeDeployment : NodeDeployment}
    (hk : d.nodes.lookup k = some nodeDeployment) (ic : InternalConfig) :
    d.setNodes keys ic = ic.setNode k nodeDeployment.node := by
  obtain ⟨init, rfl⟩ := List.getLast?_eq_some_iff.1 hlast
  simp only [setNodes, List.foldl_append, List.foldl_cons, List.foldl_nil, hk]
  exact InternalConfig.setNode_eq_of_config (setNodes_config d init ic) _ _

/-! ## What each loop leaves -/

theorem uploadFiles_setNodes (o : Oracle) : ∀ (keys : List String) (st : DeployState),
    (d.uploadFiles o keys st).1 = none →
      (d.uploadFiles o keys st).2.config = d.setNodes keys st.config ∧
        ∀ k ∈ keys, d.nodes.lookup k ≠ none
  | [], _, _ => ⟨rfl, by simp⟩
  | k :: rest, st, hok => by
    unfold uploadFiles at hok ⊢
    split at hok
    · cases hok
    · rename_i nodeDeployment hlookup
      dsimp only at hok ⊢
      split at hok
      · cases hok
      · obtain ⟨hconfig, hkeys⟩ := uploadFiles_setNodes o rest _ hok
        refine ⟨by rw [hconfig, setNodes_cons_some d hlookup]; rfl, fun k' hk' => ?_⟩
        rcases List.mem_cons.1 hk' with rfl | hk'
        · simp [hlookup]
        · exact hkeys k' hk'

theorem configureTaints_setNodes (o : Oracle) :
    ∀ (keys : List String) (error : Option Error) (st : DeployState),
    (d.configureTaints o keys error st).1 = none →
      (d.configureTaints o keys error st).2.config = d.setNodes keys st.config
  | [], _, _, _ => rfl
  | k :: rest, error, st, hok => by
    unfold configureTaints at hok ⊢
    split at hok
    · cases hok
    · rename_i nodeDeployment hlookup
      dsimp only at hok ⊢
      split at hok
      · cases hok
      · rw [configureTaints_setNodes o rest none _ hok, setNodes_cons_some d hlookup]
        rfl

theorem pullNodeImages_setNodes (env : Env) : ∀ (keys : List String) (st : DeployState),
    (d.pullNodeImages env keys st).1 = none →
      (d.pullNodeImages env keys st).2.config = d.setNodes keys st.config
  | [], _, _ => rfl
  | k :: rest, st, hok => by
    unfold pullNodeImages at hok ⊢
    split at hok
    · cases hok
    · rename_i nodeDeployment hlookup
      dsimp only at hok ⊢
      split at hok
      · cases hok
      · rw [pullNodeImages_setNodes env rest _ hok, setNodes_cons_some d hlookup]
        rfl

/-! ## Rendering against the last node -/

/-- A `setup` that returns `nil`, from a configuration at which every sorted key's node has
been set already, leaves the configuration as it found it and renders every command it
runs against it. -/
theorem setup_renders (env : Env) (st : DeployState)
    (hfixed : d.setNodes (env.getSortedNodeKeys st.config.config) st.config = st.config)
    (hok : (d.setup env st).1 = none) :
    (d.setup env st).2.config = st.config ∧
      ∃ es, (d.setup env st).2.log = st.log ++ es ∧
        ∀ rendered, .runCommand rendered ∈ calls es →
          ∃ command ∈ st.config.config.commands,
          env.hasLabels command.labels [nodeBootstrapper] = true ∧
          env.hasFeatures command.features d.skipSetupFeatures = false ∧
          env.applyTemplate st.config command.name command.command = .ok rendered := by
  unfold setup at hok ⊢
  cases hskip : d.skipSetup
  · simp only [hskip, Bool.false_eq_true, if_false] at hok ⊢
    obtain ⟨ts, hts, -, htaints, -⟩ := d.configureTaints_spec env.oracle
      (env.getSortedNodeKeys st.config.config) none st
    unfold runConfigureTaints at hok ⊢
    split at hok
    · cases hok
    · rename_i st₁ hr
      have hconfig₁ := d.configureTaints_setNodes env.oracle _ none st (by rw [hr])
      rw [hr, hfixed] at hconfig₁
      rw [hr] at hts
      simp only at hts hconfig₁
      obtain ⟨ps, hps, -, hpulls, -, -⟩ := d.runPullImages_spec env st₁
      split at hok
      · cases hok
      · rename_i st₂ hr₂
        have hconfig₂ : st₂.config = st.config := by
          unfold runPullImages at hr₂
          cases hpull : d.pullImages
          · simpa [hpull, hconfig₁] using (congrArg (·.2.config) hr₂).symm
          · simp only [hpull, Bool.not_true, Bool.false_eq_true, if_false] at hr₂
            have h := d.pullNodeImages_setNodes env _ st₁ (by rw [hr₂])
            rw [hr₂, hconfig₁, hfixed] at h
            exact h
        rw [hr₂] at hps
        simp only at hps
        obtain ⟨rs, hrs, hkeep, hruns, -⟩ := d.bootstrapperCommands_spec env
          st₂.config.config.commands st₂
        refine ⟨by rw [runBoostrapperCommands, hkeep, hconfig₂], ts ++ ps ++ rs,
          by simp [runBoostrapperCommands, hrs, hps, hts], fun rendered hmem => ?_⟩
        simp only [calls_append, List.mem_append] at hmem
        rcases hmem with (hmem | hmem) | hmem
        · obtain ⟨_, -, h⟩ := htaints _ hmem
          cases h
        · obtain ⟨_, -, _, -, -, h⟩ := hpulls _ hmem
          cases h
        · obtain ⟨command, hmem', hl, hf, rendered', hrender, h⟩ := hruns _ hmem
          cases h
          exact ⟨command, by simpa [hconfig₂] using hmem', hl, hf, hconfig₂ ▸ hrender⟩
  · exact ⟨by simp [hskip], [], by simp [hskip], by simp⟩

/-- `SetNode` leaves the shared configuration at the last node of the sorted keys, and the
bootstrapper commands are rendered against it.  After a `Deploy` that returns `nil`, the
configuration is the one it started from with the last sorted key's node set; and every
`utils.RunCommand` that `Deploy` ran is the rendering, against that configuration, of a
bootstrapper command no skipped feature covers, whichever node carries the bootstrapper
label. -/
theorem deploy_renders_against_last_node (env : Env) (st : DeployState) (k : String)
    (hlast : (env.getSortedNodeKeys st.config.config).getLast? = some k)
    (hok : (d.deploy env st).1 = none) :
    ∃ nodeDeployment, d.nodes.lookup k = some nodeDeployment ∧
      (d.deploy env st).2.config =
        st.config.setNode k nodeDeployment.node ∧
      ∃ es, (d.deploy env st).2.log = st.log ++ es ∧
        ∀ rendered, .runCommand rendered ∈ calls es →
          ∃ command ∈ st.config.config.commands,
          env.hasLabels command.labels [nodeBootstrapper] = true ∧
          env.hasFeatures command.features d.skipSetupFeatures = false ∧
          env.applyTemplate (st.config.setNode k nodeDeployment.node)
            command.name command.command = .ok rendered := by
  obtain ⟨us, hus, hkeep, -, huploads, -⟩ := d.uploadFiles_spec env.oracle
    (env.getSortedNodeKeys st.config.config) st
  unfold deploy at hok ⊢
  split at hok
  · cases hok
  · rename_i st₁ hr
    obtain ⟨hconfig₁, hfound⟩ := d.uploadFiles_setNodes env.oracle _ st (by rw [hr])
    rw [hr] at hus hkeep hconfig₁
    obtain ⟨nodeDeployment, hnd⟩ :=
      Option.ne_none_iff_exists'.1 (hfound k (List.mem_of_getLast?_eq_some hlast))
    have hlastcfg := d.setNodes_of_getLast? hlast hnd st.config
    have hfixed :
        d.setNodes (env.getSortedNodeKeys st₁.config.config) st₁.config = st₁.config := by
      rw [hconfig₁, setNodes_config, setNodes_setNodes]
    obtain ⟨hconfig, rs, hrs, hruns⟩ := d.setup_renders env st₁ hfixed hok
    refine ⟨nodeDeployment, hnd, by rw [hconfig, hconfig₁, hlastcfg], us ++ rs,
      by rw [hrs, hus, List.append_assoc], fun rendered hmem => ?_⟩
    rw [calls_append, List.mem_append] at hmem
    rcases hmem with hmem | hmem
    · obtain ⟨_, -, h⟩ := huploads _ hmem
      cases h
    · obtain ⟨command, hmem', hl, hf, hrender⟩ := hruns rendered hmem
      rw [hconfig₁, hlastcfg] at hrender
      exact ⟨command, hkeep ▸ hmem', hl, hf, hrender⟩

/-- The witness of `deploy_renders_against_last_node`: of the three sample nodes,
`worker00` sorts last, and the bootstrapper command is rendered with it as the current
node. -/
theorem deploy_renders_against_last_node_sample :
    ((sampleEnv allSucceed).getSortedNodeKeys
        (sampleState [bootstrapCommand]).config.config).getLast? = some "worker00" ∧
    ((sampleDeployment [bootstrapCommand] 1).deploy (sampleEnv allSucceed)
        (sampleState [bootstrapCommand])).1 = none ∧
    ∃ nodeDeployment, (sampleDeployment [bootstrapCommand] 1).nodes.lookup "worker00" =
        some nodeDeployment ∧
      ((sampleDeployment [bootstrapCommand] 1).deploy (sampleEnv allSucceed)
          (sampleState [bootstrapCommand])).2.config =
        (sampleState [bootstrapCommand]).config.setNode "worker00"
          nodeDeployment.node ∧
      ∃ es, ((sampleDeployment [bootstrapCommand] 1).deploy (sampleEnv allSucceed)
          (sampleState [bootstrapCommand])).2.log = (sampleState [bootstrapCommand]).log ++ es ∧
        ∀ rendered, .runCommand rendered ∈ calls es →
          ∃ command ∈ (sampleState [bootstrapCommand]).config.config.commands,
            (sampleEnv allSucceed).hasLabels command.labels [nodeBootstrapper] = true ∧
            (sampleEnv allSucceed).hasFeatures command.features
              (sampleDeployment [bootstrapCommand] 1).skipSetupFeatures = false ∧
            (sampleEnv allSucceed).applyTemplate
              ((sampleState [bootstrapCommand]).config.setNode "worker00"
                nodeDeployment.node) command.name command.command = .ok rendered :=
  ⟨by decide, by decide, deploy_renders_against_last_node (sampleDeployment [bootstrapCommand] 1)
    (sampleEnv allSucceed) (sampleState [bootstrapCommand]) "worker00" (by decide) (by decide)⟩

end Deployment

end K8sTew
