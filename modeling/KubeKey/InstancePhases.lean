import KubeKey.ConditionStore

/-! The phases of the KKInstance controller (`kkinstance_controller_phase.go`).
Each install phase is the same shape around its own body: it returns at once
when its condition is already `True`, and a deferred closure marks the
condition from the returned error. `guardedPhase` is that shape, and the lemmas
about it are what the run invariant is assembled from.

The host is an oracle: the `n`-th service call of one phase execution gets the
`n`-th reply, so every pattern of remote successes and failures is an input.
The calls a phase issues are returned, in order, as data. The ping with its
three attempts and the deletion phase are specified the same way. -/
namespace KubeKey.InstancePhases
open KubeKey.ConditionStore

/-- `infrav1.Distribution`, with the two values `phaseFactory` switches on. -/
inductive Distribution
  | kubernetes
  | k3s
  | other (name : String)
  deriving DecidableEq, Repr

/-- `infrav1.InstanceState`. -/
inductive InstanceState
  | pending
  | bootstrapping
  | running
  | cleaning
  | succeeded
  | failed
  deriving DecidableEq, Repr

/-- The part of a `KKInstance` the phases read and write. -/
structure KKInstance where
  state : InstanceState
  /-- `instanceScope.ContainerManager().CRISocket`. -/
  criSocket : String
  conditions : Conditions

/-- The reconciler's field the phases read. -/
structure Reconciler where
  waitKKInstanceTimeout : Nat

/-- A call a phase makes on the host through one of its services. -/
inductive ServiceCall
  | ping
  | addUsers
  | setHostname
  | createDirectory
  | resetTmpDirectory
  | execInitScript
  | kubeadmReset (criSocket : String)
  | resetNetwork
  | removeFiles
  | daemonReload
  | uninstallK3s
  | repositoryCheck
  | repositoryGet (timeout : Nat)
  | mountISO
  | umountISO
  | updateAndInstall
  | binaryDownload (timeout : Nat)
  | containerManagerIsExist
  | containerManagerGet (timeout : Nat)
  | containerManagerInstall
  | sudoCmd (command : String)
  deriving DecidableEq, Repr

/-- What the host and the management cluster answer during one phase execution. -/
structure Answers where
  /-- The error the `n`-th call of the execution returns, if it fails. -/
  reply : Nat → Option String
  /-- `svc.IsExist()` of the container manager service. -/
  containerManagerExists : Bool
  /-- `GetRawBootstrapDataWithFormat`: the payload and its format, or the error. -/
  bootstrapData : Except String (String × String)
  /-- `RawBootstrapDataToProvisioningCommands` of the provisioning service for a
  format: each command as its `String()` renders it, or the error. -/
  provisioningCommands : String → String → Except String (List String)

/-- One service call: it is issued, and answers with the reply for its position. -/
def Answers.call (a : Answers) (issued : List ServiceCall) (op : ServiceCall) :
    Option String × List ServiceCall :=
  (a.reply issued.length, issued ++ [op])

/-- `if err := svc.Op(); err != nil { return err }` for each call in turn. -/
def Answers.chain (a : Answers) (issued : List ServiceCall) :
    List ServiceCall → Option String × List ServiceCall
  | [] => (none, issued)
  | op :: ops =>
    match a.reply issued.length with
    | some e => (some e, issued ++ [op])
    | none => a.chain (issued ++ [op]) ops

/-- `errors.Wrap(err, message).Error()`. -/
def wrap (message err : String) : String := message ++ ": " ++ err

/-- What one phase function leaves behind: the instance, its returned error, and
the calls it made. -/
structure PhaseResult where
  kkInstance : KKInstance
  err : Option String
  issued : List ServiceCall

/-- The deferred closure of every phase: `MarkFalse` with the error's text as
the message when the phase returns an error, `MarkTrue` otherwise. -/
def markResult (t : ConditionType) (reason : Reason) (severity : ConditionSeverity) :
    Option String → Conditions → Conditions
  | some e, cs => markFalse cs t reason severity e []
  | none, cs => markTrue cs t

/-- The shape of every install phase: `nil` at once when `t` is already `True`,
otherwise the body; then the deferred closure marks `t` from the error. -/
def guardedPhase (t : ConditionType) (reason : Reason) (severity : ConditionSeverity)
    (body : Answers → KKInstance → PhaseResult) (a : Answers) (inst : KKInstance) :
    PhaseResult :=
  let run := if isTrue inst.conditions t then ⟨inst, none, []⟩ else body a inst
  let marked := markResult t reason severity run.err run.kkInstance.conditions
  { run with kkInstance := { run.kkInstance with conditions := marked } }

/-! ## The five install phases -/

/-- The body of `reconcileBootstrap` after its guard. -/
def bootstrapBody (a : Answers) (inst : KKInstance) : PhaseResult :=
  let (err, issued) := a.chain []
    [.addUsers, .setHostname, .createDirectory, .resetTmpDirectory, .execInitScript]
  ⟨{ inst with state := .bootstrapping }, err, issued⟩

/-- The body of `reconcileRepository`: the deferred `UmountISO` runs on every
path after `MountISO`, and its error is dropped. -/
def repositoryBody (r : Reconciler) (a : Answers) (inst : KKInstance) : PhaseResult :=
  match a.chain [] [.repositoryCheck, .repositoryGet r.waitKKInstanceTimeout] with
  | (some e, issued) => ⟨inst, some e, issued⟩
  | (none, issued) =>
    let (mounted, issued) := a.call issued .mountISO
    let (err, issued) :=
      match mounted with
      | some e => (some e, issued)
      | none => a.call issued .updateAndInstall
    ⟨inst, err, (a.call issued .umountISO).2⟩

/-- The body of `reconcileBinaryService`. -/
def binaryServiceBody (r : Reconciler) (a : Answers) (inst : KKInstance) : PhaseResult :=
  let (err, issued) := a.chain [] [.binaryDownload r.waitKKInstanceTimeout]
  ⟨inst, err, issued⟩

/-- The body of `reconcileContainerManager`: an existing runtime skips the install. -/
def containerManagerBody (r : Reconciler) (a : Answers) (inst : KKInstance) : PhaseResult :=
  if a.containerManagerExists then ⟨inst, none, [.containerManagerIsExist]⟩
  else
    let (err, issued) := a.chain [.containerManagerIsExist]
      [.containerManagerGet r.waitKKInstanceTimeout, .containerManagerInstall]
    ⟨inst, err, issued⟩

/-- The body of `reconcileProvisioning`: fetch the payload, turn it into
commands, and send them to `SudoCmd` in order until one fails. -/
def provisioningBody (a : Answers) (inst : KKInstance) : PhaseResult :=
  match a.bootstrapData with
  | .error e => ⟨inst, some e, []⟩
  | .ok (bootstrapData, format) =>
    match a.provisioningCommands format bootstrapData with
    | .error e => ⟨inst, some (wrap "failed to join a control plane node with kubeadm" e), []⟩
    | .ok commands =>
      let (err, issued) := a.chain [] (commands.map .sudoCmd)
      ⟨inst, err.map (wrap "failed to run cloud config"), issued⟩

/-- `Reconciler.reconcileBootstrap`. -/
def reconcileBootstrap (_ : Reconciler) : Answers → KKInstance → PhaseResult :=
  guardedPhase .kkInstanceBootstrapped .kkInstanceInitOSFailed .warning bootstrapBody

/-- `Reconciler.reconcileRepository`. -/
def reconcileRepository (r : Reconciler) : Answers → KKInstance → PhaseResult :=
  guardedPhase .kkInstanceRepositoryReady .kkInstanceRepositoryFailed .warning
    (repositoryBody r)

/-- `Reconciler.reconcileBinaryService`. -/
def reconcileBinaryService (r : Reconciler) : Answers → KKInstance → PhaseResult :=
  guardedPhase .kkInstanceBinariesReady .kkInstanceGetBinaryFailed .error
    (binaryServiceBody r)

/-- `Reconciler.reconcileContainerManager`. -/
def reconcileContainerManager (r : Reconciler) : Answers → KKInstance → PhaseResult :=
  guardedPhase .kkInstanceCRIReady .kkInstanceInstallCRIFailed .error
    (containerManagerBody r)

/-- `Reconciler.reconcileProvisioning`. -/
def reconcileProvisioning (_ : Reconciler) : Answers → KKInstance → PhaseResult :=
  guardedPhase .kkInstanceProvisioned .kkInstanceRunCloudConfigFailed .error
    provisioningBody

/-- The install phases, as the function values `phaseFactory` lists. -/
inductive Phase
  | bootstrap
  | repository
  | binaryService
  | containerManager
  | provisioning
  deriving DecidableEq, Repr

/-- The phase function each entry of the list stands for. -/
def Phase.run (r : Reconciler) : Phase → Answers → KKInstance → PhaseResult
  | .bootstrap => reconcileBootstrap r
  | .repository => reconcileRepository r
  | .binaryService => reconcileBinaryService r
  | .containerManager => reconcileContainerManager r
  | .provisioning => reconcileProvisioning r

/-- `Reconciler.phaseFactory`: the container manager phase only for Kubernetes,
and no phase for a distribution the switch does not name. -/
def phaseFactory : Distribution → List Phase
  | .kubernetes => [.bootstrap, .repository, .binaryService, .containerManager, .provisioning]
  | .k3s => [.bootstrap, .repository, .binaryService, .provisioning]
  | .other _ => []

/-- `Reconciler.reconcilePing`: up to three pings, stopping at the first that answers. -/
def reconcilePing (a : Answers) : Option String × List ServiceCall :=
  attempt 3 none []
where
  attempt : Nat → Option String → List ServiceCall → Option String × List ServiceCall
    | 0, err, issued => (err, issued)
    | n + 1, _, issued =>
      match a.call issued .ping with
      | (none, issued) => (none, issued)
      | (some e, issued) => attempt n (some e) issued

/-- `Reconciler.reconcileDeletingBootstrap`: no guard; the instance is set to
`Cleaning` and the five clean-up calls run until one fails. -/
def reconcileDeletingBootstrap (a : Answers) (inst : KKInstance) : PhaseResult :=
  let (err, issued) := a.chain []
    [.kubeadmReset inst.criSocket, .resetNetwork, .removeFiles, .daemonReload, .uninstallK3s]
  ⟨{ state := .cleaning, criSocket := inst.criSocket,
      conditions := markResult .kkInstanceDeletingBootstrap .kkInstanceClearEnvironmentFailed
        .warning err inst.conditions }, err, issued⟩

/-! ## What a phase does to the conditions -/

/-- The condition each install phase guards on and marks. -/
def Phase.condition : Phase → ConditionType
  | .bootstrap => .kkInstanceBootstrapped
  | .repository => .kkInstanceRepositoryReady
  | .binaryService => .kkInstanceBinariesReady
  | .containerManager => .kkInstanceCRIReady
  | .provisioning => .kkInstanceProvisioned

/-- The reason each install phase writes on failure. -/
def Phase.reason : Phase → Reason
  | .bootstrap => .kkInstanceInitOSFailed
  | .repository => .kkInstanceRepositoryFailed
  | .binaryService => .kkInstanceGetBinaryFailed
  | .containerManager => .kkInstanceInstallCRIFailed
  | .provisioning => .kkInstanceRunCloudConfigFailed

/-- The severity each install phase writes on failure. -/
def Phase.severity : Phase → ConditionSeverity
  | .bootstrap | .repository => .warning
  | .binaryService | .containerManager | .provisioning => .error

/-- The body each install phase runs after its guard. -/
def Phase.body (r : Reconciler) : Phase → Answers → KKInstance → PhaseResult
  | .bootstrap => bootstrapBody
  | .repository => repositoryBody r
  | .binaryService => binaryServiceBody r
  | .containerManager => containerManagerBody r
  | .provisioning => provisioningBody

theorem Phase.run_eq (r : Reconciler) (p : Phase) :
    p.run r = guardedPhase p.condition p.reason p.severity (p.body r) := by
  cases p <;> rfl

theorem Phase.condition_injective : Function.Injective Phase.condition := by
  intro p q same
  cases p <;> cases q <;> first | rfl | cases same

/-- No body touches the conditions; only the deferred closure does. -/
theorem Phase.body_conditions (r : Reconciler) (p : Phase) (a : Answers) (inst : KKInstance) :
    (p.body r a inst).kkInstance.conditions = inst.conditions := by
  cases p <;> simp only [Phase.body, bootstrapBody, repositoryBody, binaryServiceBody,
    containerManagerBody, provisioningBody] <;> repeat' split
  all_goals rfl

/-- What the deferred closure leaves at the phase's condition. -/
def resultCondition (reason : Reason) (severity : ConditionSeverity) : Option String → Condition
  | some e => falseCondition reason severity e []
  | none => trueCondition

section Marking
variable {t t' : ConditionType} {reason : Reason} {severity : ConditionSeverity}
  {err : Option String} {cs : Conditions}

@[simp] theorem markResult_self :
    markResult t reason severity err cs t = some (resultCondition reason severity err) := by
  cases err <;> simp [markResult, resultCondition, markFalse, markTrue]

@[simp] theorem markResult_of_ne (other : t' ≠ t) : markResult t reason severity err cs t' = cs t' := by
  cases err <;> simp [markResult, markFalse, markTrue, other]

@[simp] theorem isTrue_markResult : isTrue (markResult t reason severity err cs) t = err.isNone := by
  cases err <;> simp [ConditionStore.isTrue, resultCondition, falseCondition, trueCondition]

end Marking

section Guarded
variable {t : ConditionType} {reason : Reason} {severity : ConditionSeverity}
  {body : Answers → KKInstance → PhaseResult} {a : Answers} {inst : KKInstance}

/-- A phase whose condition is already `True` returns `nil`, issues no call, and
marks its condition `True` again. -/
theorem guardedPhase_of_isTrue (done : isTrue inst.conditions t) :
    guardedPhase t reason severity body a inst =
      ⟨{ inst with conditions := markTrue inst.conditions t }, none, []⟩ := by
  simp [guardedPhase, done, markResult]

/-- The deferred closure is the only write to the conditions. -/
theorem guardedPhase_conditions (keeps : (body a inst).kkInstance.conditions = inst.conditions) :
    (guardedPhase t reason severity body a inst).kkInstance.conditions =
      markResult t reason severity (guardedPhase t reason severity body a inst).err
        inst.conditions := by
  by_cases done : isTrue inst.conditions t <;> simp [guardedPhase, done, keeps]

end Guarded

section Phases
variable (r : Reconciler) (p : Phase) (a : Answers) (inst : KKInstance)

/-- Every install phase writes its own condition, from the error it returns,
and no other. -/
theorem Phase.run_conditions :
    (p.run r a inst).kkInstance.conditions =
      markResult p.condition p.reason p.severity (p.run r a inst).err inst.conditions := by
  rw [Phase.run_eq]
  exact guardedPhase_conditions (Phase.body_conditions r p a inst)

/-- A phase returns `nil` exactly when its condition is `True` after it returns. -/
theorem Phase.isTrue_run :
    isTrue (p.run r a inst).kkInstance.conditions p.condition = (p.run r a inst).err.isNone := by
  rw [Phase.run_conditions, isTrue_markResult]

variable {r p a inst}

theorem Phase.run_of_isTrue (done : isTrue inst.conditions p.condition) :
    (p.run r a inst).err = none ∧ (p.run r a inst).issued = [] := by
  simp [Phase.run_eq, guardedPhase_of_isTrue done]

end Phases

/-! ## Call chains -/

section Chain
variable (a : Answers) {ops issued : List ServiceCall}

/-- A chain whose calls all succeed issues every call and returns `nil`. -/
theorem Answers.chain_of_ok (ok : ∀ i < ops.length, a.reply (issued.length + i) = none) :
    a.chain issued ops = (none, issued ++ ops) := by
  induction ops generalizing issued with
  | nil => simp [Answers.chain]
  | cons op ops ih =>
    have first : a.reply issued.length = none := ok 0 (by simp)
    have rest : ∀ i < ops.length, a.reply ((issued ++ [op]).length + i) = none := fun i bound => by
      simpa [Nat.add_assoc, Nat.add_comm 1] using ok (i + 1) (by simpa using bound)
    simp [Answers.chain, first, ih rest]

/-- A chain stops at its first failing call: the calls up to it are issued,
and its error is returned. -/
theorem Answers.chain_of_fail {i : Nat} {e : String} (bound : i < ops.length)
    (before : ∀ j < i, a.reply (issued.length + j) = none)
    (fails : a.reply (issued.length + i) = some e) :
    a.chain issued ops = (some e, issued ++ ops.take (i + 1)) := by
  induction ops generalizing issued i with
  | nil => simp at bound
  | cons op ops ih =>
    cases i with
    | zero =>
      rw [Nat.add_zero] at fails
      simp [Answers.chain, fails]
    | succ i =>
      have first : a.reply issued.length = none := before 0 (by omega)
      have later := @ih (issued ++ [op]) i (by simpa using bound)
        (fun j lt => by simpa [Nat.add_assoc, Nat.add_comm 1] using before (j + 1) (by omega))
        (by simpa [Nat.add_assoc, Nat.add_comm 1] using fails)
      simp [Answers.chain, first, later]

end Chain

/-! ## Provisioning -/

section Provisioning
variable (r : Reconciler) (a : Answers) (inst : KKInstance)

/-- `reconcileProvisioning` sends the parsed commands to `SudoCmd` in order and
stops at the first that fails: `Provisioned` ends `True` when every command
succeeds, and `False` with `RunCloudConfigFailed` and the wrapped error when
one fails. A failed fetch or parse, or a `True` condition, sends nothing. -/
theorem reconcileProvisioning_sends_commands_in_order :
    (isTrue inst.conditions .kkInstanceProvisioned →
      (reconcileProvisioning r a inst).issued = []) ∧
    (∀ e, a.bootstrapData = .error e → (reconcileProvisioning r a inst).issued = []) ∧
    (∀ bootstrapData format e, a.bootstrapData = .ok (bootstrapData, format) →
      a.provisioningCommands format bootstrapData = .error e →
        (reconcileProvisioning r a inst).issued = []) ∧
    (∀ bootstrapData format commands,
      isTrue inst.conditions .kkInstanceProvisioned = false →
      a.bootstrapData = .ok (bootstrapData, format) →
      a.provisioningCommands format bootstrapData = .ok commands →
      ((∀ i < commands.length, a.reply i = none) →
        (reconcileProvisioning r a inst).issued = commands.map .sudoCmd ∧
        isTrue (reconcileProvisioning r a inst).kkInstance.conditions .kkInstanceProvisioned) ∧
      (∀ i e, i < commands.length → (∀ j < i, a.reply j = none) → a.reply i = some e →
        (reconcileProvisioning r a inst).issued = (commands.take (i + 1)).map .sudoCmd ∧
        (reconcileProvisioning r a inst).kkInstance.conditions .kkInstanceProvisioned =
          some (falseCondition .kkInstanceRunCloudConfigFailed .error
            (wrap "failed to run cloud config" e) []))) := by
  have conditions := Phase.run_conditions r .provisioning a inst
  simp only [Phase.run] at conditions
  refine ⟨fun done => (Phase.run_of_isTrue (r := r) (p := .provisioning) done).2, ?_, ?_, ?_⟩
  · intro e fetch
    by_cases done : isTrue inst.conditions .kkInstanceProvisioned
    · exact (Phase.run_of_isTrue (r := r) (p := .provisioning) done).2
    · simp [reconcileProvisioning, guardedPhase, done, provisioningBody, fetch]
  · intro bootstrapData format e fetch parse
    by_cases done : isTrue inst.conditions .kkInstanceProvisioned
    · exact (Phase.run_of_isTrue (r := r) (p := .provisioning) done).2
    · simp [reconcileProvisioning, guardedPhase, done, provisioningBody, fetch, parse]
  · intro bootstrapData format commands pending fetch parse
    have body : ∀ err issued, a.chain [] (commands.map .sudoCmd) = (err, issued) →
        (reconcileProvisioning r a inst).issued = issued ∧
        (reconcileProvisioning r a inst).err = err.map (wrap "failed to run cloud config") := by
      intro err issued chained
      simp [reconcileProvisioning, guardedPhase, pending, provisioningBody, fetch, parse, chained]
    constructor
    · intro ok
      obtain ⟨issued, err⟩ := body none _ (a.chain_of_ok (by simpa using ok))
      refine ⟨by simpa using issued, ?_⟩
      simp [ConditionStore.isTrue, conditions, err, resultCondition, trueCondition, Phase.condition]
    · intro i e bound before fails
      obtain ⟨issued, err⟩ := body (some e) _
        (a.chain_of_fail (by simpa using bound) (by simpa using before) (by simpa using fails))
      refine ⟨by simpa [List.map_take] using issued, ?_⟩
      simp [conditions, err, resultCondition, Phase.condition, Phase.reason, Phase.severity]

end Provisioning

/-! ## Ping and deletion -/

/-- `reconcilePing` pings until one answers, three times at most: it returns
nil after the first answer, and the third error when none answers. -/
theorem reconcilePing_spec (a : Answers) :
    (∀ k < 3, (∀ j < k, (a.reply j).isSome) → a.reply k = none →
      reconcilePing a = (none, List.replicate (k + 1) .ping)) ∧
    ((∀ j < 3, (a.reply j).isSome) → reconcilePing a = (a.reply 2, List.replicate 3 .ping)) := by
  have unfolded : reconcilePing a =
      match a.reply 0, a.reply 1, a.reply 2 with
      | none, _, _ => (none, [.ping])
      | some _, none, _ => (none, [.ping, .ping])
      | some _, some _, err => (err, [.ping, .ping, .ping]) := by
    cases h0 : a.reply 0 <;> cases h1 : a.reply 1 <;> cases h2 : a.reply 2 <;>
      simp [reconcilePing, reconcilePing.attempt, Answers.call, h0, h1, h2]
  rw [unfolded]
  constructor
  · intro k bound earlier answers
    obtain rfl | rfl | rfl : k = 0 ∨ k = 1 ∨ k = 2 := by omega
    · simp [answers]
    · obtain ⟨e0, h0⟩ := Option.isSome_iff_exists.mp (earlier 0 (by omega))
      simp [answers, h0]
    · obtain ⟨e0, h0⟩ := Option.isSome_iff_exists.mp (earlier 0 (by omega))
      obtain ⟨e1, h1⟩ := Option.isSome_iff_exists.mp (earlier 1 (by omega))
      simp [answers, h0, h1]
  · intro failing
    obtain ⟨e0, h0⟩ := Option.isSome_iff_exists.mp (failing 0 (by omega))
    obtain ⟨e1, h1⟩ := Option.isSome_iff_exists.mp (failing 1 (by omega))
    simp [h0, h1]

/-- `reconcileDeletingBootstrap` sets the instance `Cleaning` and runs the five
clean-up calls in order until one fails: `DeletingBootstrap` ends `True` when
all succeed, and `False` with `ClearEnvironmentFailed`, severity `Warning` and
the error when one fails; no other condition changes. -/
theorem reconcileDeletingBootstrap_spec (a : Answers) (inst : KKInstance) :
    let calls := [ServiceCall.kubeadmReset inst.criSocket, .resetNetwork, .removeFiles,
      .daemonReload, .uninstallK3s]
    (reconcileDeletingBootstrap a inst).kkInstance.state = .cleaning ∧
    (∀ t, t ≠ .kkInstanceDeletingBootstrap →
      (reconcileDeletingBootstrap a inst).kkInstance.conditions t = inst.conditions t) ∧
    ((∀ i < 5, a.reply i = none) →
      (reconcileDeletingBootstrap a inst).err = none ∧
      (reconcileDeletingBootstrap a inst).issued = calls ∧
      (reconcileDeletingBootstrap a inst).kkInstance.conditions .kkInstanceDeletingBootstrap =
        some trueCondition) ∧
    ∀ i e, i < 5 → (∀ j < i, a.reply j = none) → a.reply i = some e →
      (reconcileDeletingBootstrap a inst).err = some e ∧
      (reconcileDeletingBootstrap a inst).issued = calls.take (i + 1) ∧
      (reconcileDeletingBootstrap a inst).kkInstance.conditions .kkInstanceDeletingBootstrap =
        some (falseCondition .kkInstanceClearEnvironmentFailed .warning e []) := by
  intro calls
  refine ⟨rfl, fun t other => markResult_of_ne other, fun ok => ?_,
    fun i e bound before fails => ?_⟩
  · have chained := @Answers.chain_of_ok a calls [] (by simpa using ok)
    simp only [reconcileDeletingBootstrap] at chained ⊢
    simp [chained, resultCondition]
  · have chained := @Answers.chain_of_fail a calls [] i e bound (by simpa using before)
      (by simpa using fails)
    simp only [reconcileDeletingBootstrap] at chained ⊢
    simp [chained, resultCondition]

end KubeKey.InstancePhases
