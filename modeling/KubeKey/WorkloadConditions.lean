import KubeKey.AggregateConditions

/-! `UpdateAgentConditions` and `UpdateEtcdConditions`: the best-effort passes
that read the workload cluster's control-plane nodes and write the machines'
`MachineAgentHealthy` and `MachineEtcdMemberHealthy` conditions, and the
KCP's aggregate conditions. The node listing and each node lookup are inputs,
with every outcome the client can give. The per-node loop of the agent pass
ends in one of two ways, and `AgentLoop` names them: it runs to its end, or a
failed lookup returns from the whole function.

The results follow the machines of one node (`onNode`) through the loops: a
listed node whose `NodeReady` is not `True` leaves its machines as they were; a
failed lookup anywhere in the listing leaves the KCP and the machines of
unlisted nodes unwritten; and a successful etcd listing never writes the KCP,
so over any history its `EtcdClusterHealthy` is the `Unknown` of a failed
listing or what it was at the start. -/
namespace KubeKey.WorkloadConditions
open KubeKey.ConditionStore KubeKey.ControlPlaneView KubeKey.AggregateConditions

/-- A `corev1.NodeCondition`, type and status. -/
structure NodeCondition where
  type : String
  status : ConditionStatus
  deriving DecidableEq, Repr

/-- A `corev1.Taint`, key and effect. -/
structure Taint where
  key : String
  effect : String
  deriving DecidableEq, Repr

/-- The part of a listed control-plane `corev1.Node` the passes read. -/
structure Node where
  name : String
  taints : List Taint
  deriving DecidableEq, Repr

/-- What `w.Client.Get` answers for a node: its status conditions, NotFound,
or another error. -/
inductive NodeLookup
  | found (conditions : List NodeCondition)
  | notFound
  | failed
  deriving DecidableEq, Repr

/-- `allMachinePodConditions`. -/
def allMachinePodConditions : List ConditionType := [.machineAgentHealthy]

/-- `nodeHasUnreachableTaint`. -/
def nodeHasUnreachableTaint (node : Node) : Bool :=
  node.taints.any fun taint =>
    taint.key == "node.kubernetes.io/unreachable" && taint.effect == "NoExecute"

/-- `hasProvisioningMachine`. -/
def hasProvisioningMachine (machines : List Machine) : Bool :=
  machines.any (·.nodeRef.isNone)

/-- The same mark for every condition of `allMachinePodConditions`. -/
def markAll (mark : Conditions → ConditionType → Conditions) (cs : Conditions) : Conditions :=
  allMachinePodConditions.foldl mark cs

/-- The mark applied to the first machine whose `NodeRef` names `node`: the
machine the search loop with `break` finds. -/
def markFirst (node : String) (f : Conditions → Conditions) : List Machine → List Machine
  | [] => []
  | m :: ms =>
    if m.nodeRef = some node then { m with conditions := f m.conditions } :: ms
    else m :: markFirst node f ms

/-- `MarkTrue` once per `NodeReady` condition with status `True`. -/
def markNodeReady (conditions : List NodeCondition) (cs : Conditions) : Conditions :=
  conditions.foldl (fun cs condition =>
    if condition.type = "Ready" ∧ condition.status = .conditionTrue then
      markTrue cs .machineAgentHealthy
    else cs) cs

/-- How the loop over the listed nodes of `UpdateAgentConditions` ends. -/
inductive AgentLoop
  | finished (machines : List Machine) (kcpErrors : List String)
  | returned (machines : List Machine)

/-- The machines an `AgentLoop` ends with. -/
def AgentLoop.machines : AgentLoop → List Machine
  | .finished machines _ => machines
  | .returned machines => machines

/-- What the body of the node loop does for one listed node: the marks it
applies to the node's machine, whether it returns, and the KCP errors it adds. -/
structure NodeStep where
  mark : Conditions → Conditions
  returns : Bool
  kcpErrors : List String

/-- The body of the loop of `UpdateAgentConditions` for `node`. The marks go to
the first machine whose `NodeRef` names the node, the one the search with
`break` finds; a node without one marks nothing. -/
def agentNodeStep (lookup : String → NodeLookup) (machines : List Machine) (node : Node) :
    NodeStep :=
  match machines.find? (·.nodeRef == some node.name) with
  | none =>
    if hasProvisioningMachine machines then ⟨id, false, []⟩
    else ⟨id, false, ["Control plane node " ++ node.name ++ " does not have a corresponding machine"]⟩
  | some machine =>
    if machine.deleting then
      ⟨markAll fun cs t => markFalse cs t .deleting .info "" [], false, []⟩
    else if nodeHasUnreachableTaint node then
      ⟨markAll fun cs t => markUnknown cs t .podInspectionFailed "Node is unreachable" [], false, []⟩
    else
      match lookup node.name with
      | .notFound =>
        ⟨(markFalse · .machineAgentHealthy .podMissing .error "Node %s is missing" [node.name]),
          true, []⟩
      | .failed =>
        ⟨(markUnknown · .machineAgentHealthy .podInspectionFailed "Failed to get node status" []),
          true, []⟩
      | .found conditions => ⟨markNodeReady conditions, false, []⟩

/-- The loop over the listed nodes of `UpdateAgentConditions`. -/
def agentNodeLoop (lookup : String → NodeLookup) :
    List Node → List Machine → List String → AgentLoop
  | [], machines, kcpErrors => .finished machines kcpErrors
  | node :: nodes, machines, kcpErrors =>
    let step := agentNodeStep lookup machines node
    if step.returns then .returned (markFirst node.name step.mark machines)
    else agentNodeLoop lookup nodes (markFirst node.name step.mark machines)
      (kcpErrors ++ step.kcpErrors)

/-- The body of the sweep after the node loop: a machine whose `NodeRef` names
no listed node is marked `False` with `PodFailed` and severity `Error`. -/
def sweepMachine (nodes : List Node) (m : Machine) : Machine :=
  match m.nodeRef with
  | none => m
  | some ref =>
    if nodes.any (·.name == ref) then m
    else { m with conditions := (markAll (fun cs t =>
      markFalse cs t .podFailed .error "Missing node" []) m.conditions) }

/-- The sweep after the node loop. -/
def missingNodeSweep (nodes : List Node) (machines : List Machine) : List Machine :=
  machines.map (sweepMachine nodes)

/-- `Workload.UpdateAgentConditions`, given the result of `getControlPlaneNodes`
and the answer of each node lookup. -/
def updateAgentConditions (listing : Except String (List Node)) (lookup : String → NodeLookup)
    (c : ControlPlane) : ControlPlane :=
  match listing with
  | .error _ =>
    { c with
      machines := c.machines.map fun m => { m with conditions := (markAll (fun cs t =>
        markUnknown cs t .podInspectionFailed
          "Failed to get the node which is hosting this component" []) m.conditions) }
      kcp := ⟨markUnknown c.kcp.conditions .controlPlaneComponentsHealthy
        .controlPlaneComponentsInspectionFailed
        "Failed to list nodes which are hosting control plane components" []⟩ }
  | .ok nodes =>
    match agentNodeLoop lookup nodes c.machines [] with
    | .returned machines => { c with machines := machines }
    | .finished machines kcpErrors =>
      aggregateFromMachinesToKCP ⟨{ c with machines := missingNodeSweep nodes machines },
        allMachinePodConditions, kcpErrors, .controlPlaneComponentsHealthy,
        .controlPlaneComponentsUnhealthy, .controlPlaneComponentsUnknown, "control plane"⟩

/-- The mark applied to the last machine whose `NodeRef` names `node`: the
machine the search loop without `break` ends on. -/
def markLast (node : String) (f : Conditions → Conditions) (machines : List Machine) :
    List Machine :=
  (markFirst node f machines.reverse).reverse

/-- The body of the loop of `updateManagedEtcdConditions` for `node`: the mark
for the last machine whose `NodeRef` names the node, the one the search without
`break` ends on. A node without a machine is passed over on both branches of the
source. -/
def etcdNodeStep (machines : List Machine) (node : Node) : Conditions → Conditions :=
  match machines.reverse.find? (·.nodeRef == some node.name) with
  | none => id
  | some machine =>
    if machine.deleting then (markFalse · .machineEtcdMemberHealthy .deleting .info "" [])
    else (markTrue · .machineEtcdMemberHealthy)

/-- The loop over the listed nodes of `updateManagedEtcdConditions`. -/
def etcdNodeLoop : List Node → List Machine → List Machine
  | [], machines => machines
  | node :: nodes, machines =>
    etcdNodeLoop nodes (markLast node.name (etcdNodeStep machines node) machines)

/-- `Workload.UpdateEtcdConditions`, which is `updateManagedEtcdConditions`. -/
def updateEtcdConditions (listing : Except String (List Node)) (c : ControlPlane) :
    ControlPlane :=
  match listing with
  | .error _ =>
    { kcp := ⟨markUnknown c.kcp.conditions .etcdClusterHealthy .etcdClusterInspectionFailed
        "Failed to list nodes which are hosting the etcd members" []⟩
      failureDomains := c.failureDomains
      machines := c.machines.map fun m => { m with conditions := (markUnknown m.conditions
        .machineEtcdMemberHealthy .etcdMemberInspectionFailed
        "Failed to get the node which is hosting the etcd member" []) } }
  | .ok nodes => { c with machines := etcdNodeLoop nodes c.machines }

/-! ## The machines of one node

Each pass marks a machine through `markFirst` or `markLast` under the name of
a listed node. So the machines whose `NodeRef` names a node `x`, taken in their
order, change only at the iterations for `x`; the lemmas below follow that list
through the loops. -/

/-- The machines whose `NodeRef` names `node`, in their order. -/
def onNode (node : String) (machines : List Machine) : List Machine :=
  machines.filter (·.nodeRef == some node)

section OnNode
variable {node x : String} {f : Conditions → Conditions}

theorem markFirst_cons_of_named {m : Machine} (machines : List Machine)
    (named : m.nodeRef = some node) :
    markFirst node f (m :: machines) = { m with conditions := f m.conditions } :: machines := by
  simp [markFirst, named]

theorem markFirst_cons_of_ne {m : Machine} (machines : List Machine)
    (other : m.nodeRef ≠ some node) :
    markFirst node f (m :: machines) = m :: markFirst node f machines := by
  simp [markFirst, other]

theorem onNode_markFirst_of_ne (machines : List Machine) (other : node ≠ x) :
    onNode x (markFirst node f machines) = onNode x machines := by
  induction machines with
  | nil => rfl
  | cons m ms ih =>
    by_cases named : m.nodeRef = some node
    · have skip : (m.nodeRef == some x) = false := by simpa [named] using other
      rw [markFirst_cons_of_named _ named]
      simp only [onNode, List.filter_cons, skip] at ih ⊢
      exact ih.symm ▸ rfl
    · rw [markFirst_cons_of_ne _ named]
      simp only [onNode, List.filter_cons] at ih ⊢
      rw [ih]

theorem onNode_markFirst (machines : List Machine) :
    onNode x (markFirst x f machines) = markFirst x f (onNode x machines) := by
  induction machines with
  | nil => rfl
  | cons m ms ih =>
    by_cases named : m.nodeRef = some x
    · have hit : (m.nodeRef == some x) = true := by simp [named]
      rw [markFirst_cons_of_named _ named]
      simp only [onNode, List.filter_cons, hit, if_true]
      rw [markFirst_cons_of_named _ named]
    · rw [markFirst_cons_of_ne _ named]
      have skip : (m.nodeRef == some x) = false := by simpa using named
      simp only [onNode, List.filter_cons, skip] at ih ⊢
      exact ih

theorem onNode_reverse (machines : List Machine) :
    onNode x machines.reverse = (onNode x machines).reverse :=
  List.filter_reverse _ _

theorem onNode_markLast_of_ne (machines : List Machine) (other : node ≠ x) :
    onNode x (markLast node f machines) = onNode x machines := by
  simp only [markLast, onNode_reverse, onNode_markFirst_of_ne _ other, List.reverse_reverse]

theorem onNode_markLast (machines : List Machine) :
    onNode x (markLast x f machines) = markLast x f (onNode x machines) := by
  simp only [markLast, onNode_reverse, onNode_markFirst]

theorem markFirst_id (machines : List Machine) : markFirst node id machines = machines := by
  induction machines with
  | nil => rfl
  | cons m ms ih =>
    by_cases named : m.nodeRef = some node
    · rw [markFirst_cons_of_named _ named]; rfl
    · rw [markFirst_cons_of_ne _ named, ih]

theorem find?_eq_head?_onNode (machines : List Machine) :
    machines.find? (·.nodeRef == some x) = (onNode x machines).head? :=
  (List.filter_head? _ _).symm

/-- Marking leaves the machine the search finds for any node in place, with its
deletion timestamp. -/
theorem find?_markFirst_deleting (machines : List Machine) :
    ((markFirst node f machines).find? (·.nodeRef == some x)).map (·.deleting) =
      (machines.find? (·.nodeRef == some x)).map (·.deleting) := by
  induction machines with
  | nil => rfl
  | cons m ms ih =>
    by_cases named : m.nodeRef = some node
    · rw [markFirst_cons_of_named _ named]
      cases found : m.nodeRef == some x
      · simp only [List.find?_cons, found]
      · simp only [List.find?_cons, found]; rfl
    · rw [markFirst_cons_of_ne _ named]
      cases found : m.nodeRef == some x <;> simp only [List.find?_cons, found, ih]

end OnNode

/-- `markNodeReady` marks `True` when some `NodeReady` condition is `True`, and
otherwise leaves the conditions as they were. -/
theorem markNodeReady_eq (conditions : List NodeCondition) (cs : Conditions) :
    markNodeReady conditions cs =
      if conditions.any (fun c => c.type = "Ready" ∧ c.status = .conditionTrue) then
        markTrue cs .machineAgentHealthy
      else cs := by
  induction conditions generalizing cs with
  | nil => rfl
  | cons c conds ih =>
    have again : markTrue (markTrue cs .machineAgentHealthy) .machineAgentHealthy =
        markTrue cs .machineAgentHealthy := markTrue_of_eq (by simp [markTrue])
    by_cases ready : c.type = "Ready" ∧ c.status = .conditionTrue
    · simp only [markNodeReady, List.foldl_cons, ready, and_self, if_true] at ih ⊢
      rw [ih]
      simp [ready, again]
    · simp only [markNodeReady, List.foldl_cons, ready, if_false] at ih ⊢
      rw [ih]
      simp [ready]

/-! ## The loop of `UpdateAgentConditions` -/

/-- A list of machines on `x` that every iteration keeps is kept by the loop,
whichever way it ends. -/
theorem onNode_agentNodeLoop (lookup : String → NodeLookup) {x : String} {l : List Machine}
    (nodes : List Node)
    (keeps : ∀ node ∈ nodes, ∀ ms, onNode x ms = l →
      onNode x (markFirst node.name (agentNodeStep lookup ms node).mark ms) = l)
    (machines : List Machine) (kcpErrors : List String) (start : onNode x machines = l) :
    onNode x (agentNodeLoop lookup nodes machines kcpErrors).machines = l := by
  induction nodes generalizing machines kcpErrors with
  | nil => exact start
  | cons node nodes ih =>
    have kept := keeps node (List.mem_cons_self _ _) machines start
    simp only [agentNodeLoop]
    split
    · exact kept
    · exact ih (fun n mem => keeps n (List.mem_cons_of_mem _ mem)) _ _ kept

/-- The loop leaves the machines of a node it does not list as they were. -/
theorem onNode_agentNodeLoop_of_unlisted (lookup : String → NodeLookup) {x : String}
    (nodes : List Node) (unlisted : ∀ n ∈ nodes, n.name ≠ x) (machines : List Machine)
    (kcpErrors : List String) :
    onNode x (agentNodeLoop lookup nodes machines kcpErrors).machines = onNode x machines :=
  onNode_agentNodeLoop lookup nodes (fun node mem _ same =>
    (onNode_markFirst_of_ne _ (unlisted node mem)).trans same) machines kcpErrors rfl

/-- The loop returns when it reaches a node whose machine is not deleting,
whose node is reachable, and whose lookup fails, wherever in the listing it is. -/
theorem agentNodeLoop_returned (lookup : String → NodeLookup) {node : Node} {nodes : List Node}
    (listed : node ∈ nodes) {machines : List Machine} {m : Machine}
    (first : machines.find? (·.nodeRef == some node.name) = some m) (active : m.deleting = false)
    (reachable : nodeHasUnreachableTaint node = false)
    (fails : lookup node.name = .notFound ∨ lookup node.name = .failed) (kcpErrors : List String) :
    ∃ ms, agentNodeLoop lookup nodes machines kcpErrors = .returned ms := by
  induction nodes generalizing machines m kcpErrors with
  | nil => cases listed
  | cons n nodes ih =>
    simp only [agentNodeLoop]
    split
    · exact ⟨_, rfl⟩
    · next continues =>
      rcases List.mem_cons.mp listed with rfl | later
      · rcases fails with fails | fails <;>
          simp [agentNodeStep, first, active, reachable, fails] at continues
      · have kept := @find?_markFirst_deleting n.name node.name
          (agentNodeStep lookup machines n).mark machines
        rw [first] at kept
        obtain ⟨m', found, deleting⟩ := Option.map_eq_some'.mp kept
        exact ih later found (deleting.trans active) _

/-- A node whose lookup does not fail never returns from the loop. -/
theorem agentNodeStep_continues (lookup : String → NodeLookup) (machines : List Machine)
    {node : Node} (answers : lookup node.name ≠ .notFound ∧ lookup node.name ≠ .failed) :
    (agentNodeStep lookup machines node).returns = false := by
  simp only [agentNodeStep]
  split
  · split <;> rfl
  · split_ifs
    · rfl
    · rfl
    · split <;> simp_all

/-- The marks of the loop body depend on the machines only through those of
the node. -/
theorem agentNodeStep_mark_congr (lookup : String → NodeLookup) {machines machines' : List Machine}
    {node : Node} (same : onNode node.name machines = onNode node.name machines') :
    (agentNodeStep lookup machines node).mark = (agentNodeStep lookup machines' node).mark := by
  simp only [agentNodeStep, find?_eq_head?_onNode, same]
  split
  · split <;> split <;> rfl
  · rfl

/-- With no failing lookup the loop runs to its end. -/
theorem agentNodeLoop_finished (lookup : String → NodeLookup) (nodes : List Node)
    (noFailure : ∀ n ∈ nodes, lookup n.name ≠ .notFound ∧ lookup n.name ≠ .failed)
    (machines : List Machine) (kcpErrors : List String) :
    ∃ ms errs, agentNodeLoop lookup nodes machines kcpErrors = .finished ms errs := by
  induction nodes generalizing machines kcpErrors with
  | nil => exact ⟨_, _, rfl⟩
  | cons n nodes ih =>
    simp only [agentNodeLoop,
      agentNodeStep_continues lookup machines (noFailure n (List.mem_cons_self _ _))]
    exact ih (fun n' mem => noFailure n' (List.mem_cons_of_mem _ mem)) _ _

/-- A loop that runs through a prefix of the listing goes on from where it left. -/
theorem agentNodeLoop_append (lookup : String → NodeLookup) (pre post : List Node)
    {machines ms : List Machine} {kcpErrors errs : List String}
    (finished : agentNodeLoop lookup pre machines kcpErrors = .finished ms errs) :
    agentNodeLoop lookup (pre ++ post) machines kcpErrors = agentNodeLoop lookup post ms errs := by
  induction pre generalizing machines kcpErrors with
  | nil => cases finished; rfl
  | cons n pre ih =>
    simp only [agentNodeLoop, List.cons_append] at finished ⊢
    split
    · next returns => simp [returns] at finished
    · next continues =>
      simp only [continues] at finished
      exact ih finished

/-! ## `UpdateAgentConditions` -/

theorem sweepMachine_nodeRef (nodes : List Node) (m : Machine) :
    (sweepMachine nodes m).nodeRef = m.nodeRef := by
  unfold sweepMachine
  split
  · rfl
  · split_ifs <;> simp_all

theorem onNode_missingNodeSweep_of_listed {x : String} (nodes : List Node)
    (listed : ∃ n ∈ nodes, n.name = x) (machines : List Machine) :
    onNode x (missingNodeSweep nodes machines) = onNode x machines := by
  have kept : ∀ m ∈ onNode x machines, sweepMachine nodes m = m := fun m mem => by
    simp only [onNode, List.mem_filter, beq_iff_eq] at mem
    simp [sweepMachine, mem.2, listed]
  have sameRef : (fun m => m.nodeRef == some x) ∘ sweepMachine nodes = (·.nodeRef == some x) :=
    funext fun m => by simp [sweepMachine_nodeRef]
  rw [onNode, missingNodeSweep, List.filter_map, sameRef]
  exact (List.map_congr_left kept).trans (List.map_id _)

/-- A failed lookup of a listed, reachable node with a machine that is not
deleting ends the pass: the KCP's conditions are left as they were, and so are
the machines of every node the listing lacks. -/
theorem updateAgentConditions_of_failed_lookup (nodes : List Node) (lookup : String → NodeLookup)
    (c : ControlPlane) (node : Node) (m : Machine) (listed : node ∈ nodes)
    (first : c.machines.find? (·.nodeRef == some node.name) = some m) (active : m.deleting = false)
    (reachable : nodeHasUnreachableTaint node = false)
    (fails : lookup node.name = .notFound ∨ lookup node.name = .failed) :
    (updateAgentConditions (.ok nodes) lookup c).kcp = c.kcp ∧
      ∀ x, (∀ n ∈ nodes, n.name ≠ x) →
        onNode x (updateAgentConditions (.ok nodes) lookup c).machines = onNode x c.machines := by
  obtain ⟨ms, returned⟩ := agentNodeLoop_returned lookup listed first active reachable fails []
  have loopMachines : ∀ x, (∀ n ∈ nodes, n.name ≠ x) → onNode x ms = onNode x c.machines :=
    fun x unlisted => by
      simpa [returned, AgentLoop.machines] using
        onNode_agentNodeLoop_of_unlisted lookup nodes unlisted c.machines []
  simp only [updateAgentConditions, returned]
  exact ⟨trivial, loopMachines⟩

theorem updateAgentConditions_of_failed_lookup_first_node :
    let c : ControlPlane := ⟨⟨Conditions.empty⟩, [],
      [⟨"machine-1", 0, false, [], none, some "node-1", Conditions.empty⟩,
       ⟨"machine-3", 0, false, [], none, some "node-3", Conditions.empty⟩]⟩
    let after := updateAgentConditions (.ok [⟨"node-1", []⟩]) (fun _ => .notFound) c
    after.kcp = c.kcp ∧ ∀ x, (∀ n ∈ [(⟨"node-1", []⟩ : Node)], n.name ≠ x) →
      onNode x after.machines = onNode x c.machines :=
  updateAgentConditions_of_failed_lookup _ _ _ ⟨"node-1", []⟩
    ⟨"machine-1", 0, false, [], none, some "node-1", Conditions.empty⟩
    (List.mem_singleton_self _) rfl rfl rfl (.inl rfl)

/-- With no failing lookup the node loop runs to its end, and the pass is the
missing-node sweep of the machines that loop leaves, followed by the KCP
aggregation of the errors it collects: the end that the comment of
`UpdateAgentConditions` ("This operation is best effort") describes. -/
theorem updateAgentConditions_of_no_failure (nodes : List Node) (lookup : String → NodeLookup)
    (c : ControlPlane)
    (noFailure : ∀ n ∈ nodes, lookup n.name ≠ .notFound ∧ lookup n.name ≠ .failed) :
    ∃ ms kcpErrors, agentNodeLoop lookup nodes c.machines [] = .finished ms kcpErrors ∧
      updateAgentConditions (.ok nodes) lookup c =
        aggregateFromMachinesToKCP ⟨{ c with machines := missingNodeSweep nodes ms },
          allMachinePodConditions, kcpErrors, .controlPlaneComponentsHealthy,
          .controlPlaneComponentsUnhealthy, .controlPlaneComponentsUnknown, "control plane"⟩ := by
  obtain ⟨ms, errs, finished⟩ := agentNodeLoop_finished lookup nodes noFailure c.machines []
  exact ⟨ms, errs, finished, by simp only [updateAgentConditions, finished]⟩

theorem updateAgentConditions_of_no_failure_ready :
    ∃ ms kcpErrors, agentNodeLoop (fun _ => .found [⟨"Ready", .conditionTrue⟩])
        [⟨"node-a", []⟩] [] [] = .finished ms kcpErrors ∧
      updateAgentConditions (.ok [⟨"node-a", []⟩])
        (fun _ => .found [⟨"Ready", .conditionTrue⟩]) ⟨⟨Conditions.empty⟩, [], []⟩ =
      aggregateFromMachinesToKCP ⟨{ (⟨⟨Conditions.empty⟩, [], []⟩ : ControlPlane) with
          machines := missingNodeSweep [⟨"node-a", []⟩] ms },
        allMachinePodConditions, kcpErrors, .controlPlaneComponentsHealthy,
        .controlPlaneComponentsUnhealthy, .controlPlaneComponentsUnknown, "control plane"⟩ :=
  updateAgentConditions_of_no_failure [⟨"node-a", []⟩] (fun _ => .found [⟨"Ready", .conditionTrue⟩])
    ⟨⟨Conditions.empty⟩, [], []⟩ (by decide)

/-- The pass leaves the machines of a listed, reachable node whose `NodeReady`
is not `True` exactly as they were, a `True` of an earlier pass included. -/
theorem updateAgentConditions_keeps_not_ready_node (nodes : List Node)
    (lookup : String → NodeLookup) (c : ControlPlane) (x : String)
    (conditions : List NodeCondition) (listed : ∃ n ∈ nodes, n.name = x)
    (reachable : ∀ n ∈ nodes, n.name = x → nodeHasUnreachableTaint n = false)
    (found : lookup x = .found conditions)
    (notReady : ∀ cond ∈ conditions, ¬ (cond.type = "Ready" ∧ cond.status = .conditionTrue))
    (active : ∀ m ∈ c.machines, m.nodeRef = some x → m.deleting = false) :
    onNode x (updateAgentConditions (.ok nodes) lookup c).machines = onNode x c.machines := by
  have unchanged : markNodeReady conditions = id :=
    funext fun cs => by rw [markNodeReady_eq, if_neg (by simpa using notReady)]; rfl
  have keeps : ∀ node ∈ nodes, ∀ ms, onNode x ms = onNode x c.machines →
      onNode x (markFirst node.name (agentNodeStep lookup ms node).mark ms) = onNode x c.machines := by
    intro node mem ms same
    by_cases named : node.name = x
    · subst named
      have step : (agentNodeStep lookup ms node).mark = id := by
        simp only [agentNodeStep, find?_eq_head?_onNode, same]
        split
        · split <;> rfl
        · next m first =>
          have mem' := List.mem_of_mem_head? first
          simp only [onNode, List.mem_filter, beq_iff_eq] at mem'
          simp [active m mem'.1 mem'.2, reachable node mem rfl, found, unchanged]
      rw [step, markFirst_id, same]
    · rw [onNode_markFirst_of_ne _ named, same]
  have loop := onNode_agentNodeLoop lookup nodes keeps c.machines [] rfl
  simp only [updateAgentConditions]
  split
  · next returned => simpa [returned, AgentLoop.machines] using loop
  · next finished =>
    simp only [finished, AgentLoop.machines] at loop
    rw [aggregate_machines]
    exact (onNode_missingNodeSweep_of_listed nodes listed _).trans loop

theorem updateAgentConditions_keeps_not_ready_node_true :
    let c : ControlPlane := ⟨⟨Conditions.empty⟩, [], [⟨"machine-a", 0, false, [], none,
      some "node-a", set Conditions.empty .machineAgentHealthy trueCondition⟩]⟩
    onNode "node-a" (updateAgentConditions (.ok [⟨"node-a", []⟩])
      (fun _ => .found [⟨"Ready", .conditionFalse⟩]) c).machines = onNode "node-a" c.machines :=
  updateAgentConditions_keeps_not_ready_node _ _ _ "node-a" [⟨"Ready", .conditionFalse⟩]
    ⟨⟨"node-a", []⟩, List.mem_singleton_self _, rfl⟩ (by decide) rfl (by decide) (by decide)

/-- When no lookup fails, the machines of a node listed once end with the marks
the loop body computes for that node on the first of them, and no other change. -/
theorem onNode_updateAgentConditions (nodes pre post : List Node) (node : Node)
    (lookup : String → NodeLookup) (c : ControlPlane) (split : nodes = pre ++ node :: post)
    (unique : ∀ n ∈ pre ++ post, n.name ≠ node.name)
    (noFailure : ∀ n ∈ nodes, lookup n.name ≠ .notFound ∧ lookup n.name ≠ .failed) :
    onNode node.name (updateAgentConditions (.ok nodes) lookup c).machines =
      markFirst node.name (agentNodeStep lookup c.machines node).mark (onNode node.name c.machines) := by
  subst split
  have inPre : ∀ n ∈ pre, n.name ≠ node.name := fun n mem => unique n (List.mem_append_left _ mem)
  have inPost : ∀ n ∈ post, n.name ≠ node.name := fun n mem => unique n (List.mem_append_right _ mem)
  obtain ⟨ms, errs, preDone⟩ := agentNodeLoop_finished lookup pre
    (fun n mem => noFailure n (List.mem_append_left _ mem)) c.machines []
  have preKeeps : onNode node.name ms = onNode node.name c.machines := by
    simpa [preDone, AgentLoop.machines] using
      onNode_agentNodeLoop_of_unlisted lookup pre inPre c.machines []
  have atNode := agentNodeStep_continues lookup ms (noFailure node (by simp))
  let marked := markFirst node.name (agentNodeStep lookup ms node).mark ms
  let errs' := errs ++ (agentNodeStep lookup ms node).kcpErrors
  obtain ⟨ms', errs'', postDone⟩ := agentNodeLoop_finished lookup post
    (fun n mem => noFailure n (by simp [mem])) marked errs'
  have loop : agentNodeLoop lookup (pre ++ node :: post) c.machines [] = .finished ms' errs'' := by
    rw [agentNodeLoop_append lookup pre _ preDone]
    simp only [agentNodeLoop, atNode]
    exact postDone
  have postKeeps : onNode node.name ms' = onNode node.name marked := by
    simpa [postDone, AgentLoop.machines] using
      onNode_agentNodeLoop_of_unlisted lookup post inPost marked errs'
  simp only [updateAgentConditions, loop, aggregate_machines]
  rw [onNode_missingNodeSweep_of_listed _ ⟨node, by simp, rfl⟩, postKeeps, onNode_markFirst,
    preKeeps, agentNodeStep_mark_congr lookup preKeeps]

/-- The marks of the loop body for a node whose lookup answers, on the node's
first machine `m`: `False` with `Deleting` when `m` is being deleted, `Unknown`
when the node is unreachable, `True` when some `NodeReady` is `True`, and none
otherwise. -/
theorem agentNodeStep_mark_of_found (lookup : String → NodeLookup) (machines : List Machine)
    {node : Node} {m : Machine} {conditions : List NodeCondition}
    (first : machines.find? (·.nodeRef == some node.name) = some m)
    (found : lookup node.name = .found conditions) :
    (agentNodeStep lookup machines node).mark = fun cs =>
      if m.deleting then markFalse cs .machineAgentHealthy .deleting .info "" []
      else if nodeHasUnreachableTaint node then
        markUnknown cs .machineAgentHealthy .podInspectionFailed "Node is unreachable" []
      else if conditions.any (fun c => c.type = "Ready" ∧ c.status = .conditionTrue) then
        markTrue cs .machineAgentHealthy
      else cs := by
  funext cs
  simp only [agentNodeStep, first, found]
  split_ifs <;> simp only [markAll, allMachinePodConditions, List.foldl, markNodeReady_eq, *,
    if_true, Bool.false_eq_true, if_false]

/-- A mark of the first machine of a node, applied to the node's machines, is
applied to the head of that list. -/
theorem markFirst_onNode {x : String} (f : Conditions → Conditions) (machines : List Machine) :
    markFirst x f (onNode x machines) =
      match onNode x machines with
      | [] => []
      | m :: rest => { m with conditions := f m.conditions } :: rest := by
  cases h : onNode x machines with
  | nil => rfl
  | cons m rest =>
    have named : m.nodeRef = some x := by
      simpa using (List.mem_filter.mp (h ▸ List.mem_cons_self m rest : m ∈ onNode x machines)).2
    exact markFirst_cons_of_named rest named

/-- When no other listed node's lookup fails and the node's own lookup answers,
the machines of a node listed once end as follows, and with no other change:
the first of them is marked `False` with `Deleting` if it is being deleted,
else `Unknown` if the node carries the unreachable taint, else `True` if some
`NodeReady` of the node is `True`, and is otherwise left as it was. -/
theorem updateAgentConditions_onNode (nodes pre post : List Node) (node : Node)
    (lookup : String → NodeLookup) (c : ControlPlane) (conditions : List NodeCondition)
    (split : nodes = pre ++ node :: post) (unique : ∀ n ∈ pre ++ post, n.name ≠ node.name)
    (noFailure : ∀ n ∈ pre ++ post, lookup n.name ≠ .notFound ∧ lookup n.name ≠ .failed)
    (found : lookup node.name = .found conditions) :
    onNode node.name (updateAgentConditions (.ok nodes) lookup c).machines =
      match onNode node.name c.machines with
      | [] => []
      | m :: rest =>
        { m with conditions :=
            (if m.deleting then markFalse m.conditions .machineAgentHealthy .deleting .info "" []
            else if nodeHasUnreachableTaint node then
              markUnknown m.conditions .machineAgentHealthy .podInspectionFailed
                "Node is unreachable" []
            else if conditions.any (fun c => c.type = "Ready" ∧ c.status = .conditionTrue) then
              markTrue m.conditions .machineAgentHealthy
            else m.conditions) } :: rest := by
  have answers : ∀ n ∈ nodes, lookup n.name ≠ .notFound ∧ lookup n.name ≠ .failed := by
    subst split
    intro n mem
    by_cases same : n.name = node.name
    · simp [same, found]
    · simp only [List.mem_append, List.mem_cons] at mem
      rcases mem with pre | rfl | post
      exacts [noFailure n (List.mem_append_left _ pre), absurd rfl same,
        noFailure n (List.mem_append_right _ post)]
  rw [onNode_updateAgentConditions nodes pre post node lookup c split unique answers, markFirst_onNode]
  cases h : onNode node.name c.machines with
  | nil => rfl
  | cons m rest =>
    rw [agentNodeStep_mark_of_found lookup c.machines (by rw [find?_eq_head?_onNode, h]; rfl) found]

theorem updateAgentConditions_onNode_ready :
    let c : ControlPlane := ⟨⟨Conditions.empty⟩, [],
      [⟨"machine-a", 0, false, [], none, some "node-a", Conditions.empty⟩,
       ⟨"machine-b", 0, false, [], none, some "node-b", Conditions.empty⟩,
       ⟨"machine-c", 1, false, [], none, some "node-a", Conditions.empty⟩]⟩
    let lookup : String → NodeLookup := fun _ => .found [⟨"Ready", .conditionTrue⟩]
    onNode "node-a" (updateAgentConditions (.ok [⟨"node-b", []⟩, ⟨"node-a", []⟩]) lookup c).machines =
      [⟨"machine-a", 0, false, [], none, some "node-a",
          markTrue Conditions.empty .machineAgentHealthy⟩,
        ⟨"machine-c", 1, false, [], none, some "node-a", Conditions.empty⟩] :=
  updateAgentConditions_onNode _ [⟨"node-b", []⟩] [] ⟨"node-a", []⟩ _ _ [⟨"Ready", .conditionTrue⟩]
    rfl (by decide) (by decide) rfl

/-! ## `UpdateEtcdConditions` -/

/-- The mark of the etcd loop body depends on the machines only through those
of the node. -/
theorem etcdNodeStep_congr {machines machines' : List Machine} {node : Node}
    (same : onNode node.name machines = onNode node.name machines') :
    etcdNodeStep machines node = etcdNodeStep machines' node := by
  have last : ∀ ms : List Machine, ms.reverse.find? (·.nodeRef == some node.name) =
      (onNode node.name ms).reverse.head? := fun ms => by
    rw [← List.filter_head?, List.filter_reverse]; rfl
  simp only [etcdNodeStep, last, same]

theorem etcdNodeLoop_append (pre post : List Node) (machines : List Machine) :
    etcdNodeLoop (pre ++ post) machines = etcdNodeLoop post (etcdNodeLoop pre machines) := by
  induction pre generalizing machines with
  | nil => rfl
  | cons n pre ih => exact ih _

/-- The loop of `updateManagedEtcdConditions` leaves the machines of a node it
does not list as they were. -/
theorem onNode_etcdNodeLoop_of_unlisted {x : String} (nodes : List Node)
    (unlisted : ∀ n ∈ nodes, n.name ≠ x) (machines : List Machine) :
    onNode x (etcdNodeLoop nodes machines) = onNode x machines := by
  induction nodes generalizing machines with
  | nil => rfl
  | cons n nodes ih =>
    rw [etcdNodeLoop, ih (fun n' mem => unlisted n' (List.mem_cons_of_mem _ mem)),
      onNode_markLast_of_ne _ (unlisted n (List.mem_cons_self _ _))]

/-- A successful listing writes no KCP condition, and leaves every machine whose
`NodeRef` names a node the listing lacks exactly as it was, a `True` of an
earlier listing included. -/
theorem updateEtcdConditions_of_listing (nodes : List Node) (c : ControlPlane) :
    (updateEtcdConditions (.ok nodes) c).kcp = c.kcp ∧
      ∀ x, (∀ n ∈ nodes, n.name ≠ x) →
        onNode x (updateEtcdConditions (.ok nodes) c).machines = onNode x c.machines :=
  ⟨rfl, fun _ unlisted => onNode_etcdNodeLoop_of_unlisted nodes unlisted c.machines⟩

/-- After a successful listing, the machines of a node listed once end with the
mark of the loop body on the last of them, and no other change. -/
theorem onNode_updateEtcdConditions (nodes pre post : List Node) (node : Node) (c : ControlPlane)
    (split : nodes = pre ++ node :: post) (unique : ∀ n ∈ pre ++ post, n.name ≠ node.name) :
    onNode node.name (updateEtcdConditions (.ok nodes) c).machines =
      markLast node.name (etcdNodeStep c.machines node) (onNode node.name c.machines) := by
  subst split
  have preKeeps := onNode_etcdNodeLoop_of_unlisted pre
    (fun n mem => unique n (List.mem_append_left _ mem)) c.machines
  simp only [updateEtcdConditions, etcdNodeLoop_append, etcdNodeLoop]
  rw [onNode_etcdNodeLoop_of_unlisted post (fun n mem => unique n (List.mem_append_right _ mem)),
    onNode_markLast, preKeeps, etcdNodeStep_congr preKeeps]

/-- The mark of the etcd loop body on the node's last machine `m`: `False` with
`Deleting` when `m` is being deleted, `True` otherwise. -/
theorem etcdNodeStep_of_last (machines : List Machine) {node : Node} {m : Machine}
    (last : machines.reverse.find? (·.nodeRef == some node.name) = some m) :
    etcdNodeStep machines node = fun cs =>
      if m.deleting then markFalse cs .machineEtcdMemberHealthy .deleting .info "" []
      else markTrue cs .machineEtcdMemberHealthy := by
  funext cs
  simp only [etcdNodeStep, last]
  split_ifs <;> rfl

/-- After a successful listing, the machines of a node listed once end as
follows, and with no other change: the last of them is marked `False` with
`Deleting` if it is being deleted and `True` otherwise. -/
theorem updateEtcdConditions_onNode (nodes pre post : List Node) (node : Node) (c : ControlPlane)
    (split : nodes = pre ++ node :: post) (unique : ∀ n ∈ pre ++ post, n.name ≠ node.name) :
    onNode node.name (updateEtcdConditions (.ok nodes) c).machines =
      match (onNode node.name c.machines).reverse with
      | [] => []
      | m :: rest =>
        ({ m with conditions :=
            (if m.deleting then
              markFalse m.conditions .machineEtcdMemberHealthy .deleting .info "" []
            else markTrue m.conditions .machineEtcdMemberHealthy) } :: rest).reverse := by
  rw [onNode_updateEtcdConditions nodes pre post node c split unique, markLast,
    ← onNode_reverse, markFirst_onNode, onNode_reverse]
  cases h : (onNode node.name c.machines).reverse with
  | nil => rfl
  | cons m rest =>
    have last : c.machines.reverse.find? (·.nodeRef == some node.name) = some m := by
      rw [find?_eq_head?_onNode, onNode_reverse, h]; rfl
    rw [etcdNodeStep_of_last c.machines last]

theorem updateEtcdConditions_onNode_single :
    let c : ControlPlane := ⟨⟨Conditions.empty⟩, [],
      [⟨"machine-a", 0, false, [], none, some "node-a", Conditions.empty⟩,
       ⟨"machine-b", 1, true, [], none, some "node-a", Conditions.empty⟩]⟩
    onNode "node-a" (updateEtcdConditions (.ok [⟨"node-a", []⟩]) c).machines =
      [⟨"machine-a", 0, false, [], none, some "node-a", Conditions.empty⟩,
       ⟨"machine-b", 1, true, [], none, some "node-a",
          markFalse Conditions.empty .machineEtcdMemberHealthy .deleting .info "" []⟩] :=
  updateEtcdConditions_onNode _ [] [] ⟨"node-a", []⟩ _ rfl (by simp)

/-- Over any history of listings, the KCP's `EtcdClusterHealthy` is the `Unknown`
of a failed listing if there was one, and otherwise what it was before: no
successful listing ever recomputes it. -/
theorem updateEtcdConditions_history (listings : List (Except String (List Node)))
    (c : ControlPlane) :
    (listings.foldl (fun c listing => updateEtcdConditions listing c) c).kcp.conditions
        .etcdClusterHealthy =
      if listings.any (·.toBool = false) then
        some (unknownCondition .etcdClusterInspectionFailed
          "Failed to list nodes which are hosting the etcd members" [])
      else c.kcp.conditions .etcdClusterHealthy := by
  induction listings generalizing c with
  | nil => rfl
  | cons listing listings ih =>
    rw [List.foldl_cons, ih]
    cases listing with
    | error e => simp [updateEtcdConditions, markUnknown, Except.toBool]
    | ok nodes => simp [updateEtcdConditions, Except.toBool]

/-! ## Runs at the inputs where the passes diverge from their comments -/

/-- A machine whose `MachineAgentHealthy` is `True` from an earlier pass, and
whose listed node now reports `NodeReady` `False`: the loop only ever marks
`True`, so the stale `True` stays and aggregates to a healthy control plane. -/
theorem updateAgentConditions_keeps_stale_true :
    let c : ControlPlane := ⟨⟨Conditions.empty⟩, [], [⟨"machine-a", 0, false, [], none,
      some "node-a", set Conditions.empty .machineAgentHealthy trueCondition⟩]⟩
    let after := updateAgentConditions (.ok [⟨"node-a", []⟩])
      (fun _ => .found [⟨"Ready", .conditionFalse⟩]) c
    after.machines.map (·.conditions .machineAgentHealthy) = [some trueCondition] ∧
      after.kcp.conditions .controlPlaneComponentsHealthy = some trueCondition := by
  decide

/-- Three machines, two listed nodes, and a NotFound lookup for the first node:
the `return` inside the node loop leaves the second machine unprocessed though
its node is `Ready`, the third unmarked though its node is missing, and the
KCP condition unwritten. -/
theorem updateAgentConditions_stops_at_failed_lookup :
    let c : ControlPlane := ⟨⟨Conditions.empty⟩, [],
      [⟨"machine-1", 0, false, [], none, some "node-1", Conditions.empty⟩,
       ⟨"machine-2", 0, false, [], none, some "node-2", Conditions.empty⟩,
       ⟨"machine-3", 0, false, [], none, some "node-3", Conditions.empty⟩]⟩
    let after := updateAgentConditions (.ok [⟨"node-1", []⟩, ⟨"node-2", []⟩])
      (fun name => if name = "node-1" then .notFound else .found [⟨"Ready", .conditionTrue⟩]) c
    after.machines.map (·.conditions .machineAgentHealthy) =
        [some (falseCondition .podMissing .error "Node %s is missing" ["node-1"]), none, none] ∧
      after.kcp.conditions .controlPlaneComponentsHealthy = none := by
  decide

/-- A failed listing, then a listing of both nodes, then one without the second
node: the KCP's `EtcdClusterHealthy` keeps the `Unknown` of the failed
listing, and the machine whose node is gone keeps `True`. -/
theorem updateEtcdConditions_keeps_unknown_and_stale_true :
    let c : ControlPlane := ⟨⟨Conditions.empty⟩, [],
      [⟨"machine-1", 0, false, [], none, some "node-1", Conditions.empty⟩,
       ⟨"machine-2", 0, false, [], none, some "node-2", Conditions.empty⟩]⟩
    let after := updateEtcdConditions (.ok [⟨"node-1", []⟩])
      (updateEtcdConditions (.ok [⟨"node-1", []⟩, ⟨"node-2", []⟩])
        (updateEtcdConditions (.error "timeout") c))
    after.kcp.conditions .etcdClusterHealthy = some (unknownCondition .etcdClusterInspectionFailed
        "Failed to list nodes which are hosting the etcd members" []) ∧
      after.machines.map (·.conditions .machineEtcdMemberHealthy) =
        [some trueCondition, some trueCondition] := by
  decide

end KubeKey.WorkloadConditions
