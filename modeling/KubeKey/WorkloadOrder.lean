import KubeKey.WorkloadConditions

/-! The order of the machines in the workload passes. `collections.Machines` is
a Go map, so `UpdateAgentConditions` and `updateManagedEtcdConditions` walk the
machines in a new order on every call. The passes find a node's machine by a
search over that order, and the searches differ: the agent pass stops at the
first match, the etcd pass keeps the last.

When no two machines name the same node the order does not matter. At most one
machine is marked per node, so each mark is a `map` over the machines
(`markFirst_eq_map`, `markLast_eq_map`); every search finds the same machine;
and over any two orders the passes end with the same machines, reordered, and
write the same KCP conditions (`updateAgentConditions_perm`,
`updateEtcdConditions_perm`). When two machines name one node, the order decides
which of them a pass marks (the example after `updateAgentConditions_perm`). -/
namespace KubeKey.WorkloadOrder
open KubeKey.ConditionStore KubeKey.ControlPlaneView KubeKey.AggregateConditions
open KubeKey.WorkloadConditions

/-- No two machines name the same node. -/
def UniqueNodeRefs (machines : List Machine) : Prop :=
  (machines.filterMap (·.nodeRef)).Nodup

instance (machines : List Machine) : Decidable (UniqueNodeRefs machines) :=
  inferInstanceAs (Decidable (List.Nodup _))

/-- The mark `f` on the machine of `node`, wherever it stands. -/
def markOn (node : String) (f : Conditions → Conditions) (m : Machine) : Machine :=
  if m.nodeRef = some node then { m with conditions := f m.conditions } else m

section Marks
variable {x : String} {f : Conditions → Conditions} {machines machines' : List Machine}

@[simp]
theorem nodeRef_markOn (m : Machine) : (markOn x f m).nodeRef = m.nodeRef := by
  unfold markOn
  split <;> rfl

theorem count_filterMap_nodeRef (machines : List Machine) :
    (machines.filterMap (·.nodeRef)).count x = (onNode x machines).length := by
  induction machines with
  | nil => rfl
  | cons m ms ih =>
    cases ref : m.nodeRef with
    | none => simp [ref, onNode, ih]
    | some y => by_cases same : y = x <;> simp [ref, onNode, List.filter_cons, ih, List.count_cons, same]

theorem UniqueNodeRefs.onNode_length_le (unique : UniqueNodeRefs machines) (x : String) :
    (onNode x machines).length ≤ 1 := by
  rw [← count_filterMap_nodeRef]
  exact List.nodup_iff_count_le_one.mp unique x

theorem UniqueNodeRefs.perm (unique : UniqueNodeRefs machines) (perm : machines.Perm machines') :
    UniqueNodeRefs machines' :=
  (perm.filterMap _).nodup_iff.mp unique

theorem UniqueNodeRefs.map_markOn (unique : UniqueNodeRefs machines) :
    UniqueNodeRefs (machines.map (markOn x f)) := by
  simpa [UniqueNodeRefs, List.filterMap_map, Function.comp_def] using unique

/-- With at most one machine on `x`, marking the first of them marks it wherever it is. -/
theorem markFirst_eq_map (atMostOne : (onNode x machines).length ≤ 1) :
    markFirst x f machines = machines.map (markOn x f) := by
  induction machines with
  | nil => rfl
  | cons m ms ih =>
    by_cases named : m.nodeRef = some x
    · have none : onNode x ms = [] := by
        simpa [onNode, List.filter_cons, named] using atMostOne
      have rest : ms.map (markOn x f) = ms := (List.map_congr_left (g := id) fun m' mem => by
        have off : m'.nodeRef ≠ some x := fun onX => by
          simpa [onX] using List.filter_eq_nil_iff.mp none m' mem
        simp [markOn, off]).trans (List.map_id ms)
      rw [markFirst_cons_of_named _ named, List.map_cons, rest]
      simp [markOn, named]
    · have rest : (onNode x ms).length ≤ 1 := by
        simpa [onNode, List.filter_cons, named] using atMostOne
      rw [markFirst_cons_of_ne _ named, List.map_cons, ih rest]
      simp [markOn, named]

theorem markLast_eq_map (atMostOne : (onNode x machines).length ≤ 1) :
    markLast x f machines = machines.map (markOn x f) := by
  have reversed : (onNode x machines.reverse).length ≤ 1 := by
    simpa [onNode_reverse] using atMostOne
  rw [markLast, markFirst_eq_map reversed, List.map_reverse, List.reverse_reverse]

private theorem eq_of_perm_of_length_le_one {l l' : List Machine} (perm : l.Perm l')
    (short : l.length ≤ 1) : l = l' := by
  match l, short with
  | [], _ => exact perm.nil_eq
  | [m], _ => exact (List.perm_singleton.mp perm.symm).symm

theorem onNode_perm (perm : machines.Perm machines') : (onNode x machines).Perm (onNode x machines') :=
  perm.filter _

/-- With at most one machine on each node, a search finds the same machine in
every order. -/
theorem find?_nodeRef_perm (unique : UniqueNodeRefs machines) (perm : machines.Perm machines') :
    machines'.find? (·.nodeRef == some x) = machines.find? (·.nodeRef == some x) := by
  rw [find?_eq_head?_onNode, find?_eq_head?_onNode,
    eq_of_perm_of_length_le_one (onNode_perm perm) (unique.onNode_length_le x)]

theorem hasProvisioningMachine_perm (perm : machines.Perm machines') :
    hasProvisioningMachine machines' = hasProvisioningMachine machines := by
  refine Bool.eq_iff_iff.mpr ?_
  simp only [hasProvisioningMachine, List.any_eq_true]
  exact ⟨fun ⟨m, mem, unlinked⟩ => ⟨m, perm.mem_iff.mpr mem, unlinked⟩,
    fun ⟨m, mem, unlinked⟩ => ⟨m, perm.mem_iff.mp mem, unlinked⟩⟩

end Marks

/-! ## The agent pass -/

/-- Two ends of the agent loop that differ at most in the order of the machines. -/
def AgentLoop.Perm : AgentLoop → AgentLoop → Prop
  | .finished machines kcpErrors, .finished machines' kcpErrors' =>
    machines.Perm machines' ∧ kcpErrors = kcpErrors'
  | .returned machines, .returned machines' => machines.Perm machines'
  | _, _ => False

theorem agentNodeStep_perm (lookup : String → NodeLookup) (node : Node)
    {machines machines' : List Machine} (unique : UniqueNodeRefs machines)
    (perm : machines.Perm machines') :
    agentNodeStep lookup machines' node = agentNodeStep lookup machines node := by
  simp only [agentNodeStep, find?_nodeRef_perm unique perm, hasProvisioningMachine_perm perm]

theorem agentNodeLoop_perm (lookup : String → NodeLookup) (nodes : List Node)
    {machines machines' : List Machine} (unique : UniqueNodeRefs machines)
    (perm : machines.Perm machines') (kcpErrors : List String) :
    AgentLoop.Perm (agentNodeLoop lookup nodes machines kcpErrors)
      (agentNodeLoop lookup nodes machines' kcpErrors) := by
  induction nodes generalizing machines machines' kcpErrors with
  | nil => exact ⟨perm, rfl⟩
  | cons node nodes ih =>
    have unique' := unique.perm perm
    have marked : (markFirst node.name (agentNodeStep lookup machines node).mark machines).Perm
        (markFirst node.name (agentNodeStep lookup machines node).mark machines') := by
      rw [markFirst_eq_map (unique.onNode_length_le _), markFirst_eq_map (unique'.onNode_length_le _)]
      exact perm.map _
    simp only [agentNodeLoop, agentNodeStep_perm lookup node unique perm]
    split
    · exact marked
    · rw [markFirst_eq_map (unique.onNode_length_le _)] at marked ⊢
      exact ih unique.map_markOn marked _

/-- With no two machines on one node, `UpdateAgentConditions` does not depend on
the order it walks the machines in: over any two orders it ends with the same
machines, reordered, and the same KCP conditions. -/
theorem updateAgentConditions_perm (listing : Except String (List Node))
    (lookup : String → NodeLookup) (c : ControlPlane) {machines : List Machine}
    (unique : UniqueNodeRefs c.machines) (perm : c.machines.Perm machines) :
    (updateAgentConditions listing lookup { c with machines := machines }).machines.Perm
        (updateAgentConditions listing lookup c).machines ∧
      (updateAgentConditions listing lookup { c with machines := machines }).kcp =
        (updateAgentConditions listing lookup c).kcp := by
  cases listing with
  | error e => exact ⟨(perm.map _).symm, rfl⟩
  | ok nodes =>
    have loop := agentNodeLoop_perm lookup nodes unique perm []
    simp only [updateAgentConditions]
    revert loop
    cases agentNodeLoop lookup nodes c.machines [] <;>
      cases agentNodeLoop lookup nodes machines [] <;> simp only [AgentLoop.Perm, false_imp_iff]
    · rintro ⟨reordered, rfl⟩
      refine ⟨(reordered.map _).symm, ?_⟩
      simp only [aggregateFromMachinesToKCP, missingNodeSweep,
        groupMachines_perm (reordered.map (sweepMachine nodes))]
    · exact fun reordered => ⟨reordered.symm, by trivial⟩

theorem updateAgentConditions_perm_swap :
    let a : Machine := ⟨"machine-a", 0, false, [], none, some "node-a", Conditions.empty⟩
    let b : Machine := ⟨"machine-b", 1, false, [], none, some "node-b", Conditions.empty⟩
    let c : ControlPlane := ⟨⟨Conditions.empty⟩, [], [a, b]⟩
    let lookup : String → NodeLookup := fun _ => .found [⟨"Ready", .conditionTrue⟩]
    (updateAgentConditions (.ok [⟨"node-b", []⟩]) lookup { c with machines := [b, a] }).machines.Perm
        (updateAgentConditions (.ok [⟨"node-b", []⟩]) lookup c).machines ∧
      (updateAgentConditions (.ok [⟨"node-b", []⟩]) lookup { c with machines := [b, a] }).kcp =
        (updateAgentConditions (.ok [⟨"node-b", []⟩]) lookup c).kcp :=
  updateAgentConditions_perm _ _ _ (by decide) (List.Perm.swap _ _ _)

/-- Two machines on one node: the agent pass marks whichever its order visits first. -/
example :
    let a : Machine := ⟨"machine-a", 0, false, [], none, some "node-1", Conditions.empty⟩
    let b : Machine := ⟨"machine-b", 0, false, [], none, some "node-1", Conditions.empty⟩
    let pass := fun machines => (updateAgentConditions (.ok [⟨"node-1", []⟩])
      (fun _ => .found [⟨"Ready", .conditionTrue⟩]) ⟨⟨Conditions.empty⟩, [], machines⟩).machines.map
        fun m => (m.name, isTrue m.conditions .machineAgentHealthy)
    pass [a, b] = [("machine-a", true), ("machine-b", false)] ∧
      pass [b, a] = [("machine-b", true), ("machine-a", false)] := by
  decide

/-! ## The etcd pass -/

theorem etcdNodeStep_perm (node : Node) {machines machines' : List Machine}
    (unique : UniqueNodeRefs machines) (perm : machines.Perm machines') :
    etcdNodeStep machines' node = etcdNodeStep machines node := by
  simp only [etcdNodeStep, find?_nodeRef_perm (unique.perm (List.reverse_perm _).symm)
    (((List.reverse_perm _).trans perm).trans (List.reverse_perm _).symm)]

theorem etcdNodeLoop_perm (nodes : List Node) {machines machines' : List Machine}
    (unique : UniqueNodeRefs machines) (perm : machines.Perm machines') :
    (etcdNodeLoop nodes machines).Perm (etcdNodeLoop nodes machines') := by
  induction nodes generalizing machines machines' with
  | nil => exact perm
  | cons node nodes ih =>
    have unique' := unique.perm perm
    simp only [etcdNodeLoop, etcdNodeStep_perm node unique perm,
      markLast_eq_map (unique.onNode_length_le _), markLast_eq_map (unique'.onNode_length_le _)]
    exact ih unique.map_markOn (perm.map _)

/-- With no two machines on one node, `UpdateEtcdConditions` does not depend on
the order it walks the machines in. -/
theorem updateEtcdConditions_perm (listing : Except String (List Node)) (c : ControlPlane)
    {machines : List Machine} (unique : UniqueNodeRefs c.machines) (perm : c.machines.Perm machines) :
    (updateEtcdConditions listing { c with machines := machines }).machines.Perm
        (updateEtcdConditions listing c).machines ∧
      (updateEtcdConditions listing { c with machines := machines }).kcp =
        (updateEtcdConditions listing c).kcp := by
  cases listing with
  | error e => exact ⟨(perm.map _).symm, rfl⟩
  | ok nodes => exact ⟨(etcdNodeLoop_perm nodes unique perm).symm, rfl⟩

theorem updateEtcdConditions_perm_swap :
    let a : Machine := ⟨"machine-a", 0, true, [], none, some "node-a", Conditions.empty⟩
    let b : Machine := ⟨"machine-b", 1, false, [], none, some "node-b", Conditions.empty⟩
    let c : ControlPlane := ⟨⟨Conditions.empty⟩, [], [a, b]⟩
    (updateEtcdConditions (.ok [⟨"node-a", []⟩, ⟨"node-b", []⟩]) { c with machines := [b, a] }).machines.Perm
        (updateEtcdConditions (.ok [⟨"node-a", []⟩, ⟨"node-b", []⟩]) c).machines ∧
      (updateEtcdConditions (.ok [⟨"node-a", []⟩, ⟨"node-b", []⟩]) { c with machines := [b, a] }).kcp =
        (updateEtcdConditions (.ok [⟨"node-a", []⟩, ⟨"node-b", []⟩]) c).kcp :=
  updateEtcdConditions_perm _ _ (by decide) (List.Perm.swap _ _ _)

end KubeKey.WorkloadOrder
