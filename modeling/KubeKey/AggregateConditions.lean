import Mathlib.Data.Finset.Sort
import KubeKey.ControlPlaneView

/-! `aggregateFromMachinesToKCP`: machine conditions folded into one
control-plane condition. The machines are sorted into the five `sets.String`
of the source; each set is described by a membership lemma, so the result
depends only on which machines are present (`aggregateFromMachinesToKCP_perm`),
and the branch taken is read off from which sets are empty. The branch meant
for machines reporting info tests the warnings set a second time, so info is
never reported and a machine reporting only info is passed over. -/
namespace KubeKey.AggregateConditions
open KubeKey.ConditionStore KubeKey.ControlPlaneView

/-- The five sets of `aggregateFromMachinesToKCP`: `kcpMachinesWithErrors`,
`kcpMachinesWithWarnings`, `kcpMachinesWithInfo`, `kcpMachinesWithTrue` and
`kcpMachinesWithUnknown`. -/
inductive Group
  | withErrors
  | withWarnings
  | withInfo
  | withTrue
  | withUnknown
  deriving DecidableEq, Repr

/-- The set the `switch` puts a machine in for one of its conditions; a
`False` condition without a severity is in none. -/
def groupOf (c : Condition) : Option Group :=
  match c.status, c.severity with
  | .conditionTrue, _ => some .withTrue
  | .conditionFalse, .info => some .withInfo
  | .conditionFalse, .warning => some .withWarnings
  | .conditionFalse, .error => some .withErrors
  | .conditionFalse, .none => none
  | .conditionUnknown, _ => some .withUnknown

/-- The loop over the machines and their conditions, inserting each machine's
name into the set of each condition it has. -/
def groupMachines (machines : List Machine) (machineConditions : List ConditionType) :
    Group → Finset String :=
  machines.foldl (fun sets m => machineConditions.foldl (fun sets t =>
    match (m.conditions t).bind groupOf with
    | some g => Function.update sets g (insert m.name (sets g))
    | none => sets) sets) fun _ => ∅

/-- `aggregateFromMachinesToKCPInput`. -/
structure AggregateInput where
  controlPlane : ControlPlane
  machineConditions : List ConditionType
  kcpErrors : List String
  condition : ConditionType
  unhealthyReason : Reason
  unknownReason : Reason
  note : String

/-- `strings.Join(set.List(), ", ")`: the names sorted, comma separated. -/
def joinNames (names : Finset String) : String :=
  String.intercalate ", " (names.sort (· ≤ ·))

/-- `aggregateFromMachinesToKCP`, returning the control plane with the KCP
condition it writes. -/
def aggregateFromMachinesToKCP (input : AggregateInput) : ControlPlane :=
  let sets := groupMachines input.controlPlane.machines input.machineConditions
  let kcpErrors := if 0 < (sets .withErrors).card then
      input.kcpErrors ++ ["Following machines are reporting " ++ input.note ++ " errors: " ++
        joinNames (sets .withErrors)]
    else input.kcpErrors
  let cs := input.controlPlane.kcp.conditions
  let written :=
    if 0 < kcpErrors.length then
      markFalse cs input.condition input.unhealthyReason .error (String.intercalate "; " kcpErrors) []
    else if 0 < (sets .withWarnings).card then
      markFalse cs input.condition input.unhealthyReason .warning
        "Following machines are reporting %s warnings: %s" [input.note, joinNames (sets .withWarnings)]
    else if 0 < (sets .withWarnings).card then
      markFalse cs input.condition input.unhealthyReason .warning
        "Following machines are reporting %s info: %s" [input.note, joinNames (sets .withInfo)]
    else if 0 < (sets .withTrue).card then
      markTrue cs input.condition
    else if 0 < (sets .withUnknown).card then
      markUnknown cs input.condition input.unknownReason
        "Following machines are reporting unknown %s status: %s" [input.note, joinNames (sets .withUnknown)]
    else cs
  { input.controlPlane with kcp := ⟨written⟩ }

/-! ## The sets -/

section Groups
variable {name : String} {g : Group} {machineConditions : List ConditionType}

/-- A machine reports into group `g` when one of the aggregated conditions puts it there. -/
def Reports (machineConditions : List ConditionType) (g : Group) (m : Machine) : Prop :=
  ∃ t ∈ machineConditions, (m.conditions t).bind groupOf = some g

private theorem mem_foldl_conditions (m : Machine) (ts : List ConditionType)
    (sets : Group → Finset String) :
    name ∈ ts.foldl (fun sets t =>
      match (m.conditions t).bind groupOf with
      | some g => Function.update sets g (insert m.name (sets g))
      | none => sets) sets g ↔ name ∈ sets g ∨ (name = m.name ∧ Reports ts g m) := by
  induction ts generalizing sets with
  | nil => simp [Reports]
  | cons t ts ih =>
    rw [List.foldl_cons, ih]
    cases grouped : (m.conditions t).bind groupOf with
    | none =>
      simp only [Reports, List.mem_cons, exists_eq_or_imp, grouped, reduceCtorEq, false_or]
    | some g' =>
      by_cases same : g' = g
      · subst same
        simp only [Function.update_same, Finset.mem_insert, Reports, List.mem_cons,
          exists_eq_or_imp, grouped, true_or, and_true]
        tauto
      · simp only [Function.update_noteq (Ne.symm same), Reports, List.mem_cons, exists_eq_or_imp,
          grouped, Option.some.injEq, same, false_or]

/-- A name is in set `g` exactly when a machine of that name reports into `g`. -/
theorem mem_groupMachines (machines : List Machine) :
    name ∈ groupMachines machines machineConditions g ↔
      ∃ m ∈ machines, m.name = name ∧ Reports machineConditions g m := by
  suffices general : ∀ (sets : Group → Finset String), name ∈ machines.foldl (fun sets m =>
      machineConditions.foldl (fun sets t =>
        match (m.conditions t).bind groupOf with
        | some g => Function.update sets g (insert m.name (sets g))
        | none => sets) sets) sets g ↔
      name ∈ sets g ∨ ∃ m ∈ machines, m.name = name ∧ Reports machineConditions g m by
    simpa using general fun _ => ∅
  induction machines with
  | nil => simp
  | cons m machines ih =>
    intro sets
    rw [List.foldl_cons, ih, mem_foldl_conditions]
    simp only [List.mem_cons, exists_eq_or_imp]
    constructor
    · rintro ((inSets | ⟨rfl, reports⟩) | found)
      · exact .inl inSets
      · exact .inr (.inl ⟨rfl, reports⟩)
      · exact .inr (.inr found)
    · rintro (inSets | ⟨rfl, reports⟩ | found)
      · exact .inl (.inl inSets)
      · exact .inl (.inr ⟨rfl, reports⟩)
      · exact .inr found

theorem groupMachines_perm {machines machines' : List Machine} (perm : List.Perm machines' machines) :
    groupMachines machines' machineConditions = groupMachines machines machineConditions := by
  funext g
  ext name
  simp only [mem_groupMachines, perm.mem_iff]

theorem groupMachines_nonempty {machines : List Machine} :
    0 < (groupMachines machines machineConditions g).card ↔
      ∃ m ∈ machines, Reports machineConditions g m := by
  rw [Finset.card_pos, Finset.Nonempty]
  simp only [mem_groupMachines]
  exact ⟨fun ⟨_, m, mem, _, reports⟩ => ⟨m, mem, reports⟩,
    fun ⟨m, mem, reports⟩ => ⟨m.name, m, mem, rfl, reports⟩⟩

end Groups

/-- The KCP condition `aggregateFromMachinesToKCP` writes does not depend on
the order in which the machines are enumerated. -/
theorem aggregateFromMachinesToKCP_perm (input : AggregateInput) (machines : List Machine)
    (perm : List.Perm machines input.controlPlane.machines) :
    (aggregateFromMachinesToKCP
        { input with controlPlane := { input.controlPlane with machines := machines } }).kcp =
      (aggregateFromMachinesToKCP input).kcp := by
  simp only [aggregateFromMachinesToKCP, groupMachines_perm perm]

/-- A machine reporting an error and one reporting a warning, in either order,
give the same KCP condition. -/
theorem aggregateFromMachinesToKCP_perm_swap :
    let failing : Machine := ⟨"machine-a", 0, false, [], none, some "node-a",
      set Conditions.empty .machineAgentHealthy (falseCondition .podFailed .error "Missing node" [])⟩
    let warning : Machine := ⟨"machine-b", 1, false, [], none, some "node-b",
      set Conditions.empty .machineAgentHealthy (falseCondition .podMissing .warning "" [])⟩
    let input : AggregateInput := ⟨⟨⟨Conditions.empty⟩, [], [failing, warning]⟩,
      [.machineAgentHealthy], [], .controlPlaneComponentsHealthy,
      .controlPlaneComponentsUnhealthy, .controlPlaneComponentsUnknown, "control plane"⟩
    List.Perm [warning, failing] [failing, warning] ∧
      (aggregateFromMachinesToKCP
          { input with controlPlane := { input.controlPlane with machines := [warning, failing] } }).kcp =
        (aggregateFromMachinesToKCP input).kcp :=
  ⟨List.Perm.swap _ _ _, aggregateFromMachinesToKCP_perm _ _ (List.Perm.swap _ _ _)⟩

/-! ## The branch taken -/

section Branches
variable (input : AggregateInput)

/-- Some machine of the control plane reports into `g`. -/
def AggregateInput.Reporting (g : Group) : Prop :=
  ∃ m ∈ input.controlPlane.machines, Reports input.machineConditions g m

private theorem nonempty_iff (g : Group) :
    (groupMachines input.controlPlane.machines input.machineConditions g).Nonempty ↔
      input.Reporting g := by
  rw [← Finset.card_pos]
  exact groupMachines_nonempty

theorem aggregate_machines : (aggregateFromMachinesToKCP input).machines =
    input.controlPlane.machines := rfl

theorem aggregate_of_ne {t : ConditionType} (other : t ≠ input.condition) :
    (aggregateFromMachinesToKCP input).kcp.conditions t = input.controlPlane.kcp.conditions t := by
  simp only [aggregateFromMachinesToKCP]
  split_ifs <;> simp [markFalse, markTrue, markUnknown, other]

/-- A machine reporting an error, or a KCP-level error, makes the condition
`False` with severity `Error`. -/
theorem aggregate_errors (failing : input.Reporting .withErrors ∨ input.kcpErrors ≠ []) :
    ∃ message, (aggregateFromMachinesToKCP input).kcp.conditions input.condition =
      some (falseCondition input.unhealthyReason .error message []) := by
  simp only [aggregateFromMachinesToKCP]
  rw [if_pos]
  · exact ⟨_, by simp only [markFalse, set_self]; rfl⟩
  · rcases failing with errors | kcp
    · simp [(nonempty_iff input _).mpr errors]
    · split_ifs <;> simp [List.length_pos.mpr kcp]

/-- Otherwise a machine reporting a warning makes it `False` with severity `Warning`. -/
theorem aggregate_warnings (noErrors : ¬ input.Reporting .withErrors)
    (noKcpErrors : input.kcpErrors = []) (warned : input.Reporting .withWarnings) :
    (aggregateFromMachinesToKCP input).kcp.conditions input.condition =
      some (falseCondition input.unhealthyReason .warning
        "Following machines are reporting %s warnings: %s"
        [input.note, joinNames (groupMachines input.controlPlane.machines input.machineConditions
          .withWarnings)]) := by
  simp [aggregateFromMachinesToKCP, nonempty_iff, noErrors, noKcpErrors, warned, markFalse]

/-- Otherwise a machine reporting `True` makes it `True`, whatever the machines
reporting info. -/
theorem aggregate_true (noErrors : ¬ input.Reporting .withErrors)
    (noKcpErrors : input.kcpErrors = []) (noWarnings : ¬ input.Reporting .withWarnings)
    (healthy : input.Reporting .withTrue) :
    (aggregateFromMachinesToKCP input).kcp.conditions input.condition = some trueCondition := by
  simp [aggregateFromMachinesToKCP, nonempty_iff, noErrors, noKcpErrors, noWarnings, healthy,
    markTrue]

/-- Otherwise a machine reporting `Unknown` makes it `Unknown`. -/
theorem aggregate_unknown (noErrors : ¬ input.Reporting .withErrors)
    (noKcpErrors : input.kcpErrors = []) (noWarnings : ¬ input.Reporting .withWarnings)
    (noTrue : ¬ input.Reporting .withTrue) (unknown : input.Reporting .withUnknown) :
    (aggregateFromMachinesToKCP input).kcp.conditions input.condition =
      some (unknownCondition input.unknownReason
        "Following machines are reporting unknown %s status: %s"
        [input.note, joinNames (groupMachines input.controlPlane.machines input.machineConditions
          .withUnknown)]) := by
  simp [aggregateFromMachinesToKCP, nonempty_iff, noErrors, noKcpErrors, noWarnings, noTrue,
    unknown, markUnknown]

/-- Otherwise nothing is written: machines reporting only info leave the
condition as it was. -/
theorem aggregate_unchanged (noErrors : ¬ input.Reporting .withErrors)
    (noKcpErrors : input.kcpErrors = []) (noWarnings : ¬ input.Reporting .withWarnings)
    (noTrue : ¬ input.Reporting .withTrue) (noUnknown : ¬ input.Reporting .withUnknown) :
    (aggregateFromMachinesToKCP input).kcp = input.controlPlane.kcp := by
  simp [aggregateFromMachinesToKCP, nonempty_iff, noErrors, noKcpErrors, noWarnings, noTrue,
    noUnknown]

/-- Whatever the machines report, the condition the aggregation leaves is the
one it found or has a severity other than `Info`: no branch ever reports info. -/
theorem aggregateFromMachinesToKCP_never_info :
    (aggregateFromMachinesToKCP input).kcp.conditions input.condition =
        input.controlPlane.kcp.conditions input.condition ∨
      ∃ c, (aggregateFromMachinesToKCP input).kcp.conditions input.condition = some c ∧
        c.severity ≠ .info := by
  simp only [aggregateFromMachinesToKCP]
  split_ifs <;> simp [markFalse, markTrue, markUnknown, falseCondition, trueCondition,
    unknownCondition]

end Branches


/-- A control plane whose one machine reports only info (a deleting machine, as
`UpdateAgentConditions` marks it) and no KCP error: the info branch tests the
warnings set again, so `ControlPlaneComponentsHealthy` stays unset instead of
becoming `False` with severity `Info`. -/
theorem aggregateFromMachinesToKCP_info_only_unset :
    (aggregateFromMachinesToKCP ⟨⟨⟨Conditions.empty⟩, [],
        [⟨"machine-a", 0, true, [], none, some "node-a",
          set Conditions.empty .machineAgentHealthy (falseCondition .deleting .info "" [])⟩]⟩,
        [.machineAgentHealthy], [], .controlPlaneComponentsHealthy,
        .controlPlaneComponentsUnhealthy, .controlPlaneComponentsUnknown,
        "control plane"⟩).kcp.conditions .controlPlaneComponentsHealthy = none := by
  rw [aggregate_unchanged] <;> simp [AggregateInput.Reporting, Reports, groupOf, falseCondition]

end KubeKey.AggregateConditions
