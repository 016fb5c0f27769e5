import Mathlib.Data.String.Basic
import Mathlib.Data.Prod.Lex
import Mathlib.Data.List.MinMax
import KubeKey.ConditionStore

/-! The read-only view over one K3s control plane (`ControlPlane` in the
`cluster` package) and the cluster-api collection helpers it calls:
`Filter`, `InFailureDomains`, `Oldest`, `PickMost` and `PickFewest`. The
deletion pick `MachineInFailureDomainWithMostMachines` is the main result:
for any non-empty set of candidates it returns the oldest candidate of the
failure domain `FailureDomainWithMostMachines` chooses, and that domain is
the one the comments promise. The rollout helpers split the machines not being
deleted between those up to date and those needing rollout, and the scale-up
pick is a control-plane failure domain with the fewest up-to-date machines. -/
namespace KubeKey.ControlPlaneView
open KubeKey.ConditionStore

/-- The part of a `clusterv1.Machine` the control-plane code reads and writes. -/
structure Machine where
  name : String
  /-- `ObjectMeta.CreationTimestamp`. -/
  creationTimestamp : Nat
  /-- `ObjectMeta.DeletionTimestamp` is set. -/
  deleting : Bool
  /-- `ObjectMeta.Annotations`, by key. -/
  annotations : List String
  /-- `Spec.FailureDomain`. -/
  failureDomain : Option String
  /-- `Status.NodeRef.Name`, when the machine has a node. -/
  nodeRef : Option String
  conditions : Conditions

/-- One entry of `clusterv1.FailureDomains`. -/
structure FailureDomain where
  id : String
  controlPlane : Bool

/-- The part of the `K3sControlPlane` the helpers write. -/
structure KCP where
  conditions : Conditions

/-- `ControlPlane`: the KCP, the cluster's `Status.FailureDomains` (a nil map
reads as an empty one) and the owned machines in some enumeration order. -/
structure ControlPlane where
  kcp : KCP
  failureDomains : List FailureDomain
  machines : List Machine

/-- `FailureDomains.FilterControlPlane`. -/
def filterControlPlane (fds : List FailureDomain) : List FailureDomain :=
  fds.filter (·.controlPlane)

/-- `FailureDomains.GetIDs`. -/
def getIDs (fds : List FailureDomain) : List (Option String) :=
  fds.map fun fd => some fd.id

/-- `collections.InFailureDomains`: a nil entry matches a machine without a
failure domain, any other one the machine whose failure domain it names. -/
def inFailureDomains (fds : List (Option String)) (m : Machine) : Bool :=
  fds.contains m.failureDomain

/-- The order of `SortedByCreationTimestamp`: creation time, then name. -/
def creationKey (m : Machine) : ℕ ×ₗ String := toLex (m.creationTimestamp, m.name)

/-- `Machines.Oldest`: the first machine in creation order, nil for none. -/
def oldest (machines : List Machine) : Option Machine := machines.argmin creationKey

/-- How many of `machines` `failuredomains.pick` counts in failure domain `id`. -/
def countIn (machines : List Machine) (id : String) : Nat :=
  (machines.filter (·.failureDomain == some id)).length

/-- `failuredomains.pick`: each failure domain with how many of `machines` it holds. -/
def pick (fds : List FailureDomain) (machines : List Machine) : List (String × Nat) :=
  fds.map fun fd => (fd.id, countIn machines fd.id)

/-- `failuredomains.orderDescending`: the aggregations, the fullest first. -/
def orderDescending (fds : List FailureDomain) (machines : List Machine) : List (String × Nat) :=
  (pick fds machines).mergeSort fun x y => y.2 ≤ x.2

/-- `failuredomains.PickMost`: in descending order, the first failure domain
that one of `machines` is in. -/
def pickMost (fds : List FailureDomain) (all machines : List Machine) : Option String :=
  ((orderDescending fds all).find? fun agg => machines.any (·.failureDomain == some agg.1)).map
    (·.1)

/-- `failuredomains.PickFewest`: the failure domain holding fewest of `machines`. -/
def pickFewest (fds : List FailureDomain) (machines : List Machine) : Option String :=
  (((pick fds machines).mergeSort fun x y => x.2 ≤ y.2).head?).map (·.1)

/-- `ControlPlane.FailureDomainWithMostMachines`: the failure domain of the
oldest candidate outside the control-plane failure domains if there is one,
otherwise `PickMost` over them. -/
def ControlPlane.failureDomainWithMostMachines (c : ControlPlane) (machines : List Machine) :
    Option String :=
  let notInFailureDomains := machines.filter fun m =>
    !inFailureDomains (getIDs (filterControlPlane c.failureDomains)) m
  match oldest notInFailureDomains with
  | some m => m.failureDomain
  | none => pickMost (filterControlPlane c.failureDomains) c.machines machines

/-- `ControlPlane.MachineInFailureDomainWithMostMachines`. -/
def ControlPlane.machineInFailureDomainWithMostMachines (c : ControlPlane)
    (machines : List Machine) : Except String Machine :=
  let fd := c.failureDomainWithMostMachines machines
  let machinesInFailureDomain := machines.filter (inFailureDomains [fd])
  match oldest machinesInFailureDomain with
  | none => .error "failed to pick control plane Machine to mark for deletion"
  | some machineToMark => .ok machineToMark

/-- `ControlPlane.MachineWithDeleteAnnotation`. -/
def ControlPlane.machineWithDeleteAnnotation (machines : List Machine) : List Machine :=
  machines.filter fun m => m.annotations.contains "cluster.x-k8s.io/delete-machine"

/-- `ControlPlane.HasDeletingMachine`. -/
def ControlPlane.hasDeletingMachine (c : ControlPlane) : Bool :=
  0 < (c.machines.filter (·.deleting)).length

/-! ## `Oldest` -/

section Oldest
variable {ms : List Machine} {m : Machine}

theorem oldest_mem (found : oldest ms = some m) : m ∈ ms := List.argmin_mem found

/-- No machine of the collection was created before the one `Oldest` returns. -/
theorem oldest_le (found : oldest ms = some m) {m' : Machine} (mem : m' ∈ ms) :
    ¬ m'.creationTimestamp < m.creationTimestamp := fun earlier =>
  List.not_lt_of_mem_argmin mem found ((Prod.Lex.lt_iff _ _).mpr (.inl earlier))

theorem oldest_isSome (mem : m ∈ ms) : ∃ o, oldest ms = some o := by
  cases found : oldest ms with
  | none => simp [oldest, List.argmin_eq_none.mp found] at mem
  | some o => exact ⟨o, rfl⟩

end Oldest

/-! ## `InFailureDomains` and `PickMost` -/

theorem inFailureDomains_getIDs {fds : List FailureDomain} {m : Machine} :
    inFailureDomains (getIDs fds) m ↔ ∃ fd ∈ fds, m.failureDomain = some fd.id := by
  simp [inFailureDomains, getIDs, eq_comm]

theorem inFailureDomains_single {fd : Option String} {m : Machine} :
    inFailureDomains [fd] m ↔ m.failureDomain = fd := by
  simp [inFailureDomains]

/-- The first element a predicate picks from a list sorted by decreasing count
has the largest count of all the elements it picks. -/
private theorem find?_count_max {l : List (String × Nat)} {P : String × Nat → Bool}
    {x : String × Nat} (sorted : l.Pairwise fun a b => decide (b.2 ≤ a.2))
    (found : l.find? P = some x) : ∀ y ∈ l, P y → y.2 ≤ x.2 := by
  induction l with
  | nil => simp at found
  | cons z l ih =>
    rw [List.pairwise_cons] at sorted
    intro y mem picked
    by_cases here : P z
    · rw [List.find?_cons_of_pos _ here] at found
      cases found
      rcases List.mem_cons.mp mem with rfl | later
      · exact le_refl _
      · simpa using sorted.1 y later
    · rw [List.find?_cons_of_neg _ here] at found
      rcases List.mem_cons.mp mem with rfl | later
      · exact absurd picked here
      · exact ih sorted.2 found y later picked

theorem orderDescending_sorted (fds : List FailureDomain) (all : List Machine) :
    (orderDescending fds all).Pairwise fun a b => decide (b.2 ≤ a.2) :=
  List.sorted_mergeSort (fun _ _ _ ab bc => by simp at *; omega)
    (fun a b => by simpa using Nat.le_total b.2 a.2) _

theorem mem_orderDescending {fds : List FailureDomain} {all : List Machine} {agg : String × Nat} :
    agg ∈ orderDescending fds all ↔ ∃ fd ∈ fds, (fd.id, countIn all fd.id) = agg := by
  rw [orderDescending, (List.mergeSort_perm _ _).mem_iff, pick, List.mem_map]

section PickMost
variable {fds : List FailureDomain} {machines : List Machine} {id : String}

/-- `PickMost` returns a failure domain of `fds` that holds one of `machines`,
and no failure domain of `fds` holding one of them counts more of `all`. -/
theorem pickMost_spec {all : List Machine} (picked : pickMost fds all machines = some id) :
    (∃ m ∈ machines, m.failureDomain = some id) ∧ (∃ fd ∈ fds, fd.id = id) ∧
      ∀ fd ∈ fds, (∃ m ∈ machines, m.failureDomain = some fd.id) →
        countIn all fd.id ≤ countIn all id := by
  obtain ⟨agg, found, rfl⟩ := Option.map_eq_some'.mp picked
  have holds := List.find?_some found
  obtain ⟨fd, mem, rfl⟩ := mem_orderDescending.mp (List.mem_of_find?_eq_some found)
  refine ⟨by simpa using holds, ⟨fd, mem, rfl⟩, fun fd' mem' ⟨m, inMachines, inDomain⟩ => ?_⟩
  exact find?_count_max (orderDescending_sorted fds all) found _
    (mem_orderDescending.mpr ⟨fd', mem', rfl⟩) (by simpa using ⟨m, inMachines, inDomain⟩)

/-- `PickMost` finds a failure domain whenever one of `machines` is in one of `fds`. -/
theorem pickMost_isSome (all : List Machine) (inside : ∃ m ∈ machines, ∃ fd ∈ fds, m.failureDomain = some fd.id) :
    ∃ id, pickMost fds all machines = some id := by
  obtain ⟨m, inMachines, fd, mem, inDomain⟩ := inside
  cases found : (orderDescending fds all).find? fun agg =>
      machines.any (·.failureDomain == some agg.1) with
  | some agg => exact ⟨agg.1, by simp [pickMost, found]⟩
  | none =>
    have := List.find?_eq_none.mp found _ (mem_orderDescending.mpr ⟨fd, mem, rfl⟩)
    simp only [List.any_eq_true, beq_iff_eq, not_exists, not_and] at this
    exact absurd inDomain (this m inMachines)

end PickMost

/-! ## The deletion pick -/

/-- The machine lies outside the cluster's control-plane failure domains; a
machine without a failure domain is outside all of them. -/
def ControlPlane.Outside (c : ControlPlane) (m : Machine) : Prop :=
  ∀ fd ∈ filterControlPlane c.failureDomains, m.failureDomain ≠ some fd.id

/-- What the comments of `FailureDomainWithMostMachines` and
`MachineInFailureDomainWithMostMachines` promise of the pick `m` among
`machines`: a candidate, no candidate of its failure domain older; the failure
domain of the oldest candidate outside the control-plane failure domains when
there is one, and otherwise a control-plane failure domain holding at least
as many of the control plane's machines as any other one holding a candidate. -/
def DeletionPick (c : ControlPlane) (machines : List Machine) (m : Machine) : Prop :=
  m ∈ machines ∧
  (∀ m' ∈ machines, m'.failureDomain = m.failureDomain →
    ¬ m'.creationTimestamp < m.creationTimestamp) ∧
  ((∃ o ∈ machines, c.Outside o) →
    ∃ o ∈ machines, c.Outside o ∧
      (∀ o' ∈ machines, c.Outside o' → ¬ o'.creationTimestamp < o.creationTimestamp) ∧
      m.failureDomain = o.failureDomain) ∧
  ((∀ o ∈ machines, ¬ c.Outside o) →
    ∃ id, m.failureDomain = some id ∧ (∃ fd ∈ filterControlPlane c.failureDomains, fd.id = id) ∧
      ∀ fd ∈ filterControlPlane c.failureDomains, (∃ o ∈ machines, o.failureDomain = some fd.id) →
        c.machines.countP (·.failureDomain == some fd.id) ≤
          c.machines.countP (·.failureDomain == some id))

/-- `pick` counts the machines of a failure domain. -/
theorem countIn_eq_countP (machines : List Machine) (id : String) :
    countIn machines id = machines.countP (·.failureDomain == some id) :=
  (List.countP_eq_length_filter _ _).symm

theorem not_inFailureDomains_iff {c : ControlPlane} {m : Machine} :
    (!inFailureDomains (getIDs (filterControlPlane c.failureDomains)) m) = true ↔ c.Outside m := by
  simp only [Bool.not_eq_true', ControlPlane.Outside, Bool.eq_false_iff, ne_eq,
    inFailureDomains_getIDs]
  simp

/-- The failure domain `FailureDomainWithMostMachines` chooses holds a
candidate and is the one `DeletionPick` describes. -/
theorem failureDomainWithMostMachines_spec (c : ControlPlane) {machines : List Machine}
    (nonempty : machines ≠ []) :
    (∃ o ∈ machines, o.failureDomain = c.failureDomainWithMostMachines machines) ∧
    ((∃ o ∈ machines, c.Outside o) →
      ∃ o ∈ machines, c.Outside o ∧
        (∀ o' ∈ machines, c.Outside o' → ¬ o'.creationTimestamp < o.creationTimestamp) ∧
        c.failureDomainWithMostMachines machines = o.failureDomain) ∧
    ((∀ o ∈ machines, ¬ c.Outside o) →
      ∃ id, c.failureDomainWithMostMachines machines = some id ∧
        (∃ fd ∈ filterControlPlane c.failureDomains, fd.id = id) ∧
        ∀ fd ∈ filterControlPlane c.failureDomains, (∃ o ∈ machines, o.failureDomain = some fd.id) →
          countIn c.machines fd.id ≤ countIn c.machines id) := by
  dsimp only [ControlPlane.failureDomainWithMostMachines]
  cases found : oldest (machines.filter fun m =>
      !inFailureDomains (getIDs (filterControlPlane c.failureDomains)) m) with
  | some o =>
    have mem := List.mem_filter.mp (oldest_mem found)
    have outside := not_inFailureDomains_iff.mp mem.2
    refine ⟨⟨o, mem.1, rfl⟩, fun _ => ⟨o, mem.1, outside, fun o' mem' out' => ?_, rfl⟩,
      fun inside => absurd outside (inside o mem.1)⟩
    exact oldest_le found (List.mem_filter.mpr ⟨mem', not_inFailureDomains_iff.mpr out'⟩)
  | none =>
    have inside : ∀ o ∈ machines, ¬ c.Outside o := fun o mem out =>
      List.filter_eq_nil_iff.mp (List.argmin_eq_none.mp found) o mem
        (not_inFailureDomains_iff.mpr out)
    obtain ⟨m0, mem0⟩ := List.exists_mem_of_ne_nil machines nonempty
    have held : ∃ m ∈ machines, ∃ fd ∈ filterControlPlane c.failureDomains,
        m.failureDomain = some fd.id := ⟨m0, mem0, by
      simpa [ControlPlane.Outside] using inside m0 mem0⟩
    obtain ⟨id, picked⟩ := pickMost_isSome c.machines held
    obtain ⟨⟨o, memO, inO⟩, domain, most⟩ := pickMost_spec picked
    refine ⟨⟨o, memO, by rw [inO, picked]⟩, fun ⟨o', mem', out'⟩ => absurd out' (inside o' mem'),
      fun _ => ⟨id, picked, domain, most⟩⟩

/-- For any non-empty set of candidates, `MachineInFailureDomainWithMostMachines`
returns a machine, with no error, that `DeletionPick` describes. -/
theorem machineInFailureDomainWithMostMachines_picks (c : ControlPlane) (machines : List Machine)
    (nonempty : machines ≠ []) :
    ∃ m, c.machineInFailureDomainWithMostMachines machines = .ok m ∧
      DeletionPick c machines m := by
  obtain ⟨⟨o, memO, inO⟩, outsideCase, insideCase⟩ :=
    failureDomainWithMostMachines_spec c nonempty
  have inDomain : o ∈ machines.filter (inFailureDomains [c.failureDomainWithMostMachines machines]) :=
    List.mem_filter.mpr ⟨memO, inFailureDomains_single.mpr inO⟩
  obtain ⟨m, found⟩ := oldest_isSome inDomain
  have mem := List.mem_filter.mp (oldest_mem found)
  have domain := inFailureDomains_single.mp mem.2
  refine ⟨m, by simp [ControlPlane.machineInFailureDomainWithMostMachines, found], mem.1,
    fun m' mem' same => oldest_le found (List.mem_filter.mpr ⟨mem', ?_⟩), ?_, ?_⟩
  · exact inFailureDomains_single.mpr (same.trans domain)
  · intro outside
    obtain ⟨o, memO, out, least, chosen⟩ := outsideCase outside
    exact ⟨o, memO, out, least, domain.trans chosen⟩
  · intro inside
    obtain ⟨id, chosen, cp, most⟩ := insideCase inside
    exact ⟨id, domain.trans chosen, cp, fun fd mem held => by
      simpa only [countIn_eq_countP] using most fd mem held⟩

/-- Three control-plane machines over the control-plane failure domains `zone-a`
(two of them) and `zone-b`, and the candidates `a-new` and `b-old`: the pick is
in the fuller `zone-a`, though `b-old` is the older candidate. -/
theorem machineInFailureDomainWithMostMachines_picks_fullest :
    let aNew : Machine := ⟨"a-new", 3, false, [], some "zone-a", some "node-1", Conditions.empty⟩
    let aOld : Machine := ⟨"a-old", 1, false, [], some "zone-a", some "node-2", Conditions.empty⟩
    let bOld : Machine := ⟨"b-old", 2, false, [], some "zone-b", some "node-3", Conditions.empty⟩
    let c : ControlPlane :=
      ⟨⟨Conditions.empty⟩, [⟨"zone-a", true⟩, ⟨"zone-b", true⟩, ⟨"zone-c", false⟩], [aNew, aOld, bOld]⟩
    ∃ m, c.machineInFailureDomainWithMostMachines [aNew, bOld] = .ok m ∧
      DeletionPick c [aNew, bOld] m ∧ m.failureDomain = some "zone-a" := by
  intro aNew aOld bOld c
  obtain ⟨m, picked, pick⟩ := machineInFailureDomainWithMostMachines_picks c [aNew, bOld] (by simp)
  obtain ⟨id, domain, -, most⟩ := pick.2.2.2 (by
    simp [ControlPlane.Outside, filterControlPlane, c, aNew, bOld])
  have fuller := most ⟨"zone-a", true⟩ (by simp [filterControlPlane, c]) ⟨aNew, by simp, rfl⟩
  refine ⟨m, picked, pick, domain.trans ?_⟩
  by_contra other
  simp only [c, aNew, aOld, bOld, List.countP_cons, List.countP_nil] at fuller
  split_ifs at fuller <;> simp_all

/-! ## Rollout and scale-up -/

/-- The two machine predicates the rollout helpers take from outside this
package: `collections.ShouldRolloutAfter` at the reconciliation time and the
KCP's `RolloutAfter`, and `MatchesMachineSpec` against the KCP's configuration. -/
structure RolloutCheck where
  shouldRolloutAfter : Machine → Bool
  matchesMachineSpec : Machine → Bool

/-- `ControlPlane.MachinesNeedingRollout`: of the machines not being deleted,
those due for rollout or not matching the KCP's configuration. -/
def ControlPlane.machinesNeedingRollout (c : ControlPlane) (check : RolloutCheck) :
    List Machine :=
  (c.machines.filter fun m => !m.deleting).filter fun m =>
    check.shouldRolloutAfter m || !check.matchesMachineSpec m

/-- `ControlPlane.UpToDateMachines`. -/
def ControlPlane.upToDateMachines (c : ControlPlane) (check : RolloutCheck) : List Machine :=
  c.machines.filter fun m => !check.shouldRolloutAfter m && check.matchesMachineSpec m

/-- `ControlPlane.NextFailureDomainForScaleUp`. -/
def ControlPlane.nextFailureDomainForScaleUp (c : ControlPlane) (check : RolloutCheck) :
    Option String :=
  if (filterControlPlane c.failureDomains).length = 0 then none
  else pickFewest (filterControlPlane c.failureDomains) (c.upToDateMachines check)

/-- The machines not being deleted are split, as a multiset, between the
up-to-date ones and those needing rollout. -/
theorem machinesNeedingRollout_perm (c : ControlPlane) (check : RolloutCheck) :
    List.Perm ((c.upToDateMachines check).filter (fun m => !m.deleting) ++
        c.machinesNeedingRollout check) (c.machines.filter fun m => !m.deleting) := by
  have upToDate : (c.upToDateMachines check).filter (fun m => !m.deleting) =
      (c.machines.filter fun m => !m.deleting).filter fun m =>
        !check.shouldRolloutAfter m && check.matchesMachineSpec m := by
    simp only [ControlPlane.upToDateMachines, List.filter_filter, Bool.and_comm]
  have needing : c.machinesNeedingRollout check =
      (c.machines.filter fun m => !m.deleting).filter fun m =>
        !(!check.shouldRolloutAfter m && check.matchesMachineSpec m) := by
    simp only [ControlPlane.machinesNeedingRollout, Bool.not_and, Bool.not_not]
  rw [upToDate, needing]
  exact List.filter_append_perm _ _

/-- `PickFewest` returns nil only for no failure domain, and otherwise a
failure domain of `fds` holding no more of `machines` than any other. -/
theorem pickFewest_spec (fds : List FailureDomain) (machines : List Machine) :
    (pickFewest fds machines = none ↔ fds = []) ∧
    ∀ id, pickFewest fds machines = some id →
      (∃ fd ∈ fds, fd.id = id) ∧ ∀ fd ∈ fds, countIn machines id ≤ countIn machines fd.id := by
  have perm := List.mergeSort_perm (pick fds machines) fun x y => decide (x.2 ≤ y.2)
  have sorted : ((pick fds machines).mergeSort fun x y => decide (x.2 ≤ y.2)).Pairwise
      fun a b => decide (a.2 ≤ b.2) :=
    List.sorted_mergeSort (fun _ _ _ ab bc => by simp at *; omega)
      (fun a b => by simpa using Nat.le_total a.2 b.2) _
  refine ⟨?_, fun id picked => ?_⟩
  · simp only [pickFewest, Option.map_eq_none', List.head?_eq_none_iff]
    rw [← List.length_eq_zero, perm.length_eq]
    simp [pick]
  · obtain ⟨agg, first, rfl⟩ := Option.map_eq_some'.mp picked
    obtain ⟨rest, sortedEq⟩ := List.head?_eq_some_iff.mp first
    rw [sortedEq] at sorted perm
    have inPick : agg ∈ pick fds machines := perm.mem_iff.mp (List.mem_cons_self _ _)
    obtain ⟨fd, mem, aggEq⟩ := List.mem_map.mp inPick
    refine ⟨⟨fd, mem, by rw [← aggEq]⟩, fun fd' mem' => ?_⟩
    have other : (fd'.id, countIn machines fd'.id) ∈ agg :: rest :=
      perm.mem_iff.mpr (List.mem_map.mpr ⟨fd', mem', rfl⟩)
    rw [← aggEq] at other sorted ⊢
    rcases List.mem_cons.mp other with same | later
    · rw [← same]
    · simpa using (List.pairwise_cons.mp sorted).1 _ later

/-- `NextFailureDomainForScaleUp` returns nil only when the cluster has no
control-plane failure domain, and otherwise one of them holding the fewest
up-to-date machines. -/
theorem nextFailureDomainForScaleUp_spec (c : ControlPlane) (check : RolloutCheck) :
    (c.nextFailureDomainForScaleUp check = none ↔ filterControlPlane c.failureDomains = []) ∧
    ∀ id, c.nextFailureDomainForScaleUp check = some id →
      (∃ fd ∈ filterControlPlane c.failureDomains, fd.id = id) ∧
      ∀ fd ∈ filterControlPlane c.failureDomains,
        (c.upToDateMachines check).countP (·.failureDomain == some id) ≤
          (c.upToDateMachines check).countP (·.failureDomain == some fd.id) := by
  obtain ⟨noneIff, someSpec⟩ := pickFewest_spec (filterControlPlane c.failureDomains)
    (c.upToDateMachines check)
  simp only [countIn_eq_countP] at someSpec
  by_cases empty : filterControlPlane c.failureDomains = []
  · simp [ControlPlane.nextFailureDomainForScaleUp, empty]
  · have nonzero : (filterControlPlane c.failureDomains).length ≠ 0 := by
      simpa [List.length_eq_zero] using empty
    simp only [ControlPlane.nextFailureDomainForScaleUp, nonzero, if_false]
    exact ⟨noneIff, someSpec⟩

end KubeKey.ControlPlaneView
