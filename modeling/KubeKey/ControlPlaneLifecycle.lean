import KubeKey.ControlPlaneView

/-! How a `ControlPlane` is built and written back (`NewControlPlane`,
`getInfraResources`, `getK3sConfigs` and `PatchMachines` in the `cluster`
package).

1. **The per-machine loops.** `getInfraResources`, `getK3sConfigs` and the
   patch-helper loop of `NewControlPlane` are one loop, `fetchEach`: one call per
   owned machine, a machine whose object is not found passed over, and the first
   other error the result. `fetchEach_eq` says once what it returns. The loops
   walk a Go map, so the order differs from call to call; whether they succeed,
   and what they collect, does not (`fetchEach_perm`), while which machine a
   failure names does (the example after it).

2. **Building.** `NewControlPlane` succeeds exactly when no call of the three
   loops fails with an error other than `NotFound`, and then holds what they found
   (`newControlPlane_eq_ok_iff`).

3. **Writing back.** `PatchMachines` does not stop at a failure: it patches every
   machine that has a helper and collects one error per machine it could not
   write. For a control plane `NewControlPlane` built, every machine has a helper,
   so every machine is patched and the errors are exactly those of the failed
   patches (`patchMachines_newControlPlane`).

The API server's answers are inputs, one per machine and call. Each loop of
`NewControlPlane` walks the map in its own order; the model gives them one list,
which by `fetchEach_perm` changes only which machine a failure names. -/
namespace KubeKey.ControlPlaneLifecycle
open KubeKey.ConditionStore KubeKey.ControlPlaneView

/-- What a call to the management cluster for one machine answers: the object,
`NotFound`, or another error. -/
inductive Fetched (α : Type)
  | found (obj : α)
  | notFound
  | failed (err : String)
  deriving DecidableEq, Repr

/-- An answer that is never `NotFound`, such as `patch.NewHelper`'s. -/
def Fetched.ofExcept {α : Type} : Except String α → Fetched α
  | .ok obj => .found obj
  | .error err => .failed err

/-- An error of these functions: `errors.Wrapf` of the error it wraps, or
`errors.Errorf` with none; the format and its arguments as `fmt` receives them. -/
structure ObjectError where
  message : Message
  cause : Option String
  deriving DecidableEq, Repr

/-- The loop of `getInfraResources`, `getK3sConfigs` and the patch helpers, over
the machines in their enumeration order. A machine with nothing to fetch (`none`)
or whose object is not found is passed over; the first other error ends the loop,
wrapped with `format` and the machine's name; otherwise each object is recorded
under its machine's name. -/
def fetchEach {α : Type} (format : String) (fetch : Machine → Option (Fetched α)) :
    List Machine → Except ObjectError (List (String × α))
  | [] => .ok []
  | m :: ms =>
    match fetch m with
    | none | some .notFound => fetchEach format fetch ms
    | some (.failed err) => .error ⟨⟨format, [m.name]⟩, some err⟩
    | some (.found obj) => (fetchEach format fetch ms).map ((m.name, obj) :: ·)

/-- `getInfraResources`: `external.Get` of each machine's infrastructure reference. -/
def getInfraResources {α : Type} (getInfra : Machine → Fetched α) (machines : List Machine) :
    Except ObjectError (List (String × α)) :=
  fetchEach "failed to retrieve infra obj for machine %q" (fun m => some (getInfra m)) machines

/-- `getK3sConfigs`: the `K3sConfig` named by each machine's
`Spec.Bootstrap.ConfigRef`; a machine without one is passed over before any call. -/
def getK3sConfigs {β : Type} (configRef : Machine → Option String) (getConfig : String → Fetched β)
    (machines : List Machine) : Except ObjectError (List (String × β)) :=
  fetchEach "failed to retrieve bootstrap config for machine %q" (fun m => (configRef m).map getConfig)
    machines

/-- The loop of `NewControlPlane` that makes a `patch.NewHelper` per machine; no
machine is passed over. -/
def makePatchHelpers {γ : Type} (newHelper : Machine → Except String γ) (machines : List Machine) :
    Except ObjectError (List (String × γ)) :=
  fetchEach "failed to create patch helper for machine %s" (fun m => some (.ofExcept (newHelper m)))
    machines

/-- A `ControlPlane` as `NewControlPlane` returns it: the view, and the patch
helpers, bootstrap configs and infrastructure objects by machine name. -/
structure LiveControlPlane (α β γ : Type) where
  view : ControlPlane
  patchHelpers : List (String × γ)
  k3sConfigs : List (String × β)
  infraResources : List (String × α)

/-- `NewControlPlane` over the owned machines. -/
def newControlPlane {α β γ : Type} (kcp : KCP) (failureDomains : List FailureDomain)
    (getInfra : Machine → Fetched α) (configRef : Machine → Option String)
    (getConfig : String → Fetched β) (newHelper : Machine → Except String γ)
    (machines : List Machine) : Except ObjectError (LiveControlPlane α β γ) := do
  let infraObjects ← getInfraResources getInfra machines
  let k3sConfigs ← getK3sConfigs configRef getConfig machines
  let patchHelpers ← makePatchHelpers newHelper machines
  return ⟨⟨kcp, failureDomains, machines⟩, patchHelpers, k3sConfigs, infraObjects⟩

/-- The error `PatchMachines` collects when `helper.Patch` fails for a machine. -/
def patchError {γ : Type} (patch : γ → Machine → Option String) (helper : γ) (m : Machine) :
    Option ObjectError :=
  (patch helper m).map fun err => ⟨⟨"failed to patch machine %s", [m.name]⟩, some err⟩

/-- `PatchMachines`, for each machine in order: a patch through its helper, or the
error that it has none. It returns the errors it collected, which
`kerrors.NewAggregate` makes nil when there are none, and the machines it
patched. -/
def patchMachines {γ : Type} (patch : γ → Machine → Option String) (patchHelpers : List (String × γ)) :
    List Machine → List ObjectError × List String
  | [] => ([], [])
  | m :: ms =>
    let (errList, patched) := patchMachines patch patchHelpers ms
    match patchHelpers.lookup m.name with
    | some helper => ((patchError patch helper m).toList ++ errList, m.name :: patched)
    | none => (⟨⟨"failed to get patch helper for machine %s", [m.name]⟩, none⟩ :: errList, patched)

/-! ## The per-machine loops -/

section Fetch
variable {α : Type} {format : String} {fetch : Machine → Option (Fetched α)}
  {machines machines' : List Machine}

/-- A machine whose call fails with an error other than `NotFound`. -/
def Fails (fetch : Machine → Option (Fetched α)) (m : Machine) : Prop :=
  ∃ err, fetch m = some (.failed err)

/-- The error the loop stops at for a machine, if its call fails. -/
def fetchError (format : String) (fetch : Machine → Option (Fetched α)) (m : Machine) :
    Option ObjectError :=
  match fetch m with
  | some (.failed err) => some ⟨⟨format, [m.name]⟩, some err⟩
  | _ => none

/-- What the loop collects when it succeeds: each found object under its machine's name. -/
def collected (fetch : Machine → Option (Fetched α)) (machines : List Machine) : List (String × α) :=
  machines.filterMap fun m =>
    match fetch m with
    | some (.found obj) => some (m.name, obj)
    | _ => none

theorem fetchError_eq_some {m : Machine} {e : ObjectError} :
    fetchError format fetch m = some e ↔
      ∃ err, fetch m = some (.failed err) ∧ e = ⟨⟨format, [m.name]⟩, some err⟩ := by
  rcases fetched : fetch m with _ | (obj | _ | err) <;> simp [fetchError, fetched, eq_comm]

theorem fetchError_eq_none {m : Machine} : fetchError format fetch m = none ↔ ¬Fails fetch m := by
  rcases fetched : fetch m with _ | (obj | _ | err) <;> simp [fetchError, Fails, fetched]

/-- What the loop returns: the error of the first machine whose call fails with an
error other than `NotFound`, and otherwise every found object. -/
theorem fetchEach_eq (machines : List Machine) :
    fetchEach format fetch machines =
      match machines.findSome? (fetchError format fetch) with
      | some e => .error e
      | none => .ok (collected fetch machines) := by
  induction machines with
  | nil => rfl
  | cons m ms ih =>
    rcases fetched : fetch m with _ | (obj | _ | err) <;>
      simp only [fetchEach, fetched, ih, List.findSome?_cons, fetchError, collected, List.filterMap_cons]
    cases ms.findSome? (fetchError format fetch) <;> rfl

theorem fetchEach_eq_ok_iff (objects : List (String × α)) :
    fetchEach format fetch machines = .ok objects ↔
      (∀ m ∈ machines, ¬Fails fetch m) ∧ objects = collected fetch machines := by
  rw [fetchEach_eq]
  rcases found : machines.findSome? (fetchError format fetch) with _ | e
  · have none := List.findSome?_eq_none_iff.mp found
    exact ⟨fun ok => ⟨fun m mem => fetchError_eq_none.mp (none m mem), (Except.ok.inj ok).symm⟩,
      fun ⟨_, rest⟩ => congrArg Except.ok rest.symm⟩
  · obtain ⟨m, mem, named⟩ := List.exists_of_findSome?_eq_some found
    simp only [reduceCtorEq, false_iff, not_and]
    exact fun ok => absurd (named.symm.trans (fetchError_eq_none.mpr (ok m mem))) (Option.some_ne_none e)

/-- When the loop fails, it names a machine whose call failed with an error other
than `NotFound`, and wraps that error. -/
theorem fetchEach_eq_error {e : ObjectError} (failed : fetchEach format fetch machines = .error e) :
    ∃ m ∈ machines, ∃ err, fetch m = some (.failed err) ∧ e = ⟨⟨format, [m.name]⟩, some err⟩ := by
  rw [fetchEach_eq] at failed
  rcases found : machines.findSome? (fetchError format fetch) with _ | e'
  · simp [found] at failed
  · obtain ⟨m, mem, named⟩ := List.exists_of_findSome?_eq_some found
    simp only [found, Except.error.injEq] at failed
    exact ⟨m, mem, fetchError_eq_some.mp (failed ▸ named)⟩

theorem collected_cons (m : Machine) (ms : List Machine) :
    collected fetch (m :: ms) =
      match fetch m with
      | some (.found obj) => (m.name, obj) :: collected fetch ms
      | _ => collected fetch ms := by
  rcases fetched : fetch m with _ | (obj | _ | err) <;> simp [collected, fetched]

theorem lookup_collected_of_not_mem {name : String} (absent : name ∉ machines.map (·.name)) :
    (collected fetch machines).lookup name = none := by
  induction machines with
  | nil => rfl
  | cons m ms ih =>
    simp only [List.map_cons, List.mem_cons, not_or] at absent
    rw [collected_cons]
    rcases fetch m with _ | (obj | _ | err) <;> simp [List.lookup_cons, beq_false_of_ne absent.1, ih absent.2]

/-- A table of objects by machine name has, for a machine of the loop whose
names are unique, exactly the object found for it. -/
theorem lookup_collected (unique : (machines.map (·.name)).Nodup)
    {m : Machine} (mem : m ∈ machines) :
    (collected fetch machines).lookup m.name =
      match fetch m with
      | some (.found obj) => some obj
      | _ => none := by
  induction machines with
  | nil => cases mem
  | cons m' ms ih =>
    rw [List.map_cons, List.nodup_cons] at unique
    rw [collected_cons]
    rcases List.mem_cons.mp mem with rfl | mem
    · have absent : (collected fetch ms).lookup m.name = none := lookup_collected_of_not_mem unique.1
      rcases fetch m with _ | (obj | _ | err) <;> simp [List.lookup_cons, absent]
    · have ne : m.name ≠ m'.name := fun same => unique.1 (same ▸ List.mem_map_of_mem _ mem)
      rcases fetch m' with _ | (obj | _ | err) <;> simp [List.lookup_cons, beq_false_of_ne ne, ih unique.2 mem]

/-- Two outcomes of a loop that agree up to the order of the machines: both
collect the same objects, reordered, or both fail. -/
def SameOutcome {ε β : Type} : Except ε (List β) → Except ε (List β) → Prop
  | .ok objects, .ok objects' => objects.Perm objects'
  | .error _, .error _ => True
  | _, _ => False

/-- The loops do not depend on the order of the machines: over any two orders both
succeed with the same objects, or both fail. -/
theorem fetchEach_perm (perm : machines.Perm machines') :
    SameOutcome (fetchEach format fetch machines) (fetchEach format fetch machines') := by
  have same : machines.findSome? (fetchError format fetch) = none ↔
      machines'.findSome? (fetchError format fetch) = none := by
    simp only [List.findSome?_eq_none_iff, perm.mem_iff]
  rw [fetchEach_eq, fetchEach_eq]
  rcases found : machines.findSome? (fetchError format fetch) with _ | e
  · rw [same.mp found]
    exact perm.filterMap _
  · rcases found' : machines'.findSome? (fetchError format fetch) with _ | e'
    · cases found.symm.trans (same.mpr found')
    · trivial

theorem getInfraResources_perm_swap :
    let a : Machine := ⟨"machine-a", 0, false, [], none, none, Conditions.empty⟩
    let b : Machine := ⟨"machine-b", 1, false, [], none, none, Conditions.empty⟩
    let getInfra : Machine → Fetched String := fun m => if m.name = "machine-a" then .notFound else .found m.name
    SameOutcome (getInfraResources getInfra [a, b]) (getInfraResources getInfra [b, a]) :=
  fetchEach_perm (List.Perm.swap _ _ _)

end Fetch

/-- Which machine a failure names depends on the order. -/
example :
    let a : Machine := ⟨"machine-a", 0, false, [], none, none, Conditions.empty⟩
    let b : Machine := ⟨"machine-b", 0, false, [], none, none, Conditions.empty⟩
    let getInfra : Machine → Fetched Unit := fun m => .failed ("timeout on " ++ m.name)
    getInfraResources getInfra [a, b] =
        .error ⟨⟨"failed to retrieve infra obj for machine %q", ["machine-a"]⟩, some "timeout on machine-a"⟩ ∧
      getInfraResources getInfra [b, a] =
        .error ⟨⟨"failed to retrieve infra obj for machine %q", ["machine-b"]⟩, some "timeout on machine-b"⟩ :=
  ⟨rfl, rfl⟩

/-! ## Building and writing back -/

theorem bind_eq_ok {ε α β : Type} {x : Except ε α} {f : α → Except ε β} {b : β} :
    x >>= f = .ok b ↔ ∃ a, x = .ok a ∧ f a = .ok b := by
  cases x <;> simp [bind, Except.bind]

section Build
variable {α β γ : Type} {kcp : KCP} {failureDomains : List FailureDomain}
  {getInfra : Machine → Fetched α} {configRef : Machine → Option String}
  {getConfig : String → Fetched β} {newHelper : Machine → Except String γ}
  {machines : List Machine}

/-- `NewControlPlane` succeeds exactly when no call of its three loops fails with
an error other than `NotFound`; it then keeps the machines and holds every object
found, under its machine's name. -/
theorem newControlPlane_eq_ok_iff (live : LiveControlPlane α β γ) :
    newControlPlane kcp failureDomains getInfra configRef getConfig newHelper machines = .ok live ↔
      (∀ m ∈ machines, ¬Fails (fun m => some (getInfra m)) m ∧
        ¬Fails (fun m => (configRef m).map getConfig) m ∧ ¬Fails (fun m => some (.ofExcept (newHelper m))) m) ∧
      live = ⟨⟨kcp, failureDomains, machines⟩, collected (fun m => some (.ofExcept (newHelper m))) machines,
        collected (fun m => (configRef m).map getConfig) machines, collected (fun m => some (getInfra m)) machines⟩ := by
  simp only [newControlPlane, bind_eq_ok, getInfraResources, getK3sConfigs, makePatchHelpers, fetchEach_eq_ok_iff]
  constructor
  · rintro ⟨_, ⟨infraOk, rfl⟩, _, ⟨configOk, rfl⟩, _, ⟨helperOk, rfl⟩, built⟩
    exact ⟨fun m mem => ⟨infraOk m mem, configOk m mem, helperOk m mem⟩, (Except.ok.inj built).symm⟩
  · rintro ⟨ok, rfl⟩
    exact ⟨_, ⟨fun m mem => (ok m mem).1, rfl⟩, _, ⟨fun m mem => (ok m mem).2.1, rfl⟩, _,
      ⟨fun m mem => (ok m mem).2.2, rfl⟩, rfl⟩

theorem patchMachines_of_lookup (patch : γ → Machine → Option String) {patchHelpers : List (String × γ)}
    (ms : List Machine) (hasHelper : ∀ m ∈ ms, (patchHelpers.lookup m.name).isSome) :
    patchMachines patch patchHelpers ms =
      (ms.filterMap fun m => (patchHelpers.lookup m.name).bind (patchError patch · m), ms.map (·.name)) := by
  induction ms with
  | nil => rfl
  | cons m ms ih =>
    obtain ⟨helper, found⟩ := Option.isSome_iff_exists.mp (hasHelper m (List.mem_cons_self _ _))
    simp only [patchMachines, ih fun m' mem => hasHelper m' (List.mem_cons_of_mem _ mem), found,
      List.filterMap_cons, Option.some_bind, List.map_cons]
    cases patchError patch helper m <;> rfl

/-- A control plane that `NewControlPlane` built over machines of distinct names
has a patch helper for every machine, so `PatchMachines` patches every machine,
whatever the other patches answer, and its errors are exactly those of the failed
patches, in order. -/
theorem patchMachines_newControlPlane {live : LiveControlPlane α β γ}
    (built : newControlPlane kcp failureDomains getInfra configRef getConfig newHelper machines = .ok live)
    (unique : (machines.map (·.name)).Nodup) (patch : γ → Machine → Option String) :
    patchMachines patch live.patchHelpers live.view.machines =
      (machines.filterMap fun m => (newHelper m).toOption.bind (patchError patch · m),
        machines.map (·.name)) := by
  obtain ⟨ok, rfl⟩ := (newControlPlane_eq_ok_iff _).mp built
  have made : ∀ m ∈ machines, ∃ helper, newHelper m = .ok helper := fun m mem => by
    cases h : newHelper m with
    | ok helper => exact ⟨helper, rfl⟩
    | error err => exact absurd ⟨err, by simp [h, Fetched.ofExcept]⟩ (ok m mem).2.2
  have found : ∀ m ∈ machines,
      (collected (fun m => some (.ofExcept (newHelper m))) machines).lookup m.name = (newHelper m).toOption :=
    fun m mem => by
      obtain ⟨helper, h⟩ := made m mem
      rw [lookup_collected unique mem, h]
      rfl
  dsimp only
  rw [patchMachines_of_lookup patch machines fun m mem => by
    obtain ⟨helper, h⟩ := made m mem
    simp [found m mem, h, Except.toOption]]
  exact Prod.ext (List.filterMap_congr fun m mem => by rw [found m mem]) rfl

theorem patchMachines_newControlPlane_conflict :
    let a : Machine := ⟨"machine-a", 0, false, [], none, none, Conditions.empty⟩
    let b : Machine := ⟨"machine-b", 1, false, [], none, none, Conditions.empty⟩
    let patch : Unit → Machine → Option String := fun _ m => if m.name = "machine-b" then some "conflict" else none
    let live : LiveControlPlane Unit Unit Unit :=
      ⟨⟨⟨Conditions.empty⟩, [], [a, b]⟩, [("machine-a", ()), ("machine-b", ())], [], [("machine-a", ()), ("machine-b", ())]⟩
    newControlPlane ⟨Conditions.empty⟩ [] (fun _ => .found ()) (fun _ => none) (fun _ => .found ()) (fun _ => .ok ())
        [a, b] = .ok live ∧
      patchMachines patch live.patchHelpers live.view.machines =
        ([⟨⟨"failed to patch machine %s", ["machine-b"]⟩, some "conflict"⟩], ["machine-a", "machine-b"]) := by
  intro a b patch live
  have built : newControlPlane ⟨Conditions.empty⟩ [] (fun _ => .found ()) (fun _ => none) (fun _ => .found ())
      (fun _ => .ok ()) [a, b] = .ok live := rfl
  exact ⟨built, (patchMachines_newControlPlane built (by decide) patch).trans rfl⟩

end Build

end KubeKey.ControlPlaneLifecycle
