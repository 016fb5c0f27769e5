import Mathlib.Logic.Function.Basic

/-! Conditions as cluster-api's `util/conditions` keeps them on an object: at
most one condition per type, written by `MarkTrue`, `MarkFalse` and
`MarkUnknown` and read by `Get` and `IsTrue`. Every controller in this
development writes status only through these operations, so each result about
which conditions a function touches reduces to the lemmas at the end. -/
namespace KubeKey.ConditionStore

/-- `corev1.ConditionStatus`. -/
inductive ConditionStatus
  | conditionTrue
  | conditionFalse
  | conditionUnknown
  deriving DecidableEq, Repr

/-- `clusterv1.ConditionSeverity`; `none` is the empty severity of `True` and
`Unknown` conditions. -/
inductive ConditionSeverity
  | error
  | warning
  | info
  | none
  deriving DecidableEq, Repr

/-- The condition types the modelled controllers read or write. -/
inductive ConditionType
  | kkInstanceBootstrapped
  | kkInstanceRepositoryReady
  | kkInstanceBinariesReady
  | kkInstanceCRIReady
  | kkInstanceProvisioned
  | kkInstanceDeletingBootstrap
  | machineAgentHealthy
  | machineEtcdMemberHealthy
  | controlPlaneComponentsHealthy
  | etcdClusterHealthy
  deriving DecidableEq, Repr

/-- The reason constants of `infrav1`, `infracontrolplanev1`, `controlplanev1`
and `clusterv1` that the modelled controllers write. -/
inductive Reason
  | kkInstanceInitOSFailed
  | kkInstanceRepositoryFailed
  | kkInstanceGetBinaryFailed
  | kkInstanceInstallCRIFailed
  | kkInstanceRunCloudConfigFailed
  | kkInstanceClearEnvironmentFailed
  | deleting
  | podInspectionFailed
  | podMissing
  | podFailed
  | controlPlaneComponentsInspectionFailed
  | controlPlaneComponentsUnhealthy
  | controlPlaneComponentsUnknown
  | etcdClusterInspectionFailed
  | etcdMemberInspectionFailed
  deriving DecidableEq, Repr

/-- A condition message as handed to `fmt.Sprintf`: the format and its
arguments. The rendered text is a function of the pair, so two equal messages
render alike. -/
structure Message where
  format : String
  args : List String
  deriving DecidableEq, Repr

/-- One `clusterv1.Condition` without its type and transition time. `reason` is
`none` for the empty reason of a `True` condition. -/
structure Condition where
  status : ConditionStatus
  severity : ConditionSeverity
  reason : Option Reason
  message : Message
  deriving DecidableEq, Repr

/-- The conditions of one object, one per type, as `conditions.Get` sees them. -/
abbrev Conditions := ConditionType → Option Condition

/-- No condition set, as on a freshly created object. -/
def Conditions.empty : Conditions := fun _ => none

/-- `conditions.TrueCondition`. -/
def trueCondition : Condition :=
  ⟨.conditionTrue, .none, none, ⟨"", []⟩⟩

/-- `conditions.FalseCondition`. -/
def falseCondition (reason : Reason) (severity : ConditionSeverity) (format : String)
    (args : List String) : Condition :=
  ⟨.conditionFalse, severity, some reason, ⟨format, args⟩⟩

/-- `conditions.UnknownCondition`. -/
def unknownCondition (reason : Reason) (format : String) (args : List String) : Condition :=
  ⟨.conditionUnknown, .none, some reason, ⟨format, args⟩⟩

/-- `conditions.Set`: the condition replaces the one of its type. -/
def set (cs : Conditions) (t : ConditionType) (c : Condition) : Conditions :=
  Function.update cs t (some c)

/-- `conditions.MarkTrue`. -/
def markTrue (cs : Conditions) (t : ConditionType) : Conditions :=
  set cs t trueCondition

/-- `conditions.MarkFalse`. -/
def markFalse (cs : Conditions) (t : ConditionType) (reason : Reason)
    (severity : ConditionSeverity) (format : String) (args : List String) : Conditions :=
  set cs t (falseCondition reason severity format args)

/-- `conditions.MarkUnknown`. -/
def markUnknown (cs : Conditions) (t : ConditionType) (reason : Reason) (format : String)
    (args : List String) : Conditions :=
  set cs t (unknownCondition reason format args)

/-- `conditions.IsTrue`: the condition is set and its status is `True`. -/
def isTrue (cs : Conditions) (t : ConditionType) : Bool :=
  match cs t with
  | some c => c.status == .conditionTrue
  | none => false

@[simp] theorem set_self (cs : Conditions) (t : ConditionType) (c : Condition) :
    set cs t c t = some c := Function.update_same _ _ _

@[simp] theorem set_of_ne {cs : Conditions} {t t' : ConditionType} (c : Condition)
    (other : t' ≠ t) : set cs t c t' = cs t' := Function.update_noteq other _ _

@[simp] theorem empty_apply (t : ConditionType) : Conditions.empty t = none := rfl

theorem isTrue_iff {cs : Conditions} {t : ConditionType} :
    isTrue cs t = true ↔ ∃ c, cs t = some c ∧ c.status = .conditionTrue := by
  unfold isTrue
  cases cs t <;> simp

@[simp] theorem isTrue_markTrue (cs : Conditions) (t : ConditionType) :
    isTrue (markTrue cs t) t = true := by
  simp [isTrue, markTrue, trueCondition]

@[simp] theorem isTrue_markFalse (cs : Conditions) (t : ConditionType) (reason : Reason)
    (severity : ConditionSeverity) (format : String) (args : List String) :
    isTrue (markFalse cs t reason severity format args) t = false := by
  simp [isTrue, markFalse, falseCondition]

/-- A condition that is already `True` is left as it is by `MarkTrue`: only
`MarkTrue` builds a `True` condition, and it always builds the same one. -/
theorem markTrue_of_eq {cs : Conditions} {t : ConditionType} (was : cs t = some trueCondition) :
    markTrue cs t = cs := by
  funext t'
  by_cases same : t' = t
  · subst same; simp [markTrue, was]
  · simp [markTrue, same]

end KubeKey.ConditionStore
