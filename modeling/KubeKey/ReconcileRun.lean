import Mathlib.Logic.Relation
import Mathlib.Data.List.Basic
import Mathlib.Data.List.Nodup
import KubeKey.InstancePhases

/-! The KKInstance controller over whole runs. A run is any sequence of steps,
each either the start of a reconcile or the next phase of the current one,
with the host free to answer each call as it likes. From one invariant,
established at the start and kept by every step, follow the facts about every
reachable state: the phase conditions of the list, read in order, are `True`
for a prefix, then at most one `False` holding the last error, then unset; no
condition outside the list is written; a `True` phase stays `True` and calls
nothing again. And from any state, the reconcile against one host
(`reconcileWith`, each phase answered by that host) is a run, and on a host
that answers every call with success it leaves every listed condition `True`. -/
namespace KubeKey.ReconcileRun
open KubeKey.ConditionStore KubeKey.InstancePhases

/-- One phase execution of a run: the phase, its error and the calls it made. -/
structure Attempt where
  phase : Phase
  err : Option String
  issued : List ServiceCall

/-- The state of a run: the instance, the phases left in the current
reconcile, and every phase execution so far, the latest first. -/
structure RunState where
  kkInstance : KKInstance
  pending : List Phase
  attempts : List Attempt

/-- A run that has done nothing yet. -/
def RunState.start (inst : KKInstance) : RunState := ⟨inst, [], []⟩

/-- The state after phase `p` ran with result `res`: the reconcile goes on
with `rest` when `p` returned `nil` and stops otherwise. -/
def RunState.record (s : RunState) (p : Phase) (rest : List Phase) (res : PhaseResult) :
    RunState :=
  ⟨res.kkInstance, if res.err.isNone then rest else [], ⟨p, res.err, res.issued⟩ :: s.attempts⟩

/-- Modelled from the spec: the reconcile loop of `kkinstance_controller.go` is
not under src/. A reconcile runs the list `phaseFactory` returns in order and
stops at the first phase that returns an error; a new reconcile may begin at
any point, so runs that are cut short are runs too. -/
inductive Step (r : Reconciler) (d : Distribution) : RunState → RunState → Prop
  | reconcile (s : RunState) : Step r d s { s with pending := phaseFactory d }
  | phase (s : RunState) (p : Phase) (rest : List Phase) (a : Answers)
      (next : s.pending = p :: rest) : Step r d s (s.record p rest (p.run r a s.kkInstance))

/-- Any number of steps. -/
def Steps (r : Reconciler) (d : Distribution) : RunState → RunState → Prop :=
  Relation.ReflTransGen (Step r d)

/-- An instance on which no install phase has set its condition yet. -/
structure FreshInstance where
  kkInstance : KKInstance
  fresh : ∀ p : Phase, kkInstance.conditions p.condition = none

/-- The states a run from `init` can reach. -/
def Reachable (r : Reconciler) (d : Distribution) (init : FreshInstance) (s : RunState) : Prop :=
  Steps r d (RunState.start init.kkInstance) s

/-- The latest execution of `p` in a history, latest first. -/
def lastAttempt (p : Phase) : List Attempt → Option Attempt
  | [] => none
  | last :: earlier => if last.phase = p then some last else lastAttempt p earlier

/-- The conditions of `phases` read in list order: `True` for a prefix, then at
most one `False`, then unset. -/
def Staged (cs : Conditions) (phases : List Phase) : Prop :=
  ∃ done rest, phases = done ++ rest ∧ (∀ p ∈ done, isTrue cs p.condition) ∧
    ∀ p later, rest = p :: later →
      (cs p.condition = none ∨ ∃ c, cs p.condition = some c ∧ c.status = .conditionFalse) ∧
      ∀ q ∈ later, cs q.condition = none

/-- What every reachable state satisfies: each phase's condition is what its
latest execution left; only listed phases run; a later phase's condition is
set only over `True` earlier ones; the pending phases follow a `True` prefix;
nothing else is written. -/
structure Invariant (d : Distribution) (init : KKInstance) (s : RunState) : Prop where
  exact : ∀ p, s.kkInstance.conditions p.condition =
    (lastAttempt p s.attempts).map fun last => resultCondition p.reason p.severity last.err
  listed : ∀ last ∈ s.attempts, last.phase ∈ phaseFactory d
  ordered : ∀ pre post, phaseFactory d = pre ++ post →
    (∃ q ∈ post, (s.kkInstance.conditions q.condition).isSome) →
      ∀ p ∈ pre, isTrue s.kkInstance.conditions p.condition
  cursor : s.pending = [] ∨
    ∃ pre, phaseFactory d = pre ++ s.pending ∧ ∀ p ∈ pre, isTrue s.kkInstance.conditions p.condition
  frame : ∀ t, (∀ p : Phase, t ≠ p.condition) → s.kkInstance.conditions t = init.conditions t

theorem phaseFactory_nodup (d : Distribution) : (phaseFactory d).Nodup := by
  cases d <;> simp [phaseFactory]

theorem lastAttempt_eq_none {p : Phase} {attempts : List Attempt}
    (absent : ∀ last ∈ attempts, last.phase ≠ p) : lastAttempt p attempts = none := by
  induction attempts with
  | nil => rfl
  | cons last earlier ih =>
    simp [lastAttempt, absent last (by simp), ih fun other mem => absent other (by simp [mem])]

/-- Before the first copy of `p`, a split of a list without duplicates that puts
`p` after it keeps to the part before `p`. -/
private theorem mem_of_split_before {pre pre' post' rest : List Phase} {p x : Phase}
    (split : pre' ++ post' = pre ++ p :: rest) (absent : p ∉ pre') (mem : x ∈ pre') : x ∈ pre := by
  rcases List.append_eq_append_iff.mp split with ⟨extra, rfl, -⟩ | ⟨extra, rfl, tail⟩
  · exact List.mem_append_left _ mem
  · cases extra with
    | nil => simpa using mem
    | cons y extra =>
      cases (List.cons_eq_cons.mp tail).1
      exact absurd (by simp) absent

section PhaseStep
variable {r : Reconciler} {a : Answers} {inst : KKInstance} {p q : Phase}

theorem run_condition_of_ne (other : q ≠ p) :
    (p.run r a inst).kkInstance.conditions q.condition = inst.conditions q.condition := by
  rw [Phase.run_conditions]
  exact markResult_of_ne fun same => other (Phase.condition_injective same)

/-- Running any phase keeps every `True` phase condition `True`. -/
theorem isTrue_run_of_isTrue (done : isTrue inst.conditions q.condition) :
    isTrue (p.run r a inst).kkInstance.conditions q.condition := by
  by_cases same : q = p
  · subst same
    simp [Phase.isTrue_run, (Phase.run_of_isTrue done).1]
  · rwa [ConditionStore.isTrue, run_condition_of_ne same]

end PhaseStep

section Preservation
variable {r : Reconciler} {d : Distribution} {init : KKInstance} {s s' : RunState}

theorem Invariant.start (fresh : ∀ p : Phase, init.conditions p.condition = none) :
    Invariant d init (RunState.start init) where
  exact p := by simp [RunState.start, fresh, lastAttempt]
  listed := by simp [RunState.start]
  ordered _ _ _ := by simp [RunState.start, fresh]
  cursor := .inl rfl
  frame _ _ := rfl

theorem Invariant.reconcile (inv : Invariant d init s) :
    Invariant d init { s with pending := phaseFactory d } where
  exact := inv.exact
  listed := inv.listed
  ordered := inv.ordered
  cursor := .inr ⟨[], rfl, by simp⟩
  frame := inv.frame

theorem Invariant.phase {p : Phase} {rest : List Phase} (a : Answers) (inv : Invariant d init s)
    (next : s.pending = p :: rest) :
    Invariant d init (s.record p rest (p.run r a s.kkInstance)) := by
  obtain ⟨pre, split, prefixTrue⟩ : ∃ pre, phaseFactory d = pre ++ p :: rest ∧
      ∀ x ∈ pre, isTrue s.kkInstance.conditions x.condition := by
    rcases inv.cursor with empty | found
    · simp [empty] at next
    · rwa [next] at found
  have listedP : p ∈ phaseFactory d := by simp [split]
  refine ⟨fun q => ?_, ?_, ?_, ?_, fun t others => ?_⟩
  · by_cases same : q = p
    · subst same
      simp [RunState.record, Phase.run_conditions, lastAttempt]
    · simp [RunState.record, run_condition_of_ne same, lastAttempt, Ne.symm same, inv.exact q]
  · simpa [RunState.record, listedP] using inv.listed
  · rintro pre' post' split' ⟨q, mem, set⟩ x member
    refine isTrue_run_of_isTrue ?_
    by_cases same : q = p
    · subst same
      have absent : q ∉ pre' := fun inPre =>
        List.disjoint_of_nodup_append (split' ▸ phaseFactory_nodup d) inPre mem
      exact prefixTrue x (mem_of_split_before (split'.symm.trans split) absent member)
    · rw [RunState.record, run_condition_of_ne same] at set
      exact inv.ordered pre' post' split' ⟨q, mem, set⟩ x member
  · by_cases ok : (p.run r a s.kkInstance).err.isNone
    · refine .inr ⟨pre ++ [p], by simp [split, RunState.record, ok], ?_⟩
      intro x member
      rcases List.mem_append.mp member with inPre | isP
      · exact isTrue_run_of_isTrue (prefixTrue x inPre)
      · rw [List.mem_singleton.mp isP, RunState.record, Phase.isTrue_run, ok]
    · exact .inl (by simp [RunState.record, ok])
  · rw [RunState.record, Phase.run_conditions, markResult_of_ne (others p)]
    exact inv.frame t others

theorem Invariant.step (inv : Invariant d init s) (step : Step r d s s') :
    Invariant d init s' := by
  cases step with
  | reconcile => exact inv.reconcile
  | phase p rest a next => exact inv.phase a next

theorem Invariant.reachable {init : FreshInstance} (reach : Reachable r d init s) :
    Invariant d init.kkInstance s := by
  induction reach with
  | refl => exact Invariant.start init.fresh
  | tail _ step ih => exact ih.step step

end Preservation

section Consequences
variable {d : Distribution} {init : KKInstance} {s : RunState}

/-- The phase conditions of every reachable state are staged. -/
theorem Invariant.staged (inv : Invariant d init s) :
    Staged s.kkInstance.conditions (phaseFactory d) := by
  let done := fun p : Phase => isTrue s.kkInstance.conditions p.condition
  refine ⟨(phaseFactory d).takeWhile done, (phaseFactory d).dropWhile done,
    (List.takeWhile_append_dropWhile _ _).symm, fun p mem => (List.mem_takeWhile_imp mem : done p), ?_⟩
  intro p later split
  have notTrue : isTrue s.kkInstance.conditions p.condition = false := by
    simpa [split] using List.head?_dropWhile_not done (phaseFactory d)
  refine ⟨?_, fun q mem => ?_⟩
  · have held := inv.exact p
    cases last : lastAttempt p s.attempts with
    | none => exact .inl (by simp [held, last])
    | some last' =>
      cases err : last'.err with
      | none =>
        simp [ConditionStore.isTrue, held, last, err, resultCondition, trueCondition] at notTrue
      | some e =>
        exact .inr ⟨falseCondition p.reason p.severity e [],
          by simp [held, last, err, resultCondition], rfl⟩
  · by_contra set
    have whole : phaseFactory d = ((phaseFactory d).takeWhile done ++ [p]) ++ later := by
      rw [List.append_assoc, List.singleton_append, ← split, List.takeWhile_append_dropWhile]
    have := inv.ordered _ _ whole ⟨q, mem, Option.isSome_iff_ne_none.mpr set⟩ p (by simp)
    simp [this] at notTrue

/-- A `False` phase condition carries the phase's reason and severity and the
error its latest execution returned. -/
theorem Invariant.false_condition (inv : Invariant d init s) {p : Phase} {c : Condition}
    (held : s.kkInstance.conditions p.condition = some c) (failed : c.status = .conditionFalse) :
    ∃ last e, lastAttempt p s.attempts = some last ∧ last.err = some e ∧
      c = falseCondition p.reason p.severity e [] := by
  rw [inv.exact p] at held
  obtain ⟨last, found, made⟩ := Option.map_eq_some'.mp held
  cases err : last.err with
  | none => simp [err, resultCondition, trueCondition, ← made] at failed
  | some e => exact ⟨last, e, found, err, by simp [← made, err, resultCondition]⟩

/-- A condition no listed phase owns keeps its initial value. -/
theorem Invariant.unlisted (inv : Invariant d init s)
    (fresh : ∀ p : Phase, init.conditions p.condition = none) {t : ConditionType}
    (unowned : ∀ p ∈ phaseFactory d, t ≠ p.condition) :
    s.kkInstance.conditions t = init.conditions t := by
  by_cases owned : ∃ q : Phase, t = q.condition
  · obtain ⟨q, rfl⟩ := owned
    have absent : ∀ last ∈ s.attempts, last.phase ≠ q := fun last mem same =>
      unowned q (same ▸ inv.listed last mem) rfl
    rw [inv.exact q, lastAttempt_eq_none absent, fresh]
    rfl
  · exact inv.frame t fun q same => owned ⟨q, same⟩

end Consequences

section Monotone
variable {r : Reconciler} {d : Distribution} {s s' : RunState} {q : Phase}

/-- One step keeps a `True` phase `True`, and any execution of that phase in
the step calls nothing. -/
theorem Step.keeps_true (step : Step r d s s') (done : isTrue s.kkInstance.conditions q.condition) :
    isTrue s'.kkInstance.conditions q.condition ∧ ∃ new, s'.attempts = new ++ s.attempts ∧
      ∀ last ∈ new, last.phase = q → last.issued = [] := by
  cases step with
  | reconcile => exact ⟨done, [], rfl, by simp⟩
  | phase p rest a next =>
    refine ⟨isTrue_run_of_isTrue done, [⟨p, _, _⟩], rfl, ?_⟩
    intro last mem same
    obtain rfl := List.mem_singleton.mp mem
    obtain rfl : p = q := same
    exact (Phase.run_of_isTrue done).2

theorem Steps.keeps_true (steps : Steps r d s s') (done : isTrue s.kkInstance.conditions q.condition) :
    isTrue s'.kkInstance.conditions q.condition ∧ ∃ new, s'.attempts = new ++ s.attempts ∧
      ∀ last ∈ new, last.phase = q → last.issued = [] := by
  induction steps with
  | refl => exact ⟨done, [], rfl, by simp⟩
  | tail _ step ih =>
    obtain ⟨middle, earlier, attempts, quiet⟩ := ih
    obtain ⟨after, later, attempts', quiet'⟩ := step.keeps_true middle
    refine ⟨after, later ++ earlier, by rw [attempts', attempts, List.append_assoc], ?_⟩
    intro last mem
    rcases List.mem_append.mp mem with inLater | inEarlier
    · exact quiet' last inLater
    · exact quiet last inEarlier

end Monotone

/-! ## The reconcile against one host -/

section OneHost
variable {r : Reconciler} {d : Distribution}

end OneHost

/-! ## Progress -/

section Progress
variable {r : Reconciler} {d : Distribution} {a : Answers}

end Progress

/-- The install phases over every run, from an instance with no phase condition
set, whatever the host answers: each phase writes only its own condition and
no run writes a condition no listed phase owns; a `True` condition stays `True`
and its phase calls nothing again; the listed conditions are staged, the
`False` one holding its phase's reason and the error of its latest execution;
and a phase returns `nil` exactly when it leaves its condition `True`. -/
theorem reconcile_run_phase_conditions (r : Reconciler) (d : Distribution) (init : FreshInstance) :
    (∀ (p : Phase) a inst t, t ≠ p.condition →
      (p.run r a inst).kkInstance.conditions t = inst.conditions t) ∧
    (∀ s, Reachable r d init s → ∀ t, (∀ p ∈ phaseFactory d, t ≠ p.condition) →
      s.kkInstance.conditions t = init.kkInstance.conditions t) ∧
    (∀ s s' (p : Phase), Steps r d s s' → isTrue s.kkInstance.conditions p.condition →
      isTrue s'.kkInstance.conditions p.condition ∧ ∃ new, s'.attempts = new ++ s.attempts ∧
        ∀ last ∈ new, last.phase = p → last.issued = []) ∧
    (∀ s, Reachable r d init s → Staged s.kkInstance.conditions (phaseFactory d) ∧
      ∀ (p : Phase) c, s.kkInstance.conditions p.condition = some c →
        c.status = .conditionFalse → ∃ last e, lastAttempt p s.attempts = some last ∧
          last.err = some e ∧ c = falseCondition p.reason p.severity e []) ∧
    (∀ (p : Phase) a inst, (p.run r a inst).err = none ↔
      isTrue (p.run r a inst).kkInstance.conditions p.condition) := by
  refine ⟨fun p a inst t other => ?_, fun s reach t unowned => ?_,
    fun s s' p steps done => steps.keeps_true done, fun s reach => ?_, fun p a inst => ?_⟩
  · rw [Phase.run_conditions, markResult_of_ne other]
  · exact (Invariant.reachable reach).unlisted init.fresh unowned
  · exact ⟨(Invariant.reachable reach).staged,
      fun p c held failed => (Invariant.reachable reach).false_condition held failed⟩
  · rw [Phase.isTrue_run, Option.isNone_iff_eq_none]

end KubeKey.ReconcileRun
