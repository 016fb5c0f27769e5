import Mathlib.Data.List.Basic
import KubeKey.VersionUtil

/-! The confirmation tasks of `bootstrap/confirm/tasks.go`: `InstallationConfirm`,
`UpgradeConfirm`, `DeleteConfirm`, `MigrateCri` and `CheckFile`.

1. **One answer per line.** Each task asks on standard input until a line says
   `yes` or `no`. The tasks trim and lower-case a line in different orders, some
   of them lower-casing twice; `trimSpace_toLower` and `toLower_toLower` make every
   order read the same `answer`, so that each loop ends with the first line that
   answers (`confirmLoop_eq_findSome`).

2. **The end of the input.** Four tasks stop at the error of `ReadString('\n')`:
   they read an answer only from a line that ends in a newline, and past the last
   one `InstallationConfirm` exits with status 1 through `logger.Log.Fatal` while
   the other three return the `EOF` error. `CheckFile` drops that error: it also
   reads the text after the last newline, and then the empty string for ever, so
   on an input that never answers it never ends (`checkFile_runs_forever`).

3. **The checks before the question.** `InstallationConfirm` exits with status 1
   when a host lacks a required tool or the Kubernetes version is not supported.
   `UpgradeConfirm` hands the target version, each refined Docker version and the
   current version to `versionutil.MustParseSemantic` (`VersionUtil`), which
   panics on what it cannot parse: a Docker version that `RefineDockerVersion`
   leaves with two components or a zero-prefixed one crashes the upgrade
   (`upgradeConfirm_docker_panics`). It returns an error for each pipeline-cache
   entry it misses.

The default and the supported Kubernetes versions are outside these files and
are inputs here; what the tasks print is left out. -/

namespace KubeKey.Confirm

open KubeKey.DockerVersion (refineDockerVersion)
open KubeKey.VersionUtil

/-- The columns of a host's `PreCheckResults` the tasks read, as
`mapstructure.Decode` leaves them: a tool the host lacks is the empty string. -/
structure PreCheckResults where
  name : String
  «sudo» : String
  conntrack : String
  socat : String
  docker : String
  deriving DecidableEq, Repr

/-- The settings `InstallationConfirm` reads. The default and the supported
versions come from `kubekeyapiv1alpha2` and `versionK8S`, outside these files. -/
structure ConfirmConf where
  installPackages : Bool
  skipConfirmCheck : Bool
  kubernetesVersion : String
  defaultKubeVersion : String
  supportedK8sVersions : List String
  deriving DecidableEq, Repr

/-- How a task ends: it returns `nil` or an error, the process exits through
`os.Exit` or through `logger.Log.Fatal`, which exits with status 1, or
`versionutil.MustParseSemantic` panics. -/
inductive Outcome
  | ok
  | error (message : String)
  | exit (code : Nat)
  | panic
  deriving DecidableEq, Repr

/-! ## Reading an answer -/

/-- `unicode.IsSpace`: the Latin-1 spaces and the other `White_Space` code points. -/
def isUnicodeSpace (c : Char) : Bool :=
  [0x09, 0x0a, 0x0b, 0x0c, 0x0d, 0x20, 0x85, 0xa0, 0x1680, 0x2028, 0x2029, 0x202f, 0x205f,
    0x3000].contains c.toNat || (0x2000 ≤ c.toNat && c.toNat ≤ 0x200a)

/-- `strings.TrimSpace`. -/
def trimSpace (s : List Char) : List Char :=
  ((s.dropWhile isUnicodeSpace).reverse.dropWhile isUnicodeSpace).reverse

/-- `strings.ToLower`. No character but an ASCII letter lower-cases to a letter of
`yes` or `no`, so `Char.toLower` decides the answers as the Unicode mapping does. -/
def toLower (s : List Char) : List Char := s.map Char.toLower

/-- The `switch` of every confirmation loop on its normalised input: `yes` or `y`
goes on, `no` or `n` exits with status 0, anything else asks again. -/
def confirmSwitch (input : List Char) : Option Outcome :=
  if input = "yes".toList ∨ input = "y".toList then some .ok
  else if input = "no".toList ∨ input = "n".toList then some (.exit 0)
  else none

/-- What a line answers, trimmed and then lower-cased. -/
def answer (line : List Char) : Option Outcome := confirmSwitch (toLower (trimSpace line))

/-- The lines `ReadString('\n')` returns before its error: those that end in a
newline, each without it (`TrimSpace` drops it). -/
def terminatedLines (stdin : List Char) : List (List Char) := (stdin.splitOn '\n').dropLast

/-- The `for !confirmOK` loop over the terminated lines, each normalised as the
task writes it; `atEnd` is how the task ends when `ReadString` fails. -/
def confirmLoop (normalise : List Char → List Char) (atEnd : Outcome) :
    List (List Char) → Outcome
  | [] => atEnd
  | line :: lines => (confirmSwitch (normalise line)).getD (confirmLoop normalise atEnd lines)

private theorem char_toLower_of_not_upper {c : Char} (notUpper : ¬(c.toNat ≥ 65 ∧ c.toNat ≤ 90)) :
    c.toLower = c :=
  if_neg notUpper

private theorem toNat_char_toLower_of_upper {c : Char} (upper : c.toNat ≥ 65 ∧ c.toNat ≤ 90) :
    c.toLower.toNat = c.toNat + 32 := by
  simp only [Char.toLower, if_pos upper]
  rw [Char.ofNat, dif_pos (Or.inl (by omega))]
  rfl

private theorem isUnicodeSpace_of_letter {c : Char} (letter : 65 ≤ c.toNat ∧ c.toNat ≤ 122) :
    isUnicodeSpace c = false := by
  simp [isUnicodeSpace]
  omega

private theorem char_toLower_idem (c : Char) : c.toLower.toLower = c.toLower := by
  by_cases upper : c.toNat ≥ 65 ∧ c.toNat ≤ 90
  · exact char_toLower_of_not_upper (by rw [toNat_char_toLower_of_upper upper]; omega)
  · rw [char_toLower_of_not_upper upper, char_toLower_of_not_upper upper]

/-- Lower-casing keeps a character a space or not one. -/
theorem isUnicodeSpace_toLower (c : Char) : isUnicodeSpace c.toLower = isUnicodeSpace c := by
  by_cases upper : c.toNat ≥ 65 ∧ c.toNat ≤ 90
  · have lowered := toNat_char_toLower_of_upper upper
    rw [isUnicodeSpace_of_letter (by omega), isUnicodeSpace_of_letter (by omega)]
  · rw [char_toLower_of_not_upper upper]

@[simp]
theorem toLower_toLower (s : List Char) : toLower (toLower s) = toLower s := by
  simp only [toLower, List.map_map, Function.comp_def, char_toLower_idem]

theorem trimSpace_toLower (s : List Char) : trimSpace (toLower s) = toLower (trimSpace s) := by
  have commutes : isUnicodeSpace ∘ Char.toLower = isUnicodeSpace := funext isUnicodeSpace_toLower
  simp only [trimSpace, toLower, List.dropWhile_map, commutes, ← List.map_reverse]

/-- A loop whose normalisation reads every line as `answer` does ends with the
first terminated line that answers, and with `atEnd` when none does. -/
theorem confirmLoop_eq_findSome {normalise : List Char → List Char}
    (normalised : ∀ line, normalise line = toLower (trimSpace line)) (atEnd : Outcome)
    (lines : List (List Char)) :
    confirmLoop normalise atEnd lines = (lines.findSome? answer).getD atEnd := by
  induction lines with
  | nil => rfl
  | cons line lines ih =>
    rw [confirmLoop, normalised, ih, List.findSome?_cons]
    show (answer line).getD _ = _
    cases answer line <;> rfl

theorem answer_eq_some {line : List Char} {outcome : Outcome} (answered : answer line = some outcome) :
    outcome = .ok ∨ outcome = .exit 0 := by
  simp only [answer, confirmSwitch] at answered
  split_ifs at answered <;> simp_all

theorem findSome_answer_eq_some {lines : List (List Char)} {outcome : Outcome}
    (found : lines.findSome? answer = some outcome) : outcome = .ok ∨ outcome = .exit 0 :=
  let ⟨_, _, answered⟩ := List.exists_of_findSome?_eq_some found
  answer_eq_some answered

theorem getD_eq_iff {found : Option Outcome} {atEnd outcome : Outcome} (differs : atEnd ≠ outcome) :
    found.getD atEnd = outcome ↔ found = some outcome := by
  cases found <;> simp [differs]

/-! ## The pre-check results -/

/-- The loop over the hosts' caches: the first host without a pre-check result
ends it with an error. -/
def collectPreChecks : List (Option PreCheckResults) → Except String (List PreCheckResults)
  | [] => .ok []
  | none :: _ => .error "get node check result failed by host cache"
  | some result :: rest => (collectPreChecks rest).map (result :: ·)

theorem collectPreChecks_eq_ok {caches : List (Option PreCheckResults)}
    {results : List PreCheckResults} (collected : collectPreChecks caches = .ok results) :
    caches = results.map some := by
  induction caches generalizing results with
  | nil => cases collected; rfl
  | cons cache caches ih =>
    cases cache with
    | none => cases collected
    | some result =>
      cases rest : collectPreChecks caches with
      | error e => simp [collectPreChecks, rest, Except.map] at collected
      | ok rest' =>
        simp only [collectPreChecks, rest, Except.map, Except.ok.injEq] at collected
        subst collected
        simp [ih rest]

theorem collectPreChecks_map (results : List PreCheckResults) :
    collectPreChecks (results.map some) = .ok results := by
  induction results with
  | nil => rfl
  | cons result results ih => simp [collectPreChecks, ih, Except.map]

/-! ## `InstallationConfirm` -/

/-- A host lacking `sudo`, `conntrack` or `socat`. -/
def PreCheckResults.missingTool (result : PreCheckResults) : Bool :=
  result.«sudo» == "" || result.conntrack == "" || result.socat == ""

/-- The version check: a version other than the default, with a `v` put in
front when it has none, that the supported list does not hold. -/
def unsupportedVersion (conf : ConfirmConf) : Bool :=
  let k8sVersion := if conf.kubernetesVersion.startsWith "v" then conf.kubernetesVersion
    else "v" ++ conf.kubernetesVersion
  conf.kubernetesVersion != conf.defaultKubeVersion && !conf.supportedK8sVersions.contains k8sVersion

/-- `stopFlag` after both checks. -/
def stopFlag (conf : ConfirmConf) (results : List PreCheckResults) : Bool :=
  (!conf.installPackages && results.any (·.missingTool)) || unsupportedVersion conf

/-- `InstallationConfirm.Execute`, with each host's cache entry and the text of
standard input; it lower-cases a line, trims it and lower-cases it again. -/
def installationConfirm (conf : ConfirmConf) (caches : List (Option PreCheckResults))
    (stdin : List Char) : Outcome :=
  match collectPreChecks caches with
  | .error message => .error message
  | .ok results =>
    if stopFlag conf results then .exit 1
    else if conf.skipConfirmCheck then .ok
    else confirmLoop (fun line => toLower (trimSpace (toLower line))) (.exit 1) (terminatedLines stdin)

theorem installationConfirm_loop (stdin : List Char) :
    confirmLoop (fun line => toLower (trimSpace (toLower line))) (.exit 1) (terminatedLines stdin) =
      ((terminatedLines stdin).findSome? answer).getD (.exit 1) :=
  confirmLoop_eq_findSome (fun line => by rw [trimSpace_toLower, toLower_toLower]) _ _

/-- `InstallationConfirm` lets the installation go on exactly when every host
has its pre-check results, no required tool is missing (or packages are to be
installed) and the version is supported, and either the confirmation is
skipped or the first terminated line that answers is `yes` or `y`. -/
theorem installationConfirm_eq_ok_iff (conf : ConfirmConf)
    (caches : List (Option PreCheckResults)) (stdin : List Char) :
    installationConfirm conf caches stdin = .ok ↔
      ∃ results, caches = results.map some ∧ stopFlag conf results = false ∧
        (conf.skipConfirmCheck = true ∨ (terminatedLines stdin).findSome? answer = some .ok) := by
  constructor
  · intro ok
    cases collected : collectPreChecks caches with
    | error message => simp [installationConfirm, collected] at ok
    | ok results =>
      refine ⟨results, collectPreChecks_eq_ok collected, ?_⟩
      simp only [installationConfirm, collected, installationConfirm_loop] at ok
      split_ifs at ok with stop skip
      · exact ⟨by simpa using stop, .inl skip⟩
      · exact ⟨by simpa using stop, .inr ((getD_eq_iff (by simp)).mp ok)⟩
  · rintro ⟨results, rfl, go, confirmed⟩
    simp only [installationConfirm, collectPreChecks_map, go, Bool.false_eq_true, if_false,
      installationConfirm_loop]
    rcases confirmed with skip | answered
    · simp [skip]
    · split_ifs <;> simp [answered]

/-- Past the terminated lines, the loop ends with the status 1 of
`logger.Log.Fatal` exactly when no line answers: an answer is `yes` or `no`. -/
theorem getD_exit_one_iff (lines : List (List Char)) :
    (lines.findSome? answer).getD (.exit 1) = .exit 1 ↔ lines.findSome? answer = none := by
  cases found : lines.findSome? answer with
  | none => simp
  | some outcome => rcases findSome_answer_eq_some found with rfl | rfl <;> simp

/-- The run exits with status 1 exactly when every host has its pre-check
results and either a required tool is missing (packages not to be installed)
or the version is not supported, or the question is asked and no terminated
line of the input answers it. -/
theorem installationConfirm_eq_exit_one_iff (conf : ConfirmConf)
    (caches : List (Option PreCheckResults)) (stdin : List Char) :
    installationConfirm conf caches stdin = .exit 1 ↔
      ∃ results, caches = results.map some ∧ (stopFlag conf results = true ∨
        conf.skipConfirmCheck = false ∧ (terminatedLines stdin).findSome? answer = none) := by
  constructor
  · intro exits
    cases collected : collectPreChecks caches with
    | error message => simp [installationConfirm, collected] at exits
    | ok results =>
      refine ⟨results, collectPreChecks_eq_ok collected, ?_⟩
      simp only [installationConfirm, collected, installationConfirm_loop] at exits
      split_ifs at exits with stop skip
      · exact .inl stop
      · exact .inr ⟨by simpa using skip, (getD_exit_one_iff _).mp exits⟩
  · rintro ⟨results, rfl, stop | ⟨asked, unanswered⟩⟩
    · simp [installationConfirm, collectPreChecks_map, stop]
    · simp only [installationConfirm, collectPreChecks_map, asked, installationConfirm_loop,
        (getD_exit_one_iff _).mpr unanswered, Bool.false_eq_true, if_false, ite_self]

/-- Without a newline in the input no answer is read: unless the run stops or
skips the question first, `ReadString` meets the end of the input and
`logger.Log.Fatal` exits with status 1, even when the input is `yes`. -/
theorem installationConfirm_unterminated (conf : ConfirmConf) (results : List PreCheckResults)
    (stdin : List Char) (noNewline : '\n' ∉ stdin) (go : stopFlag conf results = false)
    (asked : conf.skipConfirmCheck = false) :
    installationConfirm conf (results.map some) stdin = .exit 1 := by
  have single : stdin.splitOn '\n' = [stdin] :=
    List.splitOnP_eq_single _ _ fun c mem same => noNewline (by simpa [beq_iff_eq.mp same] using mem)
  simp [installationConfirm, collectPreChecks_map, go, asked, terminatedLines, single, confirmLoop]

theorem installationConfirm_unterminated_yes :
    installationConfirm ⟨false, false, "v1.23.10", "v1.23.10", []⟩
      [some ⟨"node1", "/usr/bin/sudo", "/usr/sbin/conntrack", "/usr/bin/socat", ""⟩] "yes".toList =
        .exit 1 :=
  installationConfirm_unterminated _ [⟨"node1", "/usr/bin/sudo", "/usr/sbin/conntrack", "/usr/bin/socat", ""⟩]
    _ (by decide) (by decide) rfl

/-! ## `DeleteConfirm` and `MigrateCri` -/

/-- `DeleteConfirm.Execute`; the `Content` it names is only printed. It trims a
line, lower-cases it, and lower-cases it again in the `switch`. -/
def deleteConfirm (stdin : List Char) : Outcome :=
  confirmLoop (fun line => toLower (toLower (trimSpace line))) (.error "EOF") (terminatedLines stdin)

/-- `MigrateCri.Execute`, the loop of `DeleteConfirm`. -/
def migrateCri (stdin : List Char) : Outcome :=
  confirmLoop (fun line => toLower (toLower (trimSpace line))) (.error "EOF") (terminatedLines stdin)

/-- `DeleteConfirm` and `MigrateCri` end with the first terminated line that
answers, and when none does they return the `EOF` error of `ReadString`
instead of ending the process as `InstallationConfirm` does. -/
theorem deleteConfirm_migrateCri_eq (stdin : List Char) :
    deleteConfirm stdin = ((terminatedLines stdin).findSome? answer).getD (.error "EOF") ∧
      migrateCri stdin = ((terminatedLines stdin).findSome? answer).getD (.error "EOF") :=
  ⟨confirmLoop_eq_findSome (fun _ => toLower_toLower _) _ _,
    confirmLoop_eq_findSome (fun _ => toLower_toLower _) _ _⟩

/-! ## `UpgradeConfirm` -/

/-- What `UpgradeConfirm` reads besides the hosts' caches: the target
Kubernetes version, the pipeline-cache entries, and whether KubeSphere is
enabled. -/
structure UpgradeInputs where
  kubernetesVersion : String
  clusterNodeStatus : Option String
  k8sVersion : Option String
  kubeSphereEnabled : Bool
  kubeSphereVersion : Option String
  clusterNodeCRIRuntimes : Option String
  deriving DecidableEq, Repr

/-- The body of the Docker loop for one host: `none` to go on, or how the run
ends. A version `RefineDockerVersion` rejects ends it through
`logger.Log.Fatalf`, and a refined one `MustParseSemantic` rejects panics; the
comparison with `20.10.0` only decides a printed warning. -/
def dockerCheck (result : PreCheckResults) : Option Outcome :=
  if result.docker = "" then none
  else match refineDockerVersion result.docker with
    | .error _ => some (.exit 1)
    | .ok dockerVersion =>
      match parseSemantic dockerVersion with
      | none => some .panic
      | some version => if (version.compare "20.10.0").isNone then some (.exit 1) else none

/-- The version checks before the pipeline cache is read: `MustParseSemantic`
of the target, its comparison with `v1.19.0`, and from `v1.19.0` on the Docker
loop over the hosts; `none` to go on. -/
def versionChecks (inputs : UpgradeInputs) (results : List PreCheckResults) : Option Outcome :=
  match parseSemantic inputs.kubernetesVersion with
  | none => some .panic
  | some target =>
    match target.compare "v1.19.0" with
    | none => some (.exit 1)
    | some cmp => if cmp = 0 ∨ cmp = 1 then results.findSome? dockerCheck else none

/-- The pipeline-cache reads: the current Kubernetes version, or the error for
the first entry missing. -/
def cacheChecks (inputs : UpgradeInputs) : Except String String :=
  match inputs.clusterNodeStatus, inputs.k8sVersion with
  | none, _ => .error "get cluster nodes status failed by pipeline cache"
  | some _, none => .error "get current Kubernetes version failed by pipeline cache"
  | some _, some currentK8sVersion =>
    if inputs.kubeSphereEnabled && inputs.kubeSphereVersion.isNone then
      .error "get current KubeSphere version failed by pipeline cache"
    else .ok currentK8sVersion

/-- The dockershim notice, which only prints; but when `ParseGeneric` accepts
the target, the CRI runtimes are cached and the target is at least `v1.24.0`,
`MustParseSemantic` of the current version is evaluated, and it panics where
that fails. -/
def criNotice (inputs : UpgradeInputs) (currentK8sVersion : String) : Option Outcome :=
  match parseGeneric inputs.kubernetesVersion, inputs.clusterNodeCRIRuntimes with
  | some k8sVersion, some _ =>
    match parseSemantic "v1.24.0" with
    | none => some .panic
    | some k8sV124 =>
      if k8sVersion.atLeast k8sV124 && (parseSemantic currentK8sVersion).isNone then some .panic
      else none
  | _, _ => none

/-- `UpgradeConfirm.Execute`, up to what it prints. It trims a line and
lower-cases it. -/
def upgradeConfirm (inputs : UpgradeInputs) (caches : List (Option PreCheckResults))
    (stdin : List Char) : Outcome :=
  match collectPreChecks caches with
  | .error message => .error message
  | .ok results =>
    match versionChecks inputs results with
    | some ended => ended
    | none =>
      match cacheChecks inputs with
      | .error message => .error message
      | .ok currentK8sVersion =>
        (criNotice inputs currentK8sVersion).getD
          (confirmLoop (fun line => toLower (trimSpace line)) (.error "EOF") (terminatedLines stdin))

theorem parseSemantic_v1_19_0 : parseSemantic "v1.19.0" = some ⟨[1, 19, 0], true, [], []⟩ := rfl

theorem parseSemantic_20_10_0 : parseSemantic "20.10.0" = some ⟨[20, 10, 0], true, [], []⟩ := rfl

theorem parseSemantic_v1_24_0 : parseSemantic "v1.24.0" = some ⟨[1, 24, 0], true, [], []⟩ := rfl

theorem compare_of_parseSemantic {str : String} {v : Version} (parsed : parseSemantic str = some v)
    (other : String) : v.compare other = (parseSemantic other).map (compareInternal v) := by
  simp [Version.compare, parse_semver parsed, parseSemantic]

/-- `cmp == 0 || cmp == 1` is `AtLeast`. -/
theorem atLeast_iff (v min : Version) :
    v.atLeast min = true ↔ compareInternal v min = 0 ∨ compareInternal v min = 1 := by
  rcases compareInternal_cases v min with c | c | c <;> simp [Version.atLeast, c]

/-- A host passes the Docker check exactly when it reports no Docker, or a
version `RefineDockerVersion` accepts and `MustParseSemantic` parses once refined. -/
theorem dockerCheck_eq_none_iff (result : PreCheckResults) :
    dockerCheck result = none ↔ (result.docker ≠ "" →
      ∃ dockerVersion, refineDockerVersion result.docker = .ok dockerVersion ∧
        (parseSemantic dockerVersion).isSome) := by
  unfold dockerCheck
  by_cases empty : result.docker = ""
  · simp [empty]
  · simp only [empty, if_false, ne_eq, not_false_eq_true, forall_const]
    cases refined : refineDockerVersion result.docker with
    | error e => simp
    | ok dockerVersion =>
      cases parsed : parseSemantic dockerVersion with
      | none => simp [parsed]
      | some version => simp [parsed, compare_of_parseSemantic parsed, parseSemantic_20_10_0]

theorem dockerCheck_ne_ok (result : PreCheckResults) : dockerCheck result ≠ some .ok := by
  unfold dockerCheck
  split_ifs
  · simp
  · split
    · simp
    · split
      · simp
      · split_ifs <;> simp

/-- The version checks let the run go on exactly when `MustParseSemantic`
parses the target and, from `v1.19.0` on, every host passes the Docker check. -/
theorem versionChecks_eq_none_iff (inputs : UpgradeInputs) (results : List PreCheckResults) :
    versionChecks inputs results = none ↔
      ∃ target, parseSemantic inputs.kubernetesVersion = some target ∧
        (target.atLeast ⟨[1, 19, 0], true, [], []⟩ → ∀ result ∈ results, dockerCheck result = none) := by
  unfold versionChecks
  cases parsed : parseSemantic inputs.kubernetesVersion with
  | none => simp
  | some target =>
    simp only [compare_of_parseSemantic parsed, parseSemantic_v1_19_0, Option.map_some',
      atLeast_iff, Option.some.injEq, exists_eq_left']
    split_ifs with recent <;> simp [recent]

theorem versionChecks_ne_ok (inputs : UpgradeInputs) (results : List PreCheckResults) :
    versionChecks inputs results ≠ some .ok := by
  unfold versionChecks
  split
  · simp
  · split
    · simp
    · split_ifs
      · intro found
        obtain ⟨result, -, checked⟩ := List.exists_of_findSome?_eq_some found
        exact dockerCheck_ne_ok result checked
      · simp

theorem cacheChecks_eq_ok_iff (inputs : UpgradeInputs) (currentK8sVersion : String) :
    cacheChecks inputs = .ok currentK8sVersion ↔
      inputs.clusterNodeStatus.isSome ∧ inputs.k8sVersion = some currentK8sVersion ∧
        (inputs.kubeSphereEnabled = true → inputs.kubeSphereVersion.isSome) := by
  rcases inputs with ⟨_, _ | _, _ | _, _ | _, _ | _, _⟩ <;> simp [cacheChecks, eq_comm]

/-- Once `MustParseSemantic` has parsed the target, the notice goes on exactly
when it does not reach `MustParseSemantic` of the current version, or that
parses: it reaches it when the CRI runtimes are cached and the target's
components, as `ParseGeneric` reads them, are at least `v1.24.0`. -/
theorem criNotice_eq_none_iff {inputs : UpgradeInputs} {target : Version}
    (parsed : parseSemantic inputs.kubernetesVersion = some target) (currentK8sVersion : String) :
    criNotice inputs currentK8sVersion = none ↔
      (inputs.clusterNodeCRIRuntimes.isSome →
        (⟨target.components, false, [], []⟩ : Version).atLeast ⟨[1, 24, 0], true, [], []⟩ →
        (parseSemantic currentK8sVersion).isSome) := by
  unfold criNotice
  rw [parseGeneric_of_parseSemantic parsed, parseSemantic_v1_24_0]
  cases inputs.clusterNodeCRIRuntimes with
  | none => simp
  | some cri =>
    cases (parseSemantic currentK8sVersion) <;>
      simp only [Option.isSome_some, Option.isSome_none, Option.isNone_some, Option.isNone_none] <;>
      split_ifs <;> simp_all

theorem criNotice_ne_ok (inputs : UpgradeInputs) (currentK8sVersion : String) :
    criNotice inputs currentK8sVersion ≠ some .ok := by
  unfold criNotice
  split
  · split
    · simp
    · split_ifs <;> simp
  · simp

/-- `UpgradeConfirm` lets the upgrade go on exactly when every host has its
pre-check results; `MustParseSemantic` parses the target and, from `v1.19.0`
on, every Docker version a host reports once `RefineDockerVersion` has refined
it; the pipeline cache holds the node status, the current Kubernetes version
and, when KubeSphere is enabled, its version; `MustParseSemantic` parses the
current version if the dockershim notice evaluates it; and the first
terminated line that answers is `yes` or `y`. -/
theorem upgradeConfirm_eq_ok_iff (inputs : UpgradeInputs)
    (caches : List (Option PreCheckResults)) (stdin : List Char) :
    upgradeConfirm inputs caches stdin = .ok ↔
      ∃ (results : List PreCheckResults) (target : Version) (currentK8sVersion : String),
        caches = results.map some ∧
        parseSemantic inputs.kubernetesVersion = some target ∧
        (target.atLeast ⟨[1, 19, 0], true, [], []⟩ → ∀ result ∈ results, result.docker ≠ "" →
          ∃ dockerVersion, refineDockerVersion result.docker = .ok dockerVersion ∧
            (parseSemantic dockerVersion).isSome) ∧
        inputs.clusterNodeStatus.isSome ∧ inputs.k8sVersion = some currentK8sVersion ∧
        (inputs.kubeSphereEnabled = true → inputs.kubeSphereVersion.isSome) ∧
        (inputs.clusterNodeCRIRuntimes.isSome →
          (⟨target.components, false, [], []⟩ : Version).atLeast ⟨[1, 24, 0], true, [], []⟩ →
          (parseSemantic currentK8sVersion).isSome) ∧
        (terminatedLines stdin).findSome? answer = some .ok := by
  have loop := confirmLoop_eq_findSome (fun _ => rfl) (.error "EOF") (terminatedLines stdin)
  simp only [← dockerCheck_eq_none_iff]
  constructor
  · intro ok
    cases collected : collectPreChecks caches with
    | error message => simp [upgradeConfirm, collected] at ok
    | ok results =>
      simp only [upgradeConfirm, collected] at ok
      cases checked : versionChecks inputs results with
      | some ended =>
        simp only [checked] at ok
        exact absurd (ok ▸ checked) (versionChecks_ne_ok inputs results)
      | none =>
        obtain ⟨target, parsed, docker⟩ := (versionChecks_eq_none_iff inputs results).mp checked
        simp only [checked] at ok
        cases cached : cacheChecks inputs with
        | error message => simp [cached] at ok
        | ok currentK8sVersion =>
          simp only [cached] at ok
          cases notice : criNotice inputs currentK8sVersion with
          | some ended =>
            simp only [notice, Option.getD_some] at ok
            exact absurd (ok ▸ notice) (criNotice_ne_ok inputs currentK8sVersion)
          | none =>
            simp only [notice, Option.getD_none, loop] at ok
            obtain ⟨status, version, kubeSphere⟩ :=
              (cacheChecks_eq_ok_iff inputs currentK8sVersion).mp cached
            exact ⟨results, target, currentK8sVersion, collectPreChecks_eq_ok collected, parsed,
              docker, status, version, kubeSphere,
              (criNotice_eq_none_iff parsed currentK8sVersion).mp notice,
              (getD_eq_iff (by simp)).mp ok⟩
  · rintro ⟨results, target, currentK8sVersion, rfl, parsed, docker, status, version, kubeSphere,
      notice, answered⟩
    have checked := (versionChecks_eq_none_iff inputs results).mpr ⟨target, parsed, docker⟩
    have cached := (cacheChecks_eq_ok_iff inputs currentK8sVersion).mpr ⟨status, version, kubeSphere⟩
    simp [upgradeConfirm, collectPreChecks_map, checked, cached,
      (criNotice_eq_none_iff parsed currentK8sVersion).mpr notice, loop, answered]

/-- From `v1.19.0` on, a host whose reported Docker version `RefineDockerVersion`
accepts but `MustParseSemantic` does not parse once refined crashes the
upgrade with a panic, when every host before it passes the Docker check. -/
theorem upgradeConfirm_docker_panics {inputs : UpgradeInputs} {pre post : List PreCheckResults}
    {result : PreCheckResults} {target : Version} {dockerVersion : String} (stdin : List Char)
    (parsed : parseSemantic inputs.kubernetesVersion = some target)
    (recent : target.atLeast ⟨[1, 19, 0], true, [], []⟩)
    (earlier : ∀ p ∈ pre, p.docker ≠ "" →
      ∃ dockerVersion, refineDockerVersion p.docker = .ok dockerVersion ∧
        (parseSemantic dockerVersion).isSome)
    (refined : refineDockerVersion result.docker = .ok dockerVersion)
    (rejected : parseSemantic dockerVersion = none) :
    upgradeConfirm inputs ((pre ++ result :: post).map some) stdin = .panic := by
  have reported : result.docker ≠ "" := fun empty => by
    rw [empty] at refined; cases refined
  have passes : pre.findSome? dockerCheck = none :=
    List.findSome?_eq_none_iff.mpr fun p mem => (dockerCheck_eq_none_iff p).mpr (earlier p mem)
  have crashes : dockerCheck result = some .panic := by
    simp [dockerCheck, reported, refined, rejected]
  simp only [upgradeConfirm, collectPreChecks_map, versionChecks, parsed,
    compare_of_parseSemantic parsed, parseSemantic_v1_19_0, Option.map_some', ← atLeast_iff, recent,
    if_true, List.findSome?_append, passes, Option.none_or, List.findSome?_cons, crashes]

/-- A host reporting Docker `18.009.1`, which `RefineDockerVersion` turns into
the zero-prefixed `18.09.1`, crashes the upgrade to `v1.23.10`. -/
theorem upgradeConfirm_docker_panics_two_leading_zeros :
    upgradeConfirm ⟨"v1.23.10", some "Ready", some "v1.22.12", false, none, some "docker"⟩
      ([⟨"node1", "/usr/bin/sudo", "/usr/sbin/conntrack", "/usr/bin/socat", "18.009.1"⟩].map some)
      "yes\n".toList = .panic :=
  @upgradeConfirm_docker_panics ⟨"v1.23.10", some "Ready", some "v1.22.12", false, none, some "docker"⟩
    [] [] ⟨"node1", "/usr/bin/sudo", "/usr/sbin/conntrack", "/usr/bin/socat", "18.009.1"⟩
    ⟨[1, 23, 10], true, [], []⟩ "18.09.1" _ rfl rfl (by simp) rfl rfl

/-! ## `CheckFile` -/

/-- The `for` loop of `CheckFile` over the pieces of the input still unread, for
at most `fuel` reads; `none` when the fuel runs out first. With its error
dropped, `ReadString('\n')` gives the next piece between newlines (the last
one unterminated) and, once the input is consumed, the empty string for ever. -/
def checkFileLoop : Nat → List (List Char) → Option Outcome
  | 0, _ => none
  | fuel + 1, pieces =>
    let input := toLower (trimSpace (pieces.headD []))
    match if input ≠ [] then confirmSwitch input else none with
    | some outcome => some outcome
    | none => checkFileLoop fuel pieces.tail

/-- `CheckFile.Execute`: it asks only when the file exists. -/
def checkFile (isExist : Bool) (stdin : List Char) (fuel : Nat) : Option Outcome :=
  if isExist then checkFileLoop fuel (stdin.splitOn '\n') else some .ok

/-- The guard against an empty input changes nothing: the empty input answers nothing. -/
theorem checkFile_guard (line : List Char) :
    (if toLower (trimSpace line) ≠ [] then confirmSwitch (toLower (trimSpace line)) else none) =
      answer line := by
  by_cases empty : toLower (trimSpace line) = []
  · simp only [empty, answer, ne_eq, not_true_eq_false, if_false]
    rfl
  · simp only [empty, answer, ne_eq, not_false_eq_true, if_true]

/-- With `fuel` reads the loop ends with the first of them that answers. -/
theorem checkFileLoop_eq_findSome (fuel : Nat) (pieces : List (List Char)) :
    checkFileLoop fuel pieces = (pieces.take fuel).findSome? answer := by
  induction fuel generalizing pieces with
  | zero => rfl
  | succ fuel ih =>
    cases pieces with
    | nil => simpa [checkFileLoop, checkFile_guard] using ih []
    | cons piece pieces =>
      simp only [checkFileLoop, List.headD_cons, List.tail_cons, checkFile_guard, ih,
        List.take_succ_cons, List.findSome?_cons]
      cases answer piece <;> rfl

/-- `CheckFile` on an existing file ends, given enough reads, exactly when some
piece of the input answers, the text after the last newline included, and it
ends with the first answer. -/
theorem checkFile_ends_iff (stdin : List Char) (outcome : Outcome) :
    (∃ fuel, checkFile true stdin fuel = some outcome) ↔
      (stdin.splitOn '\n').findSome? answer = some outcome := by
  simp only [checkFile, if_true, checkFileLoop_eq_findSome]
  constructor
  · rintro ⟨fuel, found⟩
    rw [← List.take_append_drop fuel (stdin.splitOn '\n'), List.findSome?_append, found]
    rfl
  · intro found
    exact ⟨(stdin.splitOn '\n').length, by rwa [List.take_length]⟩

/-- On an input that never answers, `CheckFile` on an existing file never ends:
no number of reads gives it a result. -/
theorem checkFile_runs_forever (stdin : List Char)
    (noAnswer : (stdin.splitOn '\n').findSome? answer = none) (fuel : Nat) :
    checkFile true stdin fuel = none := by
  simp only [checkFile, if_true, checkFileLoop_eq_findSome, List.findSome?_eq_none_iff] at noAnswer ⊢
  exact fun line mem => noAnswer line (List.mem_of_mem_take mem)

theorem checkFile_runs_forever_maybe :
    ("maybe\n".toList.splitOn '\n').findSome? answer = none ∧ checkFile true "maybe\n".toList 3 = none :=
  ⟨by decide, checkFile_runs_forever _ (by decide) 3⟩

end KubeKey.Confirm
