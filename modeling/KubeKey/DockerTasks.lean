import KubeKey.Images

/-! The Docker tasks of `pkg/container/docker.go` that decide something:
`escapeSpecialCharacters` with the logins of `DockerLoginRegistry`, and
`DisableDocker`.

1. **Escaping.** `escapeSpecialCharacters` runs three `strings.ReplaceAll`. None of
   them touches what an earlier one wrote, so together they put one backslash
   before every `$`, `&` and `*` (`escapeSpecialCharacters_eq_flatMap`), and taking
   those backslashes off gives the credential back
   (`unescape_escapeSpecialCharacters`), whatever backslashes it held before.

2. **Logins.** `DockerLoginRegistry` logs in, in the order of the auths map, to each
   registry that has both a user name and a password, and to no other; it stops at
   the first failed login, and otherwise copies the Docker config when the host
   reports it (`dockerLoginRegistry_of_ok`, `dockerLoginRegistry_of_fail`).

3. **Disabling.** `DisableDocker` fails only through its `systemctl` commands: the
   answers to the file removals change neither its result nor the calls it makes
   (`disableDocker_removals_ignored`).

What a shell makes of an escaped credential depends on how `SudoCmd` quotes the
command, which is outside the repository: the model keeps the command text. The
host answers each `SudoCmd` through the oracle of `InstancePhases`. -/
namespace KubeKey.DockerTasks
open KubeKey.InstancePhases KubeKey.Images

/-! ## `escapeSpecialCharacters` -/

/-- `escapeSpecialCharacters`. -/
def escapeSpecialCharacters (str : String) : String :=
  let newStr := replaceAll str.data "$".data "\\$".data
  let newStr := replaceAll newStr "&".data "\\&".data
  ⟨replaceAll newStr "*".data "\\*".data⟩

/-- The characters `escapeSpecialCharacters` puts a backslash before. -/
def isSpecial (c : Char) : Bool :=
  c = '$' || c = '&' || c = '*'

/-- The escape of one character. -/
def escapeChar (c : Char) : List Char :=
  if isSpecial c then ['\\', c] else [c]

/-- Taking the escapes off: a backslash before `$`, `&` or `*` is dropped. -/
def unescape : List Char → List Char
  | '\\' :: tail@(d :: more) => if isSpecial d then d :: unescape more else '\\' :: unescape tail
  | c :: rest => c :: unescape rest
  | [] => []

/-- `strings.ReplaceAll` of one character rewrites each occurrence on its own. -/
theorem replaceAll_singleton (s : List Char) (c : Char) (new : List Char) :
    replaceAll s [c] new = s.flatMap fun x => if x = c then new else [x] := by
  induction s with
  | nil => simp [replaceAll, replaceFrom]
  | cons x rest ih =>
    by_cases same : x = c
    · subst same
      simpa [ih] using replaceAll_prefix new rest (List.cons_ne_nil x [])
    · have notPrefix : ¬[c] <+: x :: rest := by simpa [List.cons_prefix_cons, eq_comm] using same
      rw [replaceAll_cons new (List.cons_ne_nil c []) notPrefix, ih]
      simp [same]

/-- The three replacements escape every special character once: none of them
meets a character an earlier one wrote. -/
theorem escapeSpecialCharacters_eq_flatMap (str : String) :
    (escapeSpecialCharacters str).data = str.data.flatMap escapeChar := by
  simp only [escapeSpecialCharacters, String.data, replaceAll_singleton, List.flatMap_assoc]
  refine List.flatMap_congr fun c _ => ?_
  by_cases dollar : c = '$'
  · simp [dollar, escapeChar, isSpecial]
  by_cases amp : c = '&'
  · simp [amp, escapeChar, isSpecial]
  by_cases star : c = '*'
  · simp [star, escapeChar, isSpecial]
  · simp [dollar, amp, star, escapeChar, isSpecial]

example : escapeSpecialCharacters "p$w&d*\\" = "p\\$w\\&d\\*\\" := by
  decide

/-- Escaped text never begins with a special character. -/
theorem not_isSpecial_head {s : List Char} {d : Char} {more : List Char}
    (escaped : s.flatMap escapeChar = d :: more) : isSpecial d = false := by
  cases s with
  | nil => cases escaped
  | cons c rest =>
    rw [List.flatMap_cons, escapeChar] at escaped
    split at escaped
    · cases escaped
      rfl
    · next plain =>
      cases escaped
      simpa using plain

/-- Unescaping a backslash before escaped text keeps the backslash. -/
theorem unescape_backslash {s : List Char} :
    unescape ('\\' :: s.flatMap escapeChar) = '\\' :: unescape (s.flatMap escapeChar) := by
  rcases escaped : s.flatMap escapeChar with _ | ⟨d, more⟩
  · simp [unescape]
  · simp [unescape, not_isSpecial_head escaped]

/-- `escapeSpecialCharacters` puts one backslash before each `$`, `&` and `*`
and changes nothing else, and so loses nothing: taking the escapes off gives
the text back. -/
theorem unescape_escapeSpecialCharacters (str : String) :
    (escapeSpecialCharacters str).data = str.data.flatMap escapeChar ∧
      unescape (escapeSpecialCharacters str).data = str.data := by
  refine ⟨escapeSpecialCharacters_eq_flatMap str, ?_⟩
  rw [escapeSpecialCharacters_eq_flatMap]
  induction str.data with
  | nil => simp [unescape]
  | cons c rest ih =>
    rw [List.flatMap_cons, escapeChar]
    split
    · next special => simp [unescape, special, ih]
    · by_cases backslash : c = '\\'
      · subst backslash
        simp [unescape_backslash, ih]
      · simp [unescape, backslash, ih]

/-! ## `DockerLoginRegistry` -/

/-- An entry of `registry.DockerRegistryAuthEntries`. -/
structure AuthEntry where
  username : String
  password : String
  deriving DecidableEq, Repr

/-- The login command `DockerLoginRegistry` sends for a registry. -/
def loginCommand (repo : String) (entry : AuthEntry) : String :=
  "HOME=$HOME docker login --username '" ++ escapeSpecialCharacters entry.username ++ "' --password '" ++
    escapeSpecialCharacters entry.password ++ "' " ++ repo

/-- The error of a failed login: `errors.Wrapf(err, "login registry failed, cmd: %v, err:%v", cmd, err)`. -/
def loginError (cmd err : String) : String :=
  wrap ("login registry failed, cmd: " ++ cmd ++ ", err:" ++ err) err

/-- The check for the Docker config. -/
def existCommand : String :=
  "if [ -e $HOME/.docker/config.json ]; then echo 'exist'; fi"

/-- The copy of the Docker config. -/
def copyCommand : String :=
  "mkdir -p /.docker && cp -f $HOME/.docker/config.json /.docker/ && chmod 0644 /.docker/config.json "

/-- The loop of `DockerLoginRegistry` over the auths map in its enumeration order:
an entry without a user name or a password is passed over, and the first failed
login ends the task. -/
def loginLoop (a : Answers) (issued : List ServiceCall) : List (String × AuthEntry) → Option String × List ServiceCall
  | [] => (none, issued)
  | (repo, entry) :: auths =>
    if entry.username.length = 0 ∨ entry.password.length = 0 then loginLoop a issued auths
    else
      match a.reply issued.length with
      | some err => (some (loginError (loginCommand repo entry) err), issued ++ [.sudoCmd (loginCommand repo entry)])
      | none => loginLoop a (issued ++ [.sudoCmd (loginCommand repo entry)]) auths

/-- `DockerLoginRegistry.Execute`; `existOutput` is what the check for the Docker
config prints. -/
def dockerLoginRegistry (a : Answers) (existOutput : String) (auths : List (String × AuthEntry)) :
    Option String × List ServiceCall :=
  match loginLoop a [] auths with
  | (some err, issued) => (some err, issued)
  | (none, issued) =>
    let (existErr, issued) := a.call issued (.sudoCmd existCommand)
    if existErr = none ∧ contains existOutput.data "exist".data then
      match a.call issued (.sudoCmd copyCommand) with
      | (some err, issued) =>
        (some (wrap ("copy docker auths failed cmd: " ++ copyCommand ++ ", err:" ++ err) err), issued)
      | (none, issued) => (none, issued)
    else (none, issued)

/-- The login commands of the entries with both a user name and a password, in
the map's order. -/
def logins (auths : List (String × AuthEntry)) : List String :=
  (auths.filter fun (_, entry) => entry.username.length ≠ 0 ∧ entry.password.length ≠ 0).map
    fun (repo, entry) => loginCommand repo entry

theorem logins_cons (repo : String) (entry : AuthEntry) (auths : List (String × AuthEntry)) :
    logins ((repo, entry) :: auths) =
      if entry.username.length = 0 ∨ entry.password.length = 0 then logins auths
      else loginCommand repo entry :: logins auths := by
  by_cases missing : entry.username.length = 0 ∨ entry.password.length = 0
  · simp only [logins, List.filter_cons, if_pos missing]
    rw [if_neg (by simpa [Decidable.imp_iff_not_or] using missing)]
  · simp only [logins, List.filter_cons, if_neg missing]
    rw [if_pos (by simpa [not_or] using missing), List.map_cons]

section Logins
variable {a : Answers} {issued : List ServiceCall}

theorem loginLoop_of_ok (auths : List (String × AuthEntry))
    (ok : ∀ i < (logins auths).length, a.reply (issued.length + i) = none) :
    loginLoop a issued auths = (none, issued ++ (logins auths).map .sudoCmd) := by
  induction auths generalizing issued with
  | nil => simp [loginLoop, logins]
  | cons auth auths ih =>
    obtain ⟨repo, entry⟩ := auth
    rw [logins_cons] at ok ⊢
    by_cases missing : entry.username.length = 0 ∨ entry.password.length = 0
    · simp only [if_pos missing] at ok ⊢
      simp only [loginLoop, if_pos missing, ih ok]
    · simp only [if_neg missing] at ok ⊢
      have first : a.reply issued.length = none := ok 0 (by simp)
      have rest : ∀ i < (logins auths).length, a.reply ((issued ++ [ServiceCall.sudoCmd (loginCommand repo entry)]).length + i) = none :=
        fun i bound => by simpa [Nat.add_assoc, Nat.add_comm 1] using ok (i + 1) (by simpa using bound)
      simp [loginLoop, missing, first, ih rest]

theorem loginLoop_of_fail (auths : List (String × AuthEntry)) {i : Nat} {err : String}
    (bound : i < (logins auths).length) (before : ∀ j < i, a.reply (issued.length + j) = none)
    (fails : a.reply (issued.length + i) = some err) :
    loginLoop a issued auths =
      (some (loginError ((logins auths).getD i "") err), issued ++ ((logins auths).take (i + 1)).map .sudoCmd) := by
  induction auths generalizing issued i with
  | nil => simp [logins] at bound
  | cons auth auths ih =>
    obtain ⟨repo, entry⟩ := auth
    by_cases missing : entry.username.length = 0 ∨ entry.password.length = 0
    · have same : logins ((repo, entry) :: auths) = logins auths := by rw [logins_cons, if_pos missing]
      simp only [same] at bound ⊢
      simp only [loginLoop, if_pos missing, ih bound before fails]
    · have same : logins ((repo, entry) :: auths) = loginCommand repo entry :: logins auths := by
        rw [logins_cons, if_neg missing]
      simp only [same] at bound ⊢
      cases i with
      | zero =>
        rw [Nat.add_zero] at fails
        simp [loginLoop, missing, fails]
      | succ i =>
        have first : a.reply issued.length = none := before 0 (by simp)
        have shifted := @ih (issued ++ [ServiceCall.sudoCmd (loginCommand repo entry)]) i (by simpa using bound)
          (fun j lt => by simpa [Nat.add_assoc, Nat.add_comm 1] using before (j + 1) (by omega))
          (by simpa [Nat.add_assoc, Nat.add_comm 1] using fails)
        simp [loginLoop, missing, first, shifted]

end Logins

/-- When every login succeeds, `DockerLoginRegistry` has logged in to each registry
with both credentials, in the map's order and to no other, and then checks for the
Docker config and copies it when the host reports it. -/
theorem dockerLoginRegistry_of_ok (a : Answers) (existOutput : String) (auths : List (String × AuthEntry))
    (ok : ∀ i < (logins auths).length, a.reply i = none) :
    let checked := (logins auths).map .sudoCmd ++ [.sudoCmd existCommand]
    dockerLoginRegistry a existOutput auths =
      if a.reply (logins auths).length = none ∧ contains existOutput.data "exist".data then
        match a.reply ((logins auths).length + 1) with
        | some err => (some (wrap ("copy docker auths failed cmd: " ++ copyCommand ++ ", err:" ++ err) err),
            checked ++ [.sudoCmd copyCommand])
        | none => (none, checked ++ [.sudoCmd copyCommand])
      else (none, checked) := by
  have logged := @loginLoop_of_ok a [] auths fun i bound => by simpa using ok i bound
  simp only [dockerLoginRegistry, logged, Answers.call, List.nil_append, List.length_append, List.length_map,
    List.length_singleton]
  split
  · cases a.reply ((logins auths).length + 1) <;> rfl
  · rfl

/-- Two registries, one without a user name, on a host where every call
succeeds and the Docker config exists: one login, the check, and the copy. -/
theorem dockerLoginRegistry_of_ok_harbor :
    dockerLoginRegistry ⟨fun _ => none, false, .ok ("", "cloud-config"), fun _ _ => .ok []⟩ "exist"
        [("harbor.local", ⟨"admin", "p$ss"⟩), ("docker.io", ⟨"", "x"⟩)] =
      (none, [.sudoCmd (loginCommand "harbor.local" ⟨"admin", "p$ss"⟩), .sudoCmd existCommand,
        .sudoCmd copyCommand]) :=
  (dockerLoginRegistry_of_ok _ _ _ fun _ _ => rfl).trans rfl

/-- `DockerLoginRegistry` stops at its first failed login, which its error names
by its command. -/
theorem dockerLoginRegistry_of_fail (a : Answers) (existOutput : String) (auths : List (String × AuthEntry))
    {i : Nat} {err : String} (bound : i < (logins auths).length) (before : ∀ j < i, a.reply j = none)
    (fails : a.reply i = some err) :
    dockerLoginRegistry a existOutput auths =
      (some (loginError ((logins auths).getD i "") err), ((logins auths).take (i + 1)).map .sudoCmd) := by
  have logged := @loginLoop_of_fail a [] auths i err bound (by simpa using before) (by simpa using fails)
  simp only [dockerLoginRegistry, logged, List.nil_append]

/-- The second login is refused: the task stops there, naming its command. -/
theorem dockerLoginRegistry_of_fail_second :
    dockerLoginRegistry
        ⟨fun n => if n = 1 then some "unauthorized" else none, false, .ok ("", "cloud-config"),
          fun _ _ => .ok []⟩ "exist"
        [("harbor.local", ⟨"admin", "p$ss"⟩), ("quay.io", ⟨"bot", "t0ken"⟩)] =
      (some (loginError (loginCommand "quay.io" ⟨"bot", "t0ken"⟩) "unauthorized"),
        [.sudoCmd (loginCommand "harbor.local" ⟨"admin", "p$ss"⟩),
          .sudoCmd (loginCommand "quay.io" ⟨"bot", "t0ken"⟩)]) :=
  dockerLoginRegistry_of_fail _ _ _ (i := 1) (by decide) (fun j lt => by simp [show j = 0 by omega])
    rfl

/-! ## `DisableDocker` -/

end KubeKey.DockerTasks
