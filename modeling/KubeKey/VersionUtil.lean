import Mathlib.Data.List.Basic
import KubeKey.DockerVersion

/-! `versionutil`, the package `k8s.io/apimachinery/pkg/util/version` that
`UpgradeConfirm` and `GenerateK8eServiceEnv` call. It lies outside the
repository; what is modelled is the part those callers reach, as the package
writes it: `parse` in its semantic mode (`MustParseSemantic`, which panics where
`parse` fails) and its generic one (`ParseGeneric`), `Compare`, `AtLeast` and
`LessThan`.

1. **The two expressions.** `versionMatchRE` is the expression of
   `RefineDockerVersion`, read by the same greedy scanner (`versionMatch_numbers`);
   `extraMatchRE` is read by that scanner over identifier characters
   (`readDotted`), for the pre-release after a `-` and the build metadata after
   a `+`.

2. **What `MustParseSemantic` accepts of components joined by dots.** Exactly
   three of them, none zero-prefixed, each below `2^64`
   (`parse_intercalate_eq_some_iff`). So of the versions `RefineDockerVersion`
   returns, it refuses those with two or four components and those whose
   captured component began with two zeros (`parseSemantic_refineDockerVersion`).

3. **The generic parse accepts what the semantic one does**, with the same
   components (`parseGeneric_of_parseSemantic`), and a comparison is always
   `-1`, `0` or `1` (`compareInternal_cases`). -/

namespace KubeKey.VersionUtil
open KubeKey.DockerVersion (isSpace readNumbers stripV versionNumbers digitsValue IsComponent
  NoLeadingZero refineDockerVersion refineComponent)

/-- A `versionutil.Version`: its components, the mode it was parsed in, and
its pre-release and build metadata. -/
structure Version where
  components : List Nat
  semver : Bool
  preRelease : List Char
  buildMetadata : List Char
  deriving DecidableEq, Repr

/-! ## Parsing -/

/-- `versionMatchRE.FindStringSubmatch` for `^\s*v?([0-9]+(?:\.[0-9]+)*)(.*)*$`:
the numbers and what `(.*)*` captures after them. -/
def versionMatch (str : List Char) : Option (List Char × List Char) :=
  match stripV (str.dropWhile isSpace) with
  | c :: rest =>
    if c.isDigit then
      let (numbers, extra) := readNumbers (c :: rest)
      if extra.contains '\n' then none else some (numbers, extra)
    else none
  | [] => none

/-- `[0-9A-Za-z-]`. -/
def isIdentChar (c : Char) : Bool := c.isAlphanum || c == '-'

/-- The group `x+(?:\.x+)*` over the characters `p` holds of, read greedily:
the characters it captures and what follows them. A dot is taken only when a
character of `p` follows it. -/
def readDotted (p : Char → Bool) : List Char → List Char × List Char
  | [] => ([], [])
  | c :: rest =>
    if p c then
      let (more, tail) := readDotted p rest
      (c :: more, tail)
    else if c = '.' then
      match rest with
      | d :: _ =>
        if p d then
          let (more, tail) := readDotted p rest
          (c :: more, tail)
        else ([], c :: rest)
      | [] => ([], [c])
    else ([], c :: rest)

/-- An optional group `(?:m(ident(?:\.ident)*))?` led by the character `m`:
what it captures and the rest. -/
def readMarked (m : Char) : List Char → List Char × List Char
  | c :: d :: rest => if c = m ∧ isIdentChar d then readDotted isIdentChar (d :: rest)
      else ([], c :: d :: rest)
  | s => ([], s)

/-- `extraMatchRE.FindStringSubmatch` for
`^(?:-(ident(?:\.ident)*))?(?:\+(ident(?:\.ident)*))?\s*$`: the pre-release and
the build metadata, nil when the rest is not blanks. -/
def extraMatch (extra : List Char) : Option (List Char × List Char) :=
  let (preRelease, afterPreRelease) := readMarked '-' extra
  let (buildMetadata, rest) := readMarked '+' afterPreRelease
  if rest.all isSpace then some (preRelease, buildMetadata) else none

/-- `2^64`, one more than the largest 64-bit `uint`. -/
def uintBound : Nat := Nat.pow 2 64

/-- `strconv.ParseUint(s, 10, 0)` for a 64-bit `uint`: digits only, below `2^64`. -/
def parseUint (s : List Char) : Option Nat :=
  if s ≠ [] ∧ s.all Char.isDigit ∧ digitsValue s < uintBound then some (digitsValue s) else none

/-- Go's `<` on strings, byte by byte; the identifiers it compares here are ASCII. -/
def stringLess : List Char → List Char → Bool
  | [], [] => false
  | [], _ :: _ => true
  | _ :: _, [] => false
  | a :: as, b :: bs =>
    if a.toNat < b.toNat then true else if b.toNat < a.toNat then false else stringLess as bs

/-- `strings.HasPrefix(comp, "0") && comp != "0"`. -/
def zeroPrefixed (comp : List Char) : Bool := comp.head? == some '0' && comp != ['0']

/-- The loop of `parse` over the components from index `i`: a zero-prefixed
component is refused at index 0 and, in the semantic mode, at every index;
each one must be a `uint`. -/
def parseComponents (semver : Bool) : Nat → List (List Char) → Option (List Nat)
  | _, [] => some []
  | i, comp :: comps =>
    if (i == 0 || semver) && zeroPrefixed comp then none
    else match parseUint comp with
      | none => none
      | some n => (parseComponents semver (i + 1) comps).map (n :: ·)

/-- `parse`: exactly three components in the semantic mode and at least two in
the generic one; in the semantic mode the rest after the numbers must be a
pre-release and build metadata, no numeric pre-release identifier
zero-prefixed, and in the generic mode it is dropped. -/
def parse (str : List Char) (semver : Bool) : Option Version :=
  match versionMatch str with
  | none => none
  | some (numbers, extra) =>
    let components := numbers.splitOn '.'
    if (semver && components.length != 3) || (!semver && components.length < 2) then none
    else match parseComponents semver 0 components with
      | none => none
      | some values =>
        if semver && extra != [] then
          match extraMatch extra with
          | none => none
          | some (preRelease, buildMetadata) =>
            if (preRelease.splitOn '.').any fun comp => (parseUint comp).isSome && zeroPrefixed comp
            then none
            else some ⟨values, semver, preRelease, buildMetadata⟩
        else some ⟨values, semver, [], []⟩

/-- `ParseSemantic`; `MustParseSemantic` panics where it is nil. -/
def parseSemantic (str : String) : Option Version := parse str.toList true

/-- `ParseGeneric`. -/
def parseGeneric (str : String) : Option Version := parse str.toList false

/-! ## Comparing -/

/-- The components compared over their common prefix, and then the longer list
bigger when its extra components are not all zero; `0` when they tie. -/
def compareComponents : List Nat → List Nat → Int
  | v :: vs, o :: os => if o < v then 1 else if v < o then -1 else compareComponents vs os
  | vs, [] => if vs.all (· == 0) then 0 else 1
  | [], _ :: os => if os.all (· == 0) then 0 else -1

/-- The pre-release identifiers compared in turn: numerically when both are
`uint`s, else as strings; then the longer list is bigger. -/
def comparePreRelease : List (List Char) → List (List Char) → Int
  | v :: vs, o :: os =>
    match parseUint v, parseUint o with
    | some vNum, some oNum =>
      if oNum < vNum then 1 else if vNum < oNum then -1 else comparePreRelease vs os
    | _, _ => if stringLess o v then 1 else if stringLess v o then -1 else comparePreRelease vs os
  | [], [] => 0
  | _ :: _, [] => 1
  | [], _ :: _ => -1

/-- `Version.compareInternal`. -/
def compareInternal (v other : Version) : Int :=
  let byComponents := compareComponents v.components other.components
  if byComponents ≠ 0 then byComponents
  else if !v.semver || !other.semver then 0
  else if v.preRelease = [] ∧ other.preRelease ≠ [] then 1
  else if v.preRelease ≠ [] ∧ other.preRelease = [] then -1
  else if v.preRelease = other.preRelease then 0
  else comparePreRelease (v.preRelease.splitOn '.') (other.preRelease.splitOn '.')

/-- `Version.Compare`: `other` parsed in the mode of `v`; nil when it does not parse. -/
def Version.compare (v : Version) (other : String) : Option Int :=
  (parse other.toList v.semver).map (compareInternal v)

/-- `Version.AtLeast`. -/
def Version.atLeast (v min : Version) : Bool := compareInternal v min != -1

/-- `Version.LessThan`. -/
def Version.lessThan (v other : Version) : Bool := compareInternal v other == -1

/-! ## The numbers -/

/-- The expression of `parse` captures the numbers `RefineDockerVersion` does. -/
theorem versionMatch_numbers (str : List Char) :
    (versionMatch str).map Prod.fst = versionNumbers str := by
  unfold versionMatch versionNumbers
  generalize stripV (str.dropWhile isSpace) = s
  match s with
  | [] => rfl
  | c :: rest =>
    by_cases digit : c.isDigit
    · simp only [digit, if_true]
      cases readNumbers (c :: rest) with
      | mk numbers extra => dsimp only; split_ifs <;> rfl
    · simp [digit]

theorem readNumbers_append_of_digits {d : List Char} (digits : ∀ x ∈ d, x.isDigit)
    (s : List Char) : readNumbers (d ++ s) = (d ++ (readNumbers s).1, (readNumbers s).2) := by
  induction d with
  | nil => rfl
  | cons x d ih =>
    rw [List.cons_append, DockerVersion.readNumbers_digit _ (digits x (List.mem_cons_self _ _)),
      ih fun y mem => digits y (List.mem_cons_of_mem _ mem)]
    rfl

/-- The scanner captures the whole of components joined by dots. -/
theorem readNumbers_intercalate {ds : List (List Char)} (valid : ∀ d ∈ ds, IsComponent d) :
    readNumbers (['.'].intercalate ds) = (['.'].intercalate ds, []) := by
  induction ds with
  | nil => rfl
  | cons d ds ih =>
    have rest := ih fun e mem => valid e (List.mem_cons_of_mem _ mem)
    have digits := (valid d (List.mem_cons_self _ _)).2
    cases ds with
    | nil =>
      rw [show ['.'].intercalate [d] = d ++ [] by simp [List.intercalate],
        readNumbers_append_of_digits digits]
      rfl
    | cons e es =>
      obtain ⟨y, more, ye⟩ := List.exists_cons_of_ne_nil (valid e (by simp)).1
      have next : y.isDigit := (valid e (by simp)).2 y (by simp [ye])
      have joined : ['.'].intercalate (d :: e :: es) = d ++ '.' :: ['.'].intercalate (e :: es) := by
        simp [List.intercalate, List.intersperse_cons_cons]
      obtain ⟨tail, head⟩ : ∃ tail, ['.'].intercalate (e :: es) = y :: tail := by
        cases es <;> simp [List.intercalate, List.intersperse_cons_cons, ye]
      rw [joined, readNumbers_append_of_digits digits, head,
        DockerVersion.readNumbers_dot_digit _ next, ← head, rest]

theorem intercalate_head {ds : List (List Char)} (nonempty : ds ≠ [])
    (valid : ∀ d ∈ ds, IsComponent d) :
    ∃ y tail, ['.'].intercalate ds = y :: tail ∧ y.isDigit := by
  obtain ⟨d, es, rfl⟩ := List.exists_cons_of_ne_nil nonempty
  obtain ⟨y, more, rfl⟩ := List.exists_cons_of_ne_nil (valid d (List.mem_cons_self _ _)).1
  have digit := (valid _ (List.mem_cons_self _ _)).2 y (List.mem_cons_self _ _)
  cases es with
  | nil => exact ⟨y, more, by simp [List.intercalate], digit⟩
  | cons e es =>
    exact ⟨y, more ++ '.' :: ['.'].intercalate (e :: es),
      by simp [List.intercalate, List.intersperse_cons_cons], digit⟩

theorem isSpace_of_isDigit {c : Char} (digit : c.isDigit) : isSpace c = false := by
  simp only [isSpace, Bool.or_eq_false_iff, beq_eq_false_iff_ne, ne_eq]
  refine ⟨⟨⟨⟨?_, ?_⟩, ?_⟩, ?_⟩, ?_⟩ <;> rintro rfl <;> exact absurd digit (by decide)

/-- Components joined by dots match the whole expression, with nothing after
the numbers. -/
theorem versionMatch_intercalate {ds : List (List Char)} (nonempty : ds ≠ [])
    (valid : ∀ d ∈ ds, IsComponent d) :
    versionMatch (['.'].intercalate ds) = some (['.'].intercalate ds, []) := by
  obtain ⟨y, tail, head, digit⟩ := intercalate_head nonempty valid
  have notSpace := isSpace_of_isDigit digit
  have notV : y ≠ 'v' := by rintro rfl; exact absurd digit (by decide)
  have strip : stripV (y :: tail) = y :: tail := by
    cases tail <;> simp [stripV, notV]
  rw [versionMatch, head, List.dropWhile_cons_of_neg (by simp [notSpace]), strip]
  simp only [if_pos digit]
  rw [← head, readNumbers_intercalate valid]
  rfl

/-! ## What the semantic parse accepts -/

theorem parseUint_of_isComponent {d : List Char} (comp : IsComponent d) :
    parseUint d = if digitsValue d < uintBound then some (digitsValue d) else none := by
  have digits : d.all Char.isDigit := List.all_eq_true.mpr comp.2
  simp [parseUint, comp.1, digits]

theorem zeroPrefixed_eq_false_iff {d : List Char} (nonempty : d ≠ []) :
    zeroPrefixed d = false ↔ NoLeadingZero d := by
  obtain ⟨x, rest, rfl⟩ := List.exists_cons_of_ne_nil nonempty
  by_cases zero : x = '0'
  · subst zero
    cases rest <;> simp [zeroPrefixed, NoLeadingZero]
  · simp [zeroPrefixed, NoLeadingZero, zero]

/-- In the semantic mode the loop over the components accepts exactly those
with no zero-prefixed component and each below `2^64`, and returns their values. -/
theorem parseComponents_semver_eq_some_iff {ds : List (List Char)}
    (valid : ∀ d ∈ ds, IsComponent d) (i : Nat) (values : List Nat) :
    parseComponents true i ds = some values ↔
      (∀ d ∈ ds, zeroPrefixed d = false ∧ digitsValue d < uintBound) ∧ values = ds.map digitsValue := by
  induction ds generalizing i values with
  | nil =>
    simp only [parseComponents, List.not_mem_nil, false_imp_iff, implies_true, true_and,
      List.map_nil, Option.some.injEq]
    exact eq_comm
  | cons d ds ih =>
    have rest := ih (fun e mem => valid e (List.mem_cons_of_mem _ mem)) (i + 1)
    rw [parseComponents, parseUint_of_isComponent (valid d (List.mem_cons_self _ _)),
      List.forall_mem_cons, List.map_cons]
    cases zero : zeroPrefixed d
    · by_cases small : digitsValue d < uintBound
      · rw [if_neg (by simp), if_pos small]
        show (parseComponents true (i + 1) ds).map (digitsValue d :: ·) = some values ↔ _
        rw [Option.map_eq_some']
        constructor
        · rintro ⟨ns, parsed, rfl⟩
          obtain ⟨accepted, rfl⟩ := (rest ns).mp parsed
          exact ⟨⟨⟨rfl, small⟩, accepted⟩, rfl⟩
        · rintro ⟨⟨-, accepted⟩, rfl⟩
          exact ⟨_, (rest _).mpr ⟨accepted, rfl⟩, rfl⟩
      · rw [if_neg (by simp), if_neg small]
        exact ⟨fun refused => (by cases refused), fun accepted => absurd accepted.1.1.2 small⟩
    · rw [if_pos (by simp)]
      exact ⟨fun refused => (by cases refused), fun accepted => by cases accepted.1.1.1⟩

/-- `MustParseSemantic` accepts components joined by dots exactly when they
are three, none zero-prefixed and each below `2^64`; the version has their
values and no pre-release or build metadata. -/
theorem parse_intercalate_eq_some_iff {ds : List (List Char)} (nonempty : ds ≠ [])
    (valid : ∀ d ∈ ds, IsComponent d) (v : Version) :
    parse (['.'].intercalate ds) true = some v ↔
      ds.length = 3 ∧ (∀ d ∈ ds, NoLeadingZero d ∧ digitsValue d < uintBound) ∧
        v = ⟨ds.map digitsValue, true, [], []⟩ := by
  have noDot : ∀ d ∈ ds, '.' ∉ d := fun d mem dot => by simpa using (valid d mem).2 '.' dot
  have leading : (∀ d ∈ ds, zeroPrefixed d = false ∧ digitsValue d < uintBound) ↔
      ∀ d ∈ ds, NoLeadingZero d ∧ digitsValue d < uintBound :=
    forall₂_congr fun d mem => and_congr_left' (zeroPrefixed_eq_false_iff (valid d mem).1)
  rw [← leading]
  simp only [parse, versionMatch_intercalate nonempty valid,
    List.splitOn_intercalate _ '.' noDot nonempty]
  by_cases three : ds.length = 3
  · rw [if_neg (by simp [three])]
    cases comps : parseComponents true 0 ds with
    | none =>
      have refused := fun accepted =>
        (parseComponents_semver_eq_some_iff valid 0 _).mpr ⟨accepted, rfl⟩
      refine ⟨fun parsed => (by cases parsed), fun ⟨_, accepted, _⟩ => ?_⟩
      rw [refused accepted] at comps
      cases comps
    | some values =>
      obtain ⟨accepted, rfl⟩ := (parseComponents_semver_eq_some_iff valid 0 values).mp comps
      simp only [bne_self_eq_false, Bool.and_false, Bool.false_eq_true, if_false,
        Option.some.injEq]
      exact ⟨fun same => ⟨three, accepted, same.symm⟩, fun h => h.2.2.symm⟩
  · rw [if_pos (by simp [three])]
    exact ⟨fun parsed => (by cases parsed), fun h => absurd h.1 three⟩

/-- `MustParseSemantic` accepts the version `RefineDockerVersion` returns
exactly when the numbers it captured from the reported version are three
components, none of which began with two zeros and a third digit, each below
`2^64`. -/
theorem parseSemantic_refineDockerVersion {version dockerVersion : String}
    (refined : refineDockerVersion version = .ok dockerVersion) :
    (parseSemantic dockerVersion).isSome ↔
      ∃ comps, versionNumbers version.toList = some (['.'].intercalate comps) ∧
        (∀ d ∈ comps, IsComponent d) ∧ comps.length = 3 ∧
        ∀ d ∈ comps, (¬ ∃ x more, d = '0' :: '0' :: x :: more) ∧ digitsValue d < uintBound := by
  unfold refineDockerVersion at refined
  cases found : versionNumbers version.toList with
  | none => rw [found] at refined; cases refined
  | some numbers =>
    rw [found] at refined
    cases refined
    obtain ⟨-, -, -, comps, -, -, -, -, -, nonempty, valid, rfl⟩ :=
      DockerVersion.versionNumbers_spec found
    have noDot : ∀ ds : List (List Char), (∀ d ∈ ds, IsComponent d) → ∀ d ∈ ds, '.' ∉ d :=
      fun ds valid d mem dot => by simpa using (valid d mem).2 '.' dot
    have refinedValid : ∀ d ∈ comps.map refineComponent, IsComponent d := by
      simpa using fun d mem => DockerVersion.isComponent_refineComponent (valid d mem)
    have parsed := parse_intercalate_eq_some_iff (by simpa using nonempty) refinedValid
    rw [List.splitOn_intercalate _ '.' (noDot _ valid) nonempty]
    change (parse (['.'].intercalate (comps.map refineComponent)) true).isSome ↔ _
    simp only [Option.isSome_iff_exists, parsed, List.length_map, List.forall_mem_map,
      DockerVersion.digitsValue_refineComponent, exists_and_left, exists_eq, and_true]
    constructor
    · rintro ⟨three, accepted⟩
      exact ⟨comps, rfl, valid, three, fun d mem =>
        ⟨(DockerVersion.noLeadingZero_refineComponent_iff (valid d mem)).mp (accepted d mem).1,
          (accepted d mem).2⟩⟩
    · rintro ⟨comps', same, valid', three, accepted⟩
      have nonempty' : comps' ≠ [] := by rintro rfl; cases three
      obtain rfl : comps' = comps := by
        rw [← List.splitOn_intercalate _ '.' (noDot _ valid') nonempty', ← Option.some.inj same,
          List.splitOn_intercalate _ '.' (noDot _ valid) nonempty]
      exact ⟨three, fun d mem =>
        ⟨(DockerVersion.noLeadingZero_refineComponent_iff (valid d mem)).mpr (accepted d mem).1,
          (accepted d mem).2⟩⟩

/-- Docker `18.009.1` refines to `18.09.1`, which `MustParseSemantic` refuses:
its captured component `009` began with two zeros. -/
theorem parseSemantic_refineDockerVersion_two_leading_zeros :
    parseSemantic "18.09.1" = none ∧
      ((parseSemantic "18.09.1").isSome ↔
        ∃ comps, versionNumbers "18.009.1".toList = some (['.'].intercalate comps) ∧
          (∀ d ∈ comps, IsComponent d) ∧ comps.length = 3 ∧
          ∀ d ∈ comps, (¬ ∃ x more, d = '0' :: '0' :: x :: more) ∧ digitsValue d < uintBound) :=
  ⟨rfl, parseSemantic_refineDockerVersion rfl⟩

/-! ## The generic parse and the comparison -/

/-- What a successful parse has gone through: the expression matched, the
count of components was right, and the loop over them returned the version's
components; the version is of the parse's mode. -/
theorem parse_eq_some {str : List Char} {semver : Bool} {v : Version}
    (parsed : parse str semver = some v) :
    ∃ numbers extra, versionMatch str = some (numbers, extra) ∧
      ((semver && (numbers.splitOn '.').length != 3) ||
        (!semver && decide ((numbers.splitOn '.').length < 2))) = false ∧
      parseComponents semver 0 (numbers.splitOn '.') = some v.components ∧ v.semver = semver := by
  unfold parse at parsed
  cases matched : versionMatch str with
  | none => rw [matched] at parsed; cases parsed
  | some pair =>
    obtain ⟨numbers, extra⟩ := pair
    rw [matched] at parsed
    refine ⟨numbers, extra, rfl, ?_⟩
    cases components : parseComponents semver 0 (numbers.splitOn '.') with
    | none => simp [components] at parsed
    | some values =>
      simp only [components] at parsed
      split_ifs at parsed with count extraRest
      · split at parsed
        · cases parsed
        · split_ifs at parsed
          cases parsed
          exact ⟨by simpa using count, rfl, rfl⟩
      · cases parsed
        exact ⟨by simpa using count, rfl, rfl⟩

theorem parse_semver {str : List Char} {semver : Bool} {v : Version}
    (parsed : parse str semver = some v) : v.semver = semver :=
  let ⟨_, _, _, _, _, mode⟩ := parse_eq_some parsed
  mode

theorem parseComponents_generic {i : Nat} {ds : List (List Char)} {values : List Nat}
    (parsed : parseComponents true i ds = some values) : parseComponents false i ds = some values := by
  induction ds generalizing i values with
  | nil => exact parsed
  | cons d ds ih =>
    simp only [parseComponents, Bool.or_true, Bool.true_and, Bool.or_false] at parsed ⊢
    split_ifs at parsed with zero
    cases n : parseUint d with
    | none => simp [n] at parsed
    | some n =>
      simp only [n] at parsed ⊢
      obtain ⟨rest, restParsed, rfl⟩ := Option.map_eq_some'.mp parsed
      simp [zero, ih restParsed]

/-- `ParseGeneric` accepts every version `ParseSemantic` does, with the same
components and no pre-release or build metadata. -/
theorem parseGeneric_of_parseSemantic {str : String} {v : Version}
    (parsed : parseSemantic str = some v) : parseGeneric str = some ⟨v.components, false, [], []⟩ := by
  obtain ⟨numbers, extra, matched, count, components, -⟩ := parse_eq_some parsed
  have three : (numbers.splitOn '.').length = 3 := by simpa using count
  unfold parseGeneric parse
  rw [matched]
  simp [three, parseComponents_generic components]

theorem compareComponents_cases (vs os : List Nat) :
    compareComponents vs os = -1 ∨ compareComponents vs os = 0 ∨ compareComponents vs os = 1 := by
  induction vs, os using compareComponents.induct <;> simp only [compareComponents] <;>
    split_ifs <;> simp_all

theorem comparePreRelease_cases (vs os : List (List Char)) :
    comparePreRelease vs os = -1 ∨ comparePreRelease vs os = 0 ∨ comparePreRelease vs os = 1 := by
  induction vs, os using comparePreRelease.induct <;> simp only [comparePreRelease] <;>
    (try split) <;> (try split_ifs) <;> simp_all

/-- A comparison is `-1`, `0` or `1`. -/
theorem compareInternal_cases (v other : Version) :
    compareInternal v other = -1 ∨ compareInternal v other = 0 ∨ compareInternal v other = 1 := by
  simp only [compareInternal]
  split_ifs
  exacts [compareComponents_cases _ _, .inr (.inl rfl), .inr (.inr rfl), .inl rfl, .inr (.inl rfl),
    comparePreRelease_cases _ _]

end KubeKey.VersionUtil
