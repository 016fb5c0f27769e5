import Mathlib.Data.List.Basic
import KubeKey.ConditionStore

/-! `RefineDockerVersion` (`bootstrap/confirm/tasks.go`), which rewrites a
Docker version so that `UpgradeConfirm` can hand it to
`versionutil.MustParseSemantic`. The regular expression it matches is read
here by a greedy scanner over the characters; each component of the numbers
it captures loses at most one leading `0`. So the components keep their
number and their values, and a component keeps a leading zero exactly when it
began with two. -/
namespace KubeKey.DockerVersion
open KubeKey.ConditionStore

/-- `\s` of RE2: tab, newline, form feed, carriage return and space. -/
def isSpace (c : Char) : Bool :=
  c == '\t' || c == '\n' || c == '\x0c' || c == '\r' || c == ' '

/-- The group `([0-9]+(?:\.[0-9]+)*)` read greedily from a first digit on: the
characters it captures and what follows them. A dot is taken only when a
digit follows it. -/
def readNumbers : List Char → List Char × List Char
  | [] => ([], [])
  | c :: rest =>
    if c.isDigit then
      let (more, tail) := readNumbers rest
      (c :: more, tail)
    else if c = '.' then
      match rest with
      | d :: _ =>
        if d.isDigit then
          let (more, tail) := readNumbers rest
          (c :: more, tail)
        else ([], c :: rest)
      | [] => ([], [c])
    else ([], c :: rest)

/-- The optional `v` of the expression. -/
def stripV : List Char → List Char
  | 'v' :: rest => rest
  | s => s

/-- `versionMatchRE.FindStringSubmatch(version)[1]` for
`^\s*v?([0-9]+(?:\.[0-9]+)*)(.*)*$`: nil when the numbers do not start right
after the blanks and the `v`, or when a newline follows them (`.` does not
match one, and `$` is the end of the text). -/
def versionNumbers (version : List Char) : Option (List Char) :=
  match stripV (version.dropWhile isSpace) with
  | c :: rest =>
    if c.isDigit then
      let (numbers, tail) := readNumbers (c :: rest)
      if tail.contains '\n' then none else some numbers
    else none
  | [] => none

/-- `strings.TrimPrefix`. -/
def trimPrefix (s pre : List Char) : List Char :=
  if pre.isPrefixOf s then s.drop pre.length else s

/-- The body of the loop of `RefineDockerVersion` for one component. -/
def refineComponent (c : List Char) : List Char :=
  let newVersion := trimPrefix c ['0']
  if newVersion = [] then ['0'] else newVersion

/-- `RefineDockerVersion`; the error is the format and argument of `fmt.Errorf`. -/
def refineDockerVersion (version : String) : Except Message String :=
  match versionNumbers version.toList with
  | none => .error ⟨"could not parse %q as version", [version]⟩
  | some numbers =>
    let components := numbers.splitOn '.'
    .ok ⟨['.'].intercalate (components.map refineComponent)⟩

/-! ## The captured numbers -/

/-- A component of the numbers: one digit or more. -/
def IsComponent (d : List Char) : Prop := d ≠ [] ∧ ∀ x ∈ d, x.isDigit

/-- What follows the captured numbers cannot extend them: no digit, and no dot
before a digit. -/
def Stops : List Char → Prop
  | [] => True
  | x :: rest => x.isDigit = false ∧ (x = '.' → ∀ y ∈ rest.head?, y.isDigit = false)

private theorem intercalate_cons_head (c : Char) (d : List Char) (ds : List (List Char)) :
    ['.'].intercalate ((c :: d) :: ds) = c :: ['.'].intercalate (d :: ds) := by
  cases ds <;> simp [List.intercalate, List.intersperse_cons_cons]

private theorem intercalate_digit_dot (c : Char) {comps : List (List Char)} (nonempty : comps ≠ []) :
    ['.'].intercalate ([c] :: comps) = c :: '.' :: ['.'].intercalate comps := by
  obtain ⟨d, ds, rfl⟩ := List.exists_cons_of_ne_nil nonempty
  simp [List.intercalate, List.intersperse_cons_cons]

theorem readNumbers_digit {c : Char} (rest : List Char) (digit : c.isDigit) :
    readNumbers (c :: rest) = (c :: (readNumbers rest).1, (readNumbers rest).2) := by
  simp [readNumbers, digit]

theorem readNumbers_dot_digit {d : Char} (more : List Char) (digit : d.isDigit) :
    readNumbers ('.' :: d :: more) =
      ('.' :: (readNumbers (d :: more)).1, (readNumbers (d :: more)).2) := by
  simp [readNumbers, digit, show Char.isDigit '.' = false by decide]

theorem readNumbers_of_stops {s : List Char} (stops : Stops s) : readNumbers s = ([], s) := by
  match s, stops with
  | [], _ => rfl
  | c :: rest, ⟨notDigit, notDot⟩ =>
    by_cases dot : c = '.'
    · subst dot
      cases rest with
      | nil => rfl
      | cons d more => simp [readNumbers, notDot rfl d rfl]
    · simp [readNumbers, notDigit, dot]

/-- `readNumbers` splits its input into the captured characters and a rest
that cannot extend them; the captured characters are components joined by
dots, after a leading dot when the input starts with one. -/
theorem readNumbers_spec (s : List Char) :
    s = (readNumbers s).1 ++ (readNumbers s).2 ∧ Stops (readNumbers s).2 ∧
    ((readNumbers s).1 = [] ∨ ∃ comps, comps ≠ [] ∧ (∀ d ∈ comps, IsComponent d) ∧
      (((readNumbers s).1 = ['.'].intercalate comps ∧ ∀ c ∈ s.head?, c.isDigit) ∨
        (readNumbers s).1 = '.' :: ['.'].intercalate comps)) := by
  induction s with
  | nil => simp [readNumbers, Stops]
  | cons c rest ih =>
    obtain ⟨split, stops, shape⟩ := ih
    by_cases digit : c.isDigit
    · rw [readNumbers_digit rest digit]
      refine ⟨congrArg (c :: ·) split, stops, .inr ?_⟩
      rcases shape with empty | ⟨comps, nonempty, valid, ⟨numbers, -⟩ | dotted⟩
      · exact ⟨[[c]], by simp, by simp [IsComponent, digit],
          .inl ⟨by simp [empty, List.intercalate], by simp [digit]⟩⟩
      · obtain ⟨d, ds, rfl⟩ := List.exists_cons_of_ne_nil nonempty
        refine ⟨(c :: d) :: ds, by simp, ?_,
          .inl ⟨by rw [numbers, intercalate_cons_head], by simp [digit]⟩⟩
        intro e mem
        rcases List.mem_cons.mp mem with rfl | later
        · exact ⟨by simp, by simpa [digit] using (valid d (by simp)).2⟩
        · exact valid e (by simp [later])
      · refine ⟨[c] :: comps, by simp, ?_,
          .inl ⟨by rw [dotted, intercalate_digit_dot c nonempty], by simp [digit]⟩⟩
        intro e mem
        rcases List.mem_cons.mp mem with rfl | later
        · exact ⟨by simp, by simp [digit]⟩
        · exact valid e later
    · by_cases start : Stops (c :: rest)
      · rw [readNumbers_of_stops start]
        exact ⟨rfl, start, .inl rfl⟩
      · obtain ⟨rfl, d, more, rfl, next⟩ : c = '.' ∧ ∃ d more, rest = d :: more ∧ d.isDigit := by
          simp only [Stops, Bool.not_eq_true, digit, true_and, Classical.not_imp] at start
          obtain ⟨dot, y, head, isDigit⟩ := by simpa using start
          cases rest with
          | nil => simp at head
          | cons d more => exact ⟨dot, d, more, rfl, by simpa [← Option.some.inj head] using isDigit⟩
        rw [readNumbers_dot_digit more next]
        refine ⟨congrArg ('.' :: ·) split, stops, .inr ?_⟩
        rcases shape with empty | ⟨comps, nonempty, valid, ⟨numbers, -⟩ | dotted⟩
        · simp [readNumbers_digit more next] at empty
        · exact ⟨comps, nonempty, valid, .inr (by rw [numbers])⟩
        · rw [readNumbers_digit more next] at dotted
          cases (List.cons.inj dotted).1
          simp at next

/-! ## Refining a component -/

/-- The number a string of digits denotes, as `strconv.ParseUint` reads it. -/
def digitsValue (d : List Char) : Nat :=
  d.foldl (fun n c => 10 * n + (c.toNat - '0'.toNat)) 0

/-- `0`, or a first digit other than `0`: what the semantic-version parser
accepts in every component. -/
def NoLeadingZero (d : List Char) : Prop :=
  d = ['0'] ∨ ∃ x rest, d = x :: rest ∧ x ≠ '0'

theorem refineComponent_cons (x : Char) (rest : List Char) :
    refineComponent (x :: rest) =
      if x = '0' then (if rest = [] then ['0'] else rest) else x :: rest := by
  by_cases zero : x = '0'
  · subst zero
    simp [refineComponent, trimPrefix, List.isPrefixOf]
  · simp [refineComponent, trimPrefix, List.isPrefixOf, zero, Ne.symm zero]

/-- Dropping one leading `0` keeps the value. -/
theorem digitsValue_refineComponent (d : List Char) :
    digitsValue (refineComponent d) = digitsValue d := by
  cases d with
  | nil => rfl
  | cons x rest =>
    rw [refineComponent_cons]
    by_cases zero : x = '0'
    · subst zero
      by_cases empty : rest = [] <;> simp [empty, digitsValue]
    · simp [zero]

theorem isComponent_refineComponent {d : List Char} (comp : IsComponent d) :
    IsComponent (refineComponent d) := by
  obtain ⟨x, rest, rfl⟩ := List.exists_cons_of_ne_nil comp.1
  rw [refineComponent_cons]
  split_ifs with zero empty
  · exact ⟨by simp, by simp⟩
  · exact ⟨empty, fun y mem => comp.2 y (by simp [mem])⟩
  · exact comp

/-- A refined component keeps a leading zero exactly when the component began
with two zeros and a third digit. -/
theorem noLeadingZero_refineComponent_iff {d : List Char} (comp : IsComponent d) :
    NoLeadingZero (refineComponent d) ↔ ¬ ∃ x more, d = '0' :: '0' :: x :: more := by
  obtain ⟨x, rest, rfl⟩ := List.exists_cons_of_ne_nil comp.1
  rw [refineComponent_cons]
  by_cases zero : x = '0'
  · subst zero
    match rest with
    | [] => simp [NoLeadingZero]
    | [y] => by_cases second : y = '0' <;> simp [NoLeadingZero, second]
    | y :: z :: more => by_cases second : y = '0' <;> simp [NoLeadingZero, second]
  · simp [NoLeadingZero, zero]

/-! ## The whole function -/

/-- What the expression captures: after the blanks and an optional `v`, the
longest run of components joined by dots, followed by no newline. -/
theorem versionNumbers_spec {version numbers : List Char}
    (found : versionNumbers version = some numbers) :
    ∃ blanks v tail comps, version = blanks ++ v ++ numbers ++ tail ∧ (∀ x ∈ blanks, isSpace x) ∧
      (v = [] ∨ v = ['v']) ∧ Stops tail ∧ '\n' ∉ tail ∧ comps ≠ [] ∧
      (∀ d ∈ comps, IsComponent d) ∧ numbers = ['.'].intercalate comps := by
  have whole := (List.takeWhile_append_dropWhile isSpace version).symm
  obtain ⟨v, afterV, split, vShape⟩ : ∃ v afterV, version.dropWhile isSpace = v ++ afterV ∧
      (v = [] ∨ v = ['v']) ∧ stripV (version.dropWhile isSpace) = afterV := by
    rcases h : version.dropWhile isSpace with _ | ⟨c, rest⟩
    · exact ⟨[], [], rfl, .inl rfl, rfl⟩
    · by_cases isV : c = 'v'
      · subst isV; exact ⟨['v'], rest, rfl, .inr rfl, rfl⟩
      · exact ⟨[], c :: rest, rfl, .inl rfl, by simp [stripV, isV]⟩
  unfold versionNumbers at found
  rw [vShape.2] at found
  obtain _ | ⟨c, rest⟩ := afterV
  · simp at found
  by_cases digit : c.isDigit
  · obtain ⟨read, stops, shape⟩ := readNumbers_spec (c :: rest)
    simp only [digit, ↓reduceIte] at found
    split_ifs at found with newline
    cases found
    refine ⟨version.takeWhile isSpace, v, (readNumbers (c :: rest)).2, ?_⟩
    rcases shape with empty | ⟨comps, nonempty, valid, ⟨numbers, -⟩ | dotted⟩
    · rw [empty, List.nil_append] at read
      rw [← read] at stops
      exact absurd stops.1 (by simp [digit])
    · refine ⟨comps, ?_, fun x mem => List.mem_takeWhile_imp mem, vShape.1, stops,
        by simpa using newline, nonempty, valid, numbers⟩
      rw [List.append_assoc, List.append_assoc, ← read, ← split]
      exact whole
    · rw [dotted, List.cons_append] at read
      cases (List.cons.inj read).1
      exact absurd digit (by decide)
  · simp [digit] at found

/-- On every string it accepts, `RefineDockerVersion` returns as many
components as the captured numbers have, each denoting the same number; a
component keeps a leading zero exactly when the captured one began with two
zeros and a third digit. -/
theorem refineDockerVersion_spec {version r : String} (ok : refineDockerVersion version = .ok r) :
    ∃ comps, comps ≠ [] ∧ (∀ d ∈ comps, IsComponent d) ∧
      versionNumbers version.toList = some (['.'].intercalate comps) ∧
      r.toList.splitOn '.' = comps.map refineComponent ∧
      (r.toList.splitOn '.').map digitsValue = comps.map digitsValue ∧
      ((∀ d ∈ r.toList.splitOn '.', NoLeadingZero d) ↔
        ∀ d ∈ comps, ¬ ∃ x more, d = '0' :: '0' :: x :: more) := by
  rw [refineDockerVersion] at ok
  cases found : versionNumbers version.toList with
  | none => rw [found] at ok; cases ok
  | some numbers =>
    rw [found] at ok
    cases ok
    obtain ⟨-, -, -, comps, -, -, -, -, -, nonempty, valid, rfl⟩ := versionNumbers_spec found
    have noDot : ∀ d, IsComponent d → '.' ∉ d := fun d comp dot => by
      simpa using comp.2 '.' dot
    have refined : (['.'].intercalate (comps.map refineComponent)).splitOn '.' =
        comps.map refineComponent :=
      List.splitOn_intercalate _ '.' (by
        simpa using fun d mem => noDot _ (isComponent_refineComponent (valid d mem)))
        (by simpa using nonempty)
    rw [List.splitOn_intercalate _ '.' (fun d mem => noDot d (valid d mem)) nonempty]
    simp only [String.toList]
    refine ⟨comps, nonempty, valid, rfl, refined, ?_, ?_⟩
    · simp [refined, Function.comp_def, digitsValue_refineComponent]
    · simp only [refined, List.mem_map, forall_exists_index, and_imp, forall_apply_eq_imp_iff₂]
      exact forall₂_congr fun d mem => noLeadingZero_refineComponent_iff (valid d mem)

theorem refineDockerVersion_spec_docker :
    ∃ comps, comps ≠ [] ∧ (∀ d ∈ comps, IsComponent d) ∧
      versionNumbers "v20.10.07".toList = some (['.'].intercalate comps) ∧
      "20.10.7".toList.splitOn '.' = comps.map refineComponent ∧
      ("20.10.7".toList.splitOn '.').map digitsValue = comps.map digitsValue ∧
      ((∀ d ∈ "20.10.7".toList.splitOn '.', NoLeadingZero d) ↔
        ∀ d ∈ comps, ¬ ∃ x more, d = '0' :: '0' :: x :: more) :=
  @refineDockerVersion_spec "v20.10.07" "20.10.7" rfl

/-- `18.009.1` refines to `18.09.1`: `TrimPrefix` removes a single `0`, and
`MustParseSemantic` then panics on the zero-prefixed component `09`. -/
theorem refineDockerVersion_two_leading_zeros :
    refineDockerVersion "18.009.1" = .ok "18.09.1" := rfl

end KubeKey.DockerVersion
