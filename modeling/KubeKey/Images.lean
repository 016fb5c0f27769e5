import Mathlib.Data.List.Infix
import Mathlib.Data.List.Basic
import KubeKey.InstancePhases

/-! The image references of `pkg/images/images.go`: `ImageRepo` with its
`KKZONE` override and its `NamespaceRewrite`, `ImageName`, and the loop of
`PullImages` that asks each host to pull its images. `strings.Contains` and
`strings.ReplaceAll` are read over the characters and specified against
`List.IsInfix`: under `ChangePrefix` the last `Src` entry the namespace contains
is replaced wherever it occurs, and only an entry that begins the namespace and
does not occur again is a change of prefix.

`Indent`, the `indent` of the templates' `FuncMap`, puts the indentation at the
start of every line and trims the trailing spaces; taking the indentation off
again gives the text back with only its trailing spaces lost (`unindent_indent`). -/
namespace KubeKey.Images
open KubeKey.InstancePhases

/-- `v1alpha2.NamespaceRewritePolicy`: `ChangePrefix`, the one policy
`ImageRepo` acts on, or any other value. -/
inductive NamespaceRewritePolicy
  | changePrefix
  | other (policy : String)
  deriving DecidableEq, Repr

/-- `v1alpha2.NamespaceRewrite`. -/
structure NamespaceRewrite where
  policy : NamespaceRewritePolicy
  src : List String
  dest : String
  deriving DecidableEq, Repr

/-- The image groups of `kubekeyapiv1alpha2` that `PullImages` compares with. -/
inductive Group
  | master
  | worker
  | k8s
  | etcd
  | other (group : String)
  deriving DecidableEq, Repr

/-- `images.Image`. -/
structure Image where
  repoAddr : String
  «namespace» : String
  namespaceOverride : String
  repo : String
  tag : String
  group : Group
  enable : Bool
  namespaceRewrite : Option NamespaceRewrite
  deriving DecidableEq, Repr

/-- `cnRegistry`. -/
def cnRegistry : String := "registry.cn-beijing.aliyuncs.com"

/-- `cnNamespaceOverride`. -/
def cnNamespaceOverride : String := "kubesphereio"

/-! ## `strings.Contains` and `strings.ReplaceAll` -/

/-- `strings.Contains`. -/
def contains (s substr : List Char) : Bool :=
  match s with
  | [] => substr.isEmpty
  | c :: rest => substr.isPrefixOf (c :: rest) || contains rest substr

/-- `strings.Replace` with `n = -1` from a position `skip` characters inside the
occurrence just replaced. A non-empty `old` is matched left to right without
overlap; an empty `old` matches before every character and at the end. -/
def replaceFrom (old new : List Char) : Nat → List Char → List Char
  | 0, [] => if old = [] then new else []
  | 0, c :: rest =>
    if old = [] then new ++ c :: replaceFrom old new 0 rest
    else if old.isPrefixOf (c :: rest) then new ++ replaceFrom old new (old.length - 1) rest
    else c :: replaceFrom old new 0 rest
  | _ + 1, [] => []
  | skip + 1, _ :: rest => replaceFrom old new skip rest

/-- `strings.ReplaceAll`. -/
def replaceAll (s old new : List Char) : List Char :=
  replaceFrom old new 0 s

theorem contains_iff (s substr : List Char) : contains s substr = true ↔ substr <:+: s := by
  induction s with
  | nil => simp [contains]
  | cons c rest ih => simp [contains, ih, List.infix_cons_iff]

theorem replaceFrom_skip (old new : List Char) {skip : Nat} {s : List Char}
    (inside : skip ≤ s.length) : replaceFrom old new skip s = replaceAll (s.drop skip) old new := by
  induction s generalizing skip with
  | nil => simp_all [replaceAll]
  | cons c rest ih =>
    cases skip with
    | zero => rfl
    | succ skip => simpa [replaceFrom] using ih (by simpa using inside)

/-- An occurrence of a non-empty `old` at the front is replaced, and the scan
resumes after it. -/
theorem replaceAll_prefix {old : List Char} (new rest : List Char) (nonempty : old ≠ []) :
    replaceAll (old ++ rest) old new = new ++ replaceAll rest old new := by
  obtain ⟨o, os, rfl⟩ := List.exists_cons_of_ne_nil nonempty
  have front : (o :: os).isPrefixOf (o :: (os ++ rest)) = true :=
    List.isPrefixOf_iff_prefix.mpr (List.prefix_append _ _)
  rw [replaceAll, List.cons_append, replaceFrom, if_neg (List.cons_ne_nil o os), if_pos front,
    List.length_cons, Nat.add_sub_cancel, replaceFrom_skip _ _ (by simp), List.drop_left]

/-- A character that does not begin an occurrence of a non-empty `old` is kept. -/
theorem replaceAll_cons {old : List Char} (new : List Char) {c : Char} {rest : List Char}
    (nonempty : old ≠ []) (notPrefix : ¬ old <+: c :: rest) :
    replaceAll (c :: rest) old new = c :: replaceAll rest old new := by
  simp [replaceAll, replaceFrom, nonempty, notPrefix]

/-- Text in which a non-empty `old` does not occur is left as it is. -/
theorem replaceAll_of_not_infix {old : List Char} (new : List Char) {s : List Char}
    (nonempty : old ≠ []) (absent : ¬ old <:+: s) : replaceAll s old new = s := by
  induction s with
  | nil => simp [replaceAll, replaceFrom, nonempty]
  | cons c rest ih =>
    rw [List.infix_cons_iff, not_or] at absent
    rw [replaceAll_cons new nonempty absent.1, ih absent.2]

/-! ## `ImageRepo` -/

/-- The last entry of `src` that occurs in `ns`, by `List.IsInfix`. -/
def lastOccurring (src : List String) (ns : String) : Option String :=
  (src.filter fun s => decide (s.toList <:+: ns.toList)).getLast?

/-- The `ChangePrefix` case of `ImageRepo`: the last `Src` entry the namespace
contains is replaced by `Dest`, and with none `Dest` is put in front. -/
def changePrefixNamespace (rewrite : NamespaceRewrite) (ns : String) : String :=
  let matchSrc := rewrite.src.foldl (fun matchSrc src =>
    if contains ns.toList src.toList then src else matchSrc) ""
  if matchSrc = "" then rewrite.dest ++ "/" ++ ns
  else ⟨replaceAll ns.toList matchSrc.toList rewrite.dest.toList⟩

/-- The namespace after the `NamespaceRewrite` switch of `ImageRepo`; a policy
other than `ChangePrefix` is only logged. -/
def Image.rewrittenNamespace (image : Image) : String :=
  match image.namespaceRewrite with
  | some rewrite =>
    match rewrite.policy with
    | .changePrefix => changePrefixNamespace rewrite image.«namespace»
    | .other _ => image.«namespace»
  | none => image.«namespace»

/-- Whether the `KKZONE` override applies: the zone is `cn` and the image has
no registry or already `cnRegistry`. -/
def Image.inCnZone (kkzone : String) (image : Image) : Bool :=
  kkzone == "cn" && (image.repoAddr == "" || image.repoAddr == cnRegistry)

/-- `Image.ImageRepo`, with `os.Getenv("KKZONE")` as `kkzone`. -/
def Image.imageRepo (kkzone : String) (image : Image) : String :=
  let image := if image.inCnZone kkzone then
    { image with repoAddr := cnRegistry, namespaceOverride := cnNamespaceOverride } else image
  let image := { image with «namespace» := image.rewrittenNamespace }
  let pre :=
    if image.repoAddr = "" then
      if image.«namespace» = "" then "" else image.«namespace» ++ "/"
    else if image.namespaceOverride = "" then
      if image.«namespace» = "" then image.repoAddr ++ "/library/"
      else image.repoAddr ++ "/" ++ image.«namespace» ++ "/"
    else image.repoAddr ++ "/" ++ image.namespaceOverride ++ "/"
  pre ++ image.repo

/-- `Image.ImageName`. -/
def Image.imageName (kkzone : String) (image : Image) : String :=
  image.imageRepo kkzone ++ ":" ++ image.tag

/-- `Image.ImageNamespace`. -/
def Image.imageNamespace (kkzone : String) (image : Image) : String :=
  let override := if image.inCnZone kkzone then cnNamespaceOverride else image.namespaceOverride
  if override ≠ "" then override else image.«namespace»

/-- `Image.ImageRegistryAddr`. -/
def Image.imageRegistryAddr (kkzone : String) (image : Image) : String :=
  let repoAddr := if image.inCnZone kkzone then cnRegistry else image.repoAddr
  if repoAddr ≠ "" then repoAddr else "docker.io"

/-- For an image without a namespace rewrite that has a registry once the
`KKZONE` override is applied, and a namespace, `ImageRepo` is
`ImageRegistryAddr`, `ImageNamespace` and `Repo` joined by slashes. -/
theorem imageRepo_eq_registry_namespace (kkzone : String) (image : Image)
    (noRewrite : image.namespaceRewrite = none)
    (registry : image.inCnZone kkzone = true ∨ image.repoAddr ≠ "")
    (namespaced : image.imageNamespace kkzone ≠ "") :
    image.imageRepo kkzone =
      image.imageRegistryAddr kkzone ++ "/" ++ image.imageNamespace kkzone ++ "/" ++ image.repo := by
  have rewritten : image.rewrittenNamespace = image.«namespace» := by
    simp [Image.rewrittenNamespace, noRewrite]
  by_cases zone : image.inCnZone kkzone = true
  · simp [Image.imageRepo, Image.imageRegistryAddr, Image.imageNamespace, zone, rewritten,
      Image.rewrittenNamespace, noRewrite, cnRegistry, cnNamespaceOverride]
  · have addr : image.repoAddr ≠ "" := registry.resolve_left zone
    by_cases override : image.namespaceOverride = ""
    · have named : image.«namespace» ≠ "" := by
        simpa [Image.imageNamespace, zone, override] using namespaced
      simp [Image.imageRepo, Image.imageRegistryAddr, Image.imageNamespace, zone, rewritten, addr,
        override, named]
    · simp [Image.imageRepo, Image.imageRegistryAddr, Image.imageNamespace, zone, rewritten, addr,
        override]

theorem imageRepo_eq_registry_namespace_cn :
    (⟨"", "kubesphere", "", "ks-apiserver", "v3.4.1", .k8s, true, none⟩ : Image).imageRepo "cn" =
      (⟨"", "kubesphere", "", "ks-apiserver", "v3.4.1", .k8s, true, none⟩ : Image).imageRegistryAddr "cn" ++
        "/" ++ (⟨"", "kubesphere", "", "ks-apiserver", "v3.4.1", .k8s, true, none⟩ : Image).imageNamespace "cn" ++
        "/" ++ "ks-apiserver" :=
  imageRepo_eq_registry_namespace "cn" _ rfl (.inl rfl) (by decide)

/-- `ImageRepo` reads the namespace only once the `NamespaceRewrite` switch has
rewritten it: it is `ImageRepo` of the image whose namespace is
`rewrittenNamespace` and which has no rewrite. -/
theorem imageRepo_rewrittenNamespace (kkzone : String) (image : Image) :
    image.imageRepo kkzone =
      { image with «namespace» := image.rewrittenNamespace, namespaceRewrite := none }.imageRepo
        kkzone := by
  have sameZone : ∀ ns rewrite, ({ image with «namespace» := ns, namespaceRewrite := rewrite } :
      Image).inCnZone kkzone = image.inCnZone kkzone := fun _ _ => rfl
  by_cases zone : image.inCnZone kkzone = true
  · simp only [Image.imageRepo, if_pos zone, sameZone]
    rfl
  · simp only [Image.imageRepo, if_neg zone, sameZone]
    rfl

private theorem foldl_matchSrc (ns : String) (src : List String) (acc : String) :
    src.foldl (fun matchSrc s => if contains ns.toList s.toList then s else matchSrc) acc =
      (lastOccurring src ns).getD acc := by
  induction src generalizing acc with
  | nil => rfl
  | cons s src ih =>
    rw [List.foldl_cons, ih]
    by_cases occurs : s.toList <:+: ns.toList
    · simp only [lastOccurring, List.filter_cons, (contains_iff _ _).mpr occurs, if_true,
        decide_eq_true occurs, List.getLast?_cons, Option.getD_some]
    · have absent : contains ns.toList s.toList = false :=
        Bool.eq_false_iff.mpr fun found => occurs ((contains_iff _ _).mp found)
      simp only [lastOccurring, List.filter_cons, absent, decide_eq_false occurs]
      rfl

theorem changePrefixNamespace_of_none (rewrite : NamespaceRewrite) (ns : String)
    (none : lastOccurring rewrite.src ns = none ∨ lastOccurring rewrite.src ns = some "") :
    changePrefixNamespace rewrite ns = rewrite.dest ++ "/" ++ ns := by
  simp only [changePrefixNamespace, foldl_matchSrc]
  rcases none with none | empty <;> simp [*]

theorem changePrefixNamespace_of_some (rewrite : NamespaceRewrite) (ns s : String)
    (last : lastOccurring rewrite.src ns = some s) (nonempty : s ≠ "") :
    (changePrefixNamespace rewrite ns).toList = replaceAll ns.toList s.toList rewrite.dest.toList := by
  simp only [changePrefixNamespace, foldl_matchSrc, last, Option.getD_some, if_neg nonempty]
  rfl

/-- Under `ChangePrefix`, with `s` the last `Src` entry occurring in the
namespace: no such entry, or an empty one, puts `Dest` in front; otherwise every
occurrence of `s` becomes `Dest`, which is a change of prefix when the namespace
is `s` followed by a remainder in which `s` does not occur. -/
theorem imageRepo_changePrefix_namespace (image : Image) (src : List String) (dest : String)
    (rewriting : image.namespaceRewrite = some ⟨.changePrefix, src, dest⟩) :
    ((lastOccurring src image.«namespace» = none ∨ lastOccurring src image.«namespace» = some "") →
      image.rewrittenNamespace = dest ++ "/" ++ image.«namespace») ∧
    ∀ s, lastOccurring src image.«namespace» = some s → s ≠ "" →
      image.rewrittenNamespace.toList = replaceAll image.«namespace».toList s.toList dest.toList ∧
      ∀ rest, image.«namespace».toList = s.toList ++ rest → ¬ s.toList <:+: rest →
        image.rewrittenNamespace.toList = dest.toList ++ rest := by
  simp only [Image.rewrittenNamespace, rewriting]
  refine ⟨changePrefixNamespace_of_none ⟨.changePrefix, src, dest⟩ _, fun s last nonempty => ?_⟩
  have replaced := changePrefixNamespace_of_some ⟨.changePrefix, src, dest⟩ _ s last nonempty
  refine ⟨replaced, fun rest split absent => ?_⟩
  have sNonempty : s.toList ≠ [] := fun empty => nonempty (String.ext_iff.mpr empty)
  rw [replaced, split, replaceAll_prefix _ _ sNonempty, replaceAll_of_not_infix _ sNonempty absent]

theorem imageRepo_changePrefix_namespace_kube :
    (⟨"", "kube-system", "", "pause", "3.9", .k8s, true,
        some ⟨.changePrefix, ["kube"], "mirror"⟩⟩ : Image).namespaceRewrite =
      some ⟨.changePrefix, ["kube"], "mirror"⟩ ∧
    ((lastOccurring ["kube"] "kube-system" = none ∨ lastOccurring ["kube"] "kube-system" = some "") →
      (⟨"", "kube-system", "", "pause", "3.9", .k8s, true,
        some ⟨.changePrefix, ["kube"], "mirror"⟩⟩ : Image).rewrittenNamespace =
          "mirror" ++ "/" ++ "kube-system") ∧
    ∀ s, lastOccurring ["kube"] "kube-system" = some s → s ≠ "" →
      (⟨"", "kube-system", "", "pause", "3.9", .k8s, true,
        some ⟨.changePrefix, ["kube"], "mirror"⟩⟩ : Image).rewrittenNamespace.toList =
          replaceAll "kube-system".toList s.toList "mirror".toList ∧
      ∀ rest, "kube-system".toList = s.toList ++ rest → ¬ s.toList <:+: rest →
        (⟨"", "kube-system", "", "pause", "3.9", .k8s, true,
          some ⟨.changePrefix, ["kube"], "mirror"⟩⟩ : Image).rewrittenNamespace.toList =
            "mirror".toList ++ rest :=
  ⟨rfl, imageRepo_changePrefix_namespace ⟨"", "kube-system", "", "pause", "3.9", .k8s, true,
    some ⟨.changePrefix, ["kube"], "mirror"⟩⟩ ["kube"] "mirror" rfl⟩

/-- A `Src` entry inside the namespace counts as a match: `kubesphere` with
`Src` `sphere` becomes `kubemirror`, not `mirror/kubesphere`. -/
theorem imageRepo_changePrefix_inner_match :
    Image.imageRepo "" ⟨"", "kubesphere", "", "ks-apiserver", "v3.4.1", .k8s, true,
      some ⟨.changePrefix, ["sphere"], "mirror"⟩⟩ = "kubemirror/ks-apiserver" := by
  decide

/-! ## `PullImages` -/

/-- The part of `connector.Host` that `PullImages` reads: its roles and its
architecture. -/
structure Host where
  isMaster : Bool
  isWorker : Bool
  isEtcd : Bool
  arch : String
  deriving DecidableEq, Repr

/-- The pull command `PullImages` picks for `Cluster.Kubernetes.ContainerManager`. -/
def pullCmd (containerManager : String) : String :=
  match containerManager with
  | "crio" => "crictl"
  | "containerd" => "crictl"
  | "isula" => "isula"
  | _ => "docker"

/-- The cases of the `switch` of `PullImages` that pull `image` on `host`; for
every other image the loop goes on. -/
def Image.pulledOn (host : Host) (image : Image) : Bool :=
  host.isMaster && image.group == .master && image.enable ||
    host.isWorker && image.group == .worker && image.enable ||
    (host.isMaster || host.isWorker) && image.group == .k8s && image.enable ||
    host.isEtcd && image.group == .etcd && image.enable

/-- `pullCommand` of `PullImages`: only a command other than `crictl` is given
the host's platform. -/
def pullCommand (pullCmd : String) (host : Host) (imagePullName : String) : String :=
  if pullCmd = "crictl" then "env PATH=$PATH " ++ pullCmd ++ " pull " ++ imagePullName
  else "env PATH=$PATH " ++ pullCmd ++ " pull " ++ imagePullName ++ " --platform " ++ host.arch

/-- `Images.PullImages` on one host: the error it returns and the calls it
makes, one `SudoCmd` a pulled image, returning at the first that fails. -/
def pullImages (kkzone containerManager : String) (host : Host) (a : Answers)
    (images : List Image) : Option String × List ServiceCall :=
  let pullCmd := pullCmd containerManager
  let (err, issued) := a.chain [] ((images.filter (·.pulledOn host)).map fun image =>
    .sudoCmd (pullCommand pullCmd host (image.imageName kkzone)))
  (err.map (wrap "pull image failed"), issued)

/-- `PullImages` sends, in the order of the list, one pull command for each
enabled image of the host's groups; when all succeed it returns nil, and
otherwise it stops at the first failure and returns its error, wrapped. -/
theorem pullImages_spec (kkzone containerManager : String) (host : Host) (a : Answers)
    (images : List Image) :
    let commands := (images.filter (·.pulledOn host)).map fun image =>
      ServiceCall.sudoCmd (pullCommand (pullCmd containerManager) host (image.imageName kkzone))
    ((∀ i < commands.length, a.reply i = none) →
      pullImages kkzone containerManager host a images = (none, commands)) ∧
    ∀ i e, i < commands.length → (∀ j < i, a.reply j = none) → a.reply i = some e →
      pullImages kkzone containerManager host a images =
        (some (wrap "pull image failed" e), commands.take (i + 1)) := by
  intro commands
  refine ⟨fun ok => ?_, fun i e bound before fails => ?_⟩
  · have chained := @Answers.chain_of_ok a commands [] (by simpa using ok)
    simp only [pullImages]
    rw [chained]
    rfl
  · have chained := @Answers.chain_of_fail a commands [] i e bound (by simpa using before)
      (by simpa using fails)
    simp only [pullImages]
    rw [chained]
    rfl

/-- A master pulling three images, the second pull failing: two pulls are sent
and the second one's error is returned. -/
theorem pullImages_spec_second_fails :
    let images : List Image := [⟨"", "kubesphere", "", "pause", "3.9", .k8s, true, none⟩,
      ⟨"", "coredns", "", "coredns", "1.9.3", .k8s, true, none⟩,
      ⟨"", "kubesphere", "", "ks-apiserver", "v3.4.1", .master, true, none⟩]
    let host : Host := ⟨true, false, false, "amd64"⟩
    let a : Answers := ⟨fun n => if n = 1 then some "timeout" else none, false,
      .ok ("", "cloud-config"), fun _ _ => .ok []⟩
    pullImages "" "containerd" host a images =
      (some (wrap "pull image failed" "timeout"),
        ((images.filter (·.pulledOn host)).map fun image =>
          ServiceCall.sudoCmd (pullCommand (pullCmd "containerd") host (image.imageName ""))).take 2) :=
  (pullImages_spec "" "containerd" _ _ _).2 1 "timeout" (by decide)
    (fun j lt => by simp [show j = 0 by omega]) rfl

/-! ## `Indent` -/

/-- `strings.TrimRight(s, " ")`: the trailing spaces removed. -/
def trimRight (s : List Char) : List Char :=
  (s.reverse.dropWhile (· == ' ')).reverse

/-- `startOfLine.ReplaceAllLiteralString(text, indentation)`, where `startOfLine`
is the multi-line `^`: the indentation at the start of every line, the empty line
after a final newline included. -/
def replaceStartOfLine (indentation text : List Char) : List Char :=
  ['\n'].intercalate ((text.splitOn '\n').map (indentation ++ ·))

/-- `Indent`: `n` spaces at the start of every line, then the trailing spaces
trimmed. -/
def indent (n : Nat) (text : String) : String :=
  ⟨trimRight (replaceStartOfLine (List.replicate n ' ') text.data)⟩

/-- A line with `n` leading spaces taken off, when it has them. -/
def dropIndentation (n : Nat) (line : List Char) : List Char :=
  if List.replicate n ' ' <+: line then line.drop n else line

/-- Reading indented text back: the indentation taken off every line. -/
def unindent (n : Nat) (text : String) : String :=
  ⟨['\n'].intercalate ((text.data.splitOn '\n').map (dropIndentation n))⟩

/-- The lines of a text with the trailing spaces of the last one trimmed. -/
def trimLast : List (List Char) → List (List Char)
  | [] => []
  | [line] => [trimRight line]
  | line :: lines => line :: trimLast lines

theorem newline_not_mem_of_mem_splitOn {text line : List Char} (mem : line ∈ text.splitOn '\n') :
    '\n' ∉ line := by
  induction text generalizing line with
  | nil => simp_all [List.splitOn_nil]
  | cons c cs ih =>
    simp only [List.splitOn, List.splitOnP_cons] at mem
    split at mem
    · rcases List.mem_cons.mp mem with rfl | mem
      · exact List.not_mem_nil _
      · exact ih mem
    · next newline =>
      obtain ⟨first, rest, pieces⟩ := List.exists_cons_of_ne_nil (List.splitOnP_ne_nil (· == '\n') cs)
      rw [pieces, List.modifyHead_cons, List.mem_cons] at mem
      have pieces : cs.splitOn '\n' = first :: rest := pieces
      rcases mem with rfl | mem
      · simp only [List.mem_cons, not_or]
        exact ⟨fun same => newline (by subst same; rfl), ih (pieces ▸ List.mem_cons_self _ _)⟩
      · exact ih (pieces ▸ List.mem_cons_of_mem _ mem)

theorem intercalate_newline_cons (line : List Char) {lines : List (List Char)} (more : lines ≠ []) :
    ['\n'].intercalate (line :: lines) = line ++ '\n' :: ['\n'].intercalate lines := by
  obtain ⟨next, rest, rfl⟩ := List.exists_cons_of_ne_nil more
  simp [List.intercalate]

theorem trimRight_append (front back : List Char) :
    trimRight (front ++ back) = if trimRight back = [] then trimRight front else front ++ trimRight back := by
  simp only [trimRight, List.reverse_append, List.dropWhile_append, List.reverse_eq_nil_iff, List.isEmpty_iff]
  split <;> simp

theorem trimRight_eq_nil_of_spaces {s : List Char} (spaces : ∀ c ∈ s, c = ' ') : trimRight s = [] := by
  simp only [trimRight, List.reverse_eq_nil_iff, List.dropWhile_eq_nil_iff, List.mem_reverse]
  exact fun c mem => by simp [spaces c mem]

theorem trimRight_prefix (s : List Char) : trimRight s <+: s := by
  simpa [trimRight] using (List.dropWhile_suffix (l := s.reverse) (· == ' ')).reverse

/-- A newline is not a space: trimming stops at it. -/
theorem trimRight_newline (line rest : List Char) :
    trimRight (line ++ '\n' :: rest) = line ++ '\n' :: trimRight rest := by
  rw [← List.singleton_append, ← List.append_assoc, trimRight_append]
  split
  · next trimmed => rw [trimmed]; simp [trimRight]
  · simp

@[simp] theorem trimLast_cons_cons (line next : List Char) (rest : List (List Char)) :
    trimLast (line :: next :: rest) = line :: trimLast (next :: rest) := rfl

theorem trimLast_ne_nil {lines : List (List Char)} (more : lines ≠ []) : trimLast lines ≠ [] := by
  match lines, more with
  | [_], _ => simp [trimLast]
  | _ :: _ :: _, _ => simp [trimLast]

/-- Trimming joined lines trims the last line only. -/
theorem trimRight_intercalate (lines : List (List Char)) :
    trimRight (['\n'].intercalate lines) = ['\n'].intercalate (trimLast lines) := by
  induction lines with
  | nil => rfl
  | cons line rest ih =>
    cases rest with
    | nil => simp [trimLast, List.intercalate]
    | cons next rest =>
      rw [intercalate_newline_cons _ (List.cons_ne_nil _ _), trimRight_newline, ih,
        trimLast_cons_cons,
        intercalate_newline_cons _ (trimLast_ne_nil (List.cons_ne_nil _ _))]

/-- Indentation lost at the end of the text goes with the last line's trailing
spaces: what is left is the indentation before the trimmed line, or nothing. -/
theorem trimRight_indented {indentation : List Char} (spaces : ∀ c ∈ indentation, c = ' ') (line : List Char) :
    trimRight (indentation ++ line) = if trimRight line = [] then [] else indentation ++ trimRight line := by
  rw [trimRight_append, trimRight_eq_nil_of_spaces spaces]

theorem dropIndentation_indented (n : Nat) (line : List Char) :
    dropIndentation n (List.replicate n ' ' ++ line) = line := by
  simp [dropIndentation, List.prefix_append, List.drop_left']

theorem prefix_of_mem_trimLast {lines : List (List Char)} {line : List Char} (mem : line ∈ trimLast lines) :
    ∃ original ∈ lines, line <+: original := by
  induction lines with
  | nil => cases mem
  | cons first rest ih =>
    cases rest with
    | nil =>
      simp only [trimLast, List.mem_singleton] at mem
      exact ⟨first, List.mem_singleton_self _, mem ▸ trimRight_prefix first⟩
    | cons next rest =>
      rcases List.mem_cons.mp mem with rfl | mem
      · exact ⟨line, List.mem_cons_self _ _, List.prefix_refl _⟩
      · obtain ⟨original, mem, pre⟩ := ih mem
        exact ⟨original, List.mem_cons_of_mem _ mem, pre⟩

/-- Taking the indentation off the indented lines, the last trimmed, gives the
lines back with the last trimmed. -/
theorem map_dropIndentation_trimLast (n : Nat) (lines : List (List Char)) :
    (trimLast (lines.map (List.replicate n ' ' ++ ·))).map (dropIndentation n) = trimLast lines := by
  induction lines with
  | nil => rfl
  | cons line rest ih =>
    cases rest with
    | nil =>
      simp only [List.map_cons, List.map_nil, trimLast,
        trimRight_indented (fun _ mem => List.eq_of_mem_replicate mem)]
      split
      · next trimmed => simp [dropIndentation, trimmed]
      · simp [dropIndentation_indented]
    | cons next rest =>
      simp only [List.map_cons, trimLast_cons_cons] at ih ⊢
      rw [dropIndentation_indented, ih]

/-- `Indent` keeps the text: taking the indentation off every line gives it back
with only its trailing spaces lost. -/
theorem unindent_indent (n : Nat) (text : String) :
    unindent n (indent n text) = ⟨trimRight text.data⟩ := by
  have spaces : ∀ c ∈ List.replicate n ' ', c = ' ' := fun _ mem => List.eq_of_mem_replicate mem
  have noNewline : ∀ line ∈ trimLast ((text.data.splitOn '\n').map (List.replicate n ' ' ++ ·)),
      '\n' ∉ line := by
    intro line mem newline
    obtain ⟨original, mem, pre⟩ := prefix_of_mem_trimLast mem
    obtain ⟨piece, piece_mem, rfl⟩ := List.mem_map.mp mem
    rcases List.mem_append.mp (pre.subset newline) with inIndentation | inPiece
    · exact absurd (spaces _ inIndentation) (by decide)
    · exact newline_not_mem_of_mem_splitOn piece_mem inPiece
  simp only [unindent, indent, replaceStartOfLine, trimRight_intercalate]
  rw [List.splitOn_intercalate _ _ noNewline (trimLast_ne_nil (by simp [List.splitOn, List.splitOnP_ne_nil])),
    map_dropIndentation_trimLast, ← trimRight_intercalate, List.intercalate_splitOn]

/-- The line after a final newline gets the indentation, which the trim takes off
again; the trailing spaces of the text are lost, those before a newline are kept. -/
example : indent 2 "a \nb\n" = "  a \n  b\n" ∧ indent 2 "a\nb  " = "  a\n  b" := by
  decide

end KubeKey.Images
