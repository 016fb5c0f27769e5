import Mathlib.Data.List.Basic
import KubeKey.Confirm

/-! `GenerateHosts` (`templates`): the entries the init-OS script writes into the
`# kubekey hosts` block of every node's `/etc/hosts`, in the order it writes them.

The inventory's hosts come first, each under `name.clusterName` and `name`, then
the registry, then the lines of `NodeEtcHosts`, and last the control-plane
endpoint. A resolver that takes the first line naming a host (`resolve`, the
C library's `files` source, outside the repository) therefore gives every name of
the inventory the IPv4 address of the first host that carries it, whatever
`NodeEtcHosts` holds (`resolve_generateHosts_inventory`), while a `NodeEtcHosts`
line does take a name the inventory and the registry do not give, the
control-plane domain included, from the endpoint line
(`resolve_generateHosts_of_nodeEtcHosts`). With neither an endpoint address nor a
master, `GenerateHosts` indexes an empty list and panics
(`generateHosts_eq_none_iff`). -/

namespace KubeKey.Hosts

open KubeKey.Confirm (trimSpace)

/-- A host of the inventory, as `GenerateHosts` reads it. -/
structure Host where
  name : String
  internalIPv4Address : String
  internalIPv6Address : String
  deriving DecidableEq, Repr

/-- The settings `GenerateHosts` reads. `registryHost` is `Registry.GetHost()` and
`registryCertificateBaseName` is `registry.RegistryCertificateBaseName`, both
outside these files. -/
structure HostsConf where
  controlPlaneAddress : String
  controlPlaneDomain : String
  clusterName : String
  privateRegistry : String
  registryHost : String
  registryCertificateBaseName : String
  nodeEtcHosts : String
  deriving DecidableEq, Repr

/-- The `fmt.Sprintf("%s  %s.%s %s", ...)` entry of a host at one of its addresses. -/
def hostLine (clusterName name address : String) : String :=
  address ++ "  " ++ name ++ "." ++ clusterName ++ " " ++ name

/-- The entries of a host of the inventory: its IPv4 address and, when it has one,
its IPv6 address; none for a host without a name. -/
def hostLines (clusterName : String) (host : Host) : List String :=
  if host.name = "" then []
  else hostLine clusterName host.name host.internalIPv4Address ::
    if host.internalIPv6Address = "" then [] else [hostLine clusterName host.name host.internalIPv6Address]

/-- The entries of the first registry host, under the private registry's host when
one is set and under the registry certificate's name otherwise. -/
def registryLines (conf : HostsConf) : List Host → List String
  | [] => []
  | registry :: _ =>
    let name := if conf.privateRegistry ≠ "" then conf.registryHost else conf.registryCertificateBaseName
    (registry.internalIPv4Address ++ "  " ++ name) ::
      if registry.internalIPv6Address = "" then [] else [registry.internalIPv6Address ++ "  " ++ name]

/-- The lines of `NodeEtcHosts`, each trimmed, the empty ones dropped. -/
def nodeEtcHostsLines (nodeEtcHosts : String) : List String :=
  if nodeEtcHosts = "" then []
  else ((((trimSpace nodeEtcHosts.toList).splitOn '\n').map trimSpace).filter (· ≠ [])).map String.mk

/-- `GenerateHosts`, over all the hosts, the masters and the registry hosts of the
runtime; `none` where indexing the masters panics. -/
def generateHosts (conf : HostsConf) (allHosts masters registries : List Host) :
    Option (List String) :=
  let lbAddress := if conf.controlPlaneAddress ≠ "" then some conf.controlPlaneAddress
    else masters.head?.map (·.internalIPv4Address)
  lbAddress.map fun address =>
    allHosts.flatMap (hostLines conf.clusterName) ++ registryLines conf registries ++
      nodeEtcHostsLines conf.nodeEtcHosts ++ [address ++ "  " ++ conf.controlPlaneDomain]

/-- `GenerateHosts` panics exactly when no endpoint address is set and there is no
master to take the address of. -/
theorem generateHosts_eq_none_iff (conf : HostsConf) (allHosts masters registries : List Host) :
    generateHosts conf allHosts masters registries = none ↔
      conf.controlPlaneAddress = "" ∧ masters = [] := by
  by_cases address : conf.controlPlaneAddress = "" <;> cases masters <;> simp [generateHosts, address]

theorem generateHosts_eq_some {conf : HostsConf} {allHosts masters registries : List Host}
    {entries : List String} (generated : generateHosts conf allHosts masters registries = some entries) :
    ∃ lbHost, entries = allHosts.flatMap (hostLines conf.clusterName) ++ registryLines conf registries ++
      nodeEtcHostsLines conf.nodeEtcHosts ++ [lbHost] := by
  obtain ⟨_, _, rfl⟩ := Option.map_eq_some'.mp generated
  exact ⟨_, rfl⟩

theorem generateHosts_eq_some_first_master :
    let conf : HostsConf := ⟨"", "lb.kubesphere.local", "cluster.local", "", "", "", ""⟩
    let node1 : Host := ⟨"node1", "10.0.0.1", ""⟩
    ∃ lbHost, ["10.0.0.1  node1.cluster.local node1", "10.0.0.1  lb.kubesphere.local"] =
      [node1].flatMap (hostLines conf.clusterName) ++ registryLines conf [] ++
        nodeEtcHostsLines conf.nodeEtcHosts ++ [lbHost] :=
  @generateHosts_eq_some ⟨"", "lb.kubesphere.local", "cluster.local", "", "", "", ""⟩
    [⟨"node1", "10.0.0.1", ""⟩] [⟨"node1", "10.0.0.1", ""⟩] [] _ rfl

/-! ## Resolution -/

/-- A character that separates the fields of a line. -/
def isBlank (c : Char) : Bool := c = ' ' || c = '\t' || c = '\n'

/-- The fields of a line of `/etc/hosts`, up to a `#` comment: the address, then
the names. -/
def lineFields (line : String) : List String :=
  (((line.data.takeWhile (· ≠ '#')).splitOnP isBlank).filter (· ≠ [])).map String.mk

/-- What a line gives a name: its address when one of its names is the name. -/
def resolveLine (hostname line : String) : Option String :=
  match lineFields line with
  | address :: names => if hostname ∈ names then some address else none
  | [] => none

/-- The address a resolver reading the entries as the C library's `files` source
does gives a name: that of the first line naming it. -/
def resolve (entries : List String) (hostname : String) : Option String :=
  entries.findSome? (resolveLine hostname)

/-- A text without a blank or a `#`, so that it stays within one field. -/
def Bare (s : String) : Prop := ∀ c ∈ s.data, isBlank c = false ∧ c ≠ '#'

/-- A field: not empty, and bare. -/
def Plain (s : String) : Prop := s ≠ "" ∧ Bare s

instance (s : String) : Decidable (Bare s) := inferInstanceAs (Decidable (∀ c ∈ s.data, _))

instance (s : String) : Decidable (Plain s) := inferInstanceAs (Decidable (_ ∧ _))

/-- A host whose entries read back as written: plain addresses and a bare name. -/
structure Host.WellFormed (host : Host) : Prop where
  name : Bare host.name
  ipv4 : Plain host.internalIPv4Address
  ipv6 : host.internalIPv6Address = "" ∨ Plain host.internalIPv6Address

/-- The names the entries of a host give it. -/
def Host.names (clusterName : String) (host : Host) : List String :=
  if host.name = "" then [] else [host.name ++ "." ++ clusterName, host.name]

private theorem splitOnP_bare_append {xs : List Char} (bare : ∀ x ∈ xs, isBlank x = false)
    (sep : Char) (blank : isBlank sep = true) (rest : List Char) :
    (xs ++ sep :: rest).splitOnP isBlank = xs :: rest.splitOnP isBlank :=
  List.splitOnP_first isBlank xs (fun x mem => by simp [bare x mem]) sep blank rest

theorem lineFields_hostLine {clusterName name address : String} (bareCluster : Bare clusterName)
    (plainName : Plain name) (plainAddress : Plain address) :
    lineFields (hostLine clusterName name address) = [address, name ++ "." ++ clusterName, name] := by
  obtain ⟨a⟩ := address
  obtain ⟨n⟩ := name
  obtain ⟨c⟩ := clusterName
  obtain ⟨aNe, aBare⟩ := plainAddress
  obtain ⟨nNe, nBare⟩ := plainName
  simp only [Bare, ne_eq, String.ext_iff] at aNe aBare nNe nBare bareCluster
  have shape : (hostLine ⟨c⟩ ⟨n⟩ ⟨a⟩).data = a ++ ' ' :: ([] ++ ' ' :: ((n ++ '.' :: c) ++ ' ' :: n)) := by
    simp [hostLine]
  have noHash : ∀ x ∈ (hostLine ⟨c⟩ ⟨n⟩ ⟨a⟩).data, decide (x ≠ '#') = true := by
    intro x mem
    simp only [shape, List.mem_append, List.mem_cons, List.nil_append] at mem
    rcases mem with mem | rfl | rfl | (mem | rfl | mem) | rfl | mem <;>
      simp_all
  have nameBare : ∀ x ∈ n ++ '.' :: c, isBlank x = false := by
    intro x mem
    simp only [List.mem_append, List.mem_cons] at mem
    rcases mem with mem | rfl | mem
    exacts [(nBare x mem).1, rfl, (bareCluster x mem).1]
  rw [lineFields, List.takeWhile_eq_self_iff.mpr noHash, shape,
    splitOnP_bare_append (fun x mem => (aBare x mem).1) ' ' rfl,
    splitOnP_bare_append (fun _ mem => absurd mem (List.not_mem_nil _)) ' ' rfl, splitOnP_bare_append nameBare ' ' rfl,
    List.splitOnP_eq_single isBlank n (fun x mem => by simp [(nBare x mem).1])]
  simp [aNe, nNe, String.ext_iff]

theorem resolveLine_hostLine {clusterName name address : String} (bareCluster : Bare clusterName)
    (plainName : Plain name) (plainAddress : Plain address) (hostname : String) :
    resolveLine hostname (hostLine clusterName name address) =
      if hostname ∈ [name ++ "." ++ clusterName, name] then some address else none := by
  simp only [resolveLine, lineFields_hostLine bareCluster plainName plainAddress]

/-- The entries of a well-formed host give each of its names its IPv4 address, and
no other name an address. -/
theorem resolve_hostLines {clusterName : String} (bareCluster : Bare clusterName) {host : Host}
    (wellFormed : host.WellFormed) (hostname : String) :
    resolve (hostLines clusterName host) hostname =
      if hostname ∈ host.names clusterName then some host.internalIPv4Address else none := by
  by_cases unnamed : host.name = ""
  · simp [hostLines, Host.names, unnamed, resolve]
  · have line := fun {address} (plain : Plain address) =>
      resolveLine_hostLine bareCluster ⟨unnamed, wellFormed.name⟩ plain hostname
    by_cases named : hostname ∈ [host.name ++ "." ++ clusterName, host.name]
    · simp [resolve, hostLines, Host.names, unnamed, line wellFormed.ipv4, named]
    · rcases wellFormed.ipv6 with noIPv6 | plainIPv6
      · simp [resolve, hostLines, Host.names, unnamed, line wellFormed.ipv4, named, noIPv6]
      · simp [resolve, hostLines, Host.names, unnamed, line wellFormed.ipv4, line plainIPv6, named]

/-- Over the inventory, a name resolves to the IPv4 address of the first host that
carries it. -/
theorem resolve_flatMap_hostLines {clusterName : String} (bareCluster : Bare clusterName)
    {hosts : List Host} (wellFormed : ∀ host ∈ hosts, host.WellFormed) (hostname : String) :
    resolve (hosts.flatMap (hostLines clusterName)) hostname =
      (hosts.find? fun host => (host.names clusterName).contains hostname).map
        (·.internalIPv4Address) := by
  induction hosts with
  | nil => rfl
  | cons host hosts ih =>
    have rest := ih fun h mem => wellFormed h (List.mem_cons_of_mem _ mem)
    simp only [resolve, List.flatMap_cons, List.findSome?_append] at rest ⊢
    rw [← resolve, resolve_hostLines bareCluster (wellFormed host (List.mem_cons_self _ _)), rest,
      List.find?_cons]
    by_cases named : hostname ∈ host.names clusterName <;> simp [named]

/-- Every name of the inventory resolves, in the entries `GenerateHosts` writes, to
the IPv4 address of the first host that carries it, whatever `NodeEtcHosts` holds. -/
theorem resolve_generateHosts_inventory {conf : HostsConf} {allHosts masters registries : List Host}
    {entries : List String} (generated : generateHosts conf allHosts masters registries = some entries)
    (bareCluster : Bare conf.clusterName) (wellFormed : ∀ host ∈ allHosts, host.WellFormed)
    {hostname : String} {host : Host}
    (carried : allHosts.find? (fun h => (h.names conf.clusterName).contains hostname) = some host) :
    resolve entries hostname = some host.internalIPv4Address := by
  obtain ⟨lbHost, rfl⟩ := generateHosts_eq_some generated
  have inventory := resolve_flatMap_hostLines bareCluster wellFormed hostname
  rw [carried, Option.map_some'] at inventory
  simp only [resolve, List.findSome?_append] at inventory ⊢
  simp [inventory]

theorem resolve_generateHosts_inventory_node1 :
    resolve ((generateHosts ⟨"", "lb.kubesphere.local", "cluster.local", "", "", "dockerhub.kubekey.local",
      "10.9.9.9 node1"⟩ [⟨"node1", "10.0.0.1", ""⟩] [⟨"node1", "10.0.0.1", ""⟩] []).getD [])
      "node1" = some "10.0.0.1" :=
  @resolve_generateHosts_inventory ⟨"", "lb.kubesphere.local", "cluster.local", "", "",
      "dockerhub.kubekey.local", "10.9.9.9 node1"⟩ [⟨"node1", "10.0.0.1", ""⟩] [⟨"node1", "10.0.0.1", ""⟩] []
    _ rfl (by decide) (fun _ mem => List.mem_singleton.mp mem ▸ ⟨by decide, ⟨by decide, by decide⟩, .inl rfl⟩)
    "node1" ⟨"node1", "10.0.0.1", ""⟩ (by decide)

/-- A name that neither the inventory nor the registry gives resolves as the lines
of `NodeEtcHosts` give it, ahead of the control-plane endpoint's entry. -/
theorem resolve_generateHosts_of_nodeEtcHosts {conf : HostsConf}
    {allHosts masters registries : List Host} {entries : List String}
    (generated : generateHosts conf allHosts masters registries = some entries) {hostname address : String}
    (unnamed : resolve (allHosts.flatMap (hostLines conf.clusterName) ++ registryLines conf registries)
      hostname = none)
    (named : resolve (nodeEtcHostsLines conf.nodeEtcHosts) hostname = some address) :
    resolve entries hostname = some address := by
  obtain ⟨lbHost, rfl⟩ := generateHosts_eq_some generated
  simp only [resolve, List.findSome?_append] at unnamed named ⊢
  simp [unnamed, named]

theorem resolve_generateHosts_of_nodeEtcHosts_lb :
    resolve ((generateHosts ⟨"10.0.0.100", "lb.kubesphere.local", "cluster.local", "", "",
      "dockerhub.kubekey.local", "10.0.0.200 lb.kubesphere.local"⟩ [⟨"node1", "10.0.0.1", ""⟩] [] []).getD [])
      "lb.kubesphere.local" = some "10.0.0.200" :=
  @resolve_generateHosts_of_nodeEtcHosts ⟨"10.0.0.100", "lb.kubesphere.local", "cluster.local", "", "",
      "dockerhub.kubekey.local", "10.0.0.200 lb.kubesphere.local"⟩ [⟨"node1", "10.0.0.1", ""⟩] [] [] _ rfl
    "lb.kubesphere.local" "10.0.0.200" (by decide) (by decide)

end KubeKey.Hosts
