import Mathlib.Data.List.Basic
import Mathlib.Data.Nat.Digits
import KubeKey.VersionUtil

/-! `GenerateK8eServiceEnv` (`k8e/tasks.go`): the datastore lines and the join
token of the k8e service's environment file.

With the built-in etcd the datastore is the etcd hosts, one `https` endpoint
each, joined by commas, and the file reads them back by splitting at the commas
(`generateK8eServiceEnv_endpoints`). With an external etcd the three TLS files are
copied from the configuration, but the check that guards them tests `CAFile`
three times: the files are written exactly when `CAFile` is set, whatever
`CertFile` and `KeyFile` hold (`generateK8eServiceEnv_tls_files`), so a missing
certificate becomes the directory `/etc/ssl/etcd/ssl/.`
(`generateK8eServiceEnv_certFile_dot`). The built-in case names the first master
and panics without one, and `versionutil.MustParseSemantic` panics on a
Kubernetes version it cannot parse (`generateK8eServiceEnv_eq_none_iff`).

`Etcd.GetPort()` and the type constant `kubekeyapiv1alpha2.External` are outside
these files and are inputs. -/

namespace KubeKey.K8eServiceEnv
open KubeKey.VersionUtil

/-- `filepath.Base` on a Unix path: its last element, trailing slashes dropped;
`.` for the empty path and `/` for a path of slashes. -/
def base (path : List Char) : List Char :=
  if path = [] then ['.']
  else
    let last := ((path.reverse.dropWhile (· == '/')).takeWhile (· != '/')).reverse
    if last = [] then ['/'] else last

/-- `strings.Join`. -/
def join (elems : List String) (sep : String) : String :=
  ⟨sep.data.intercalate (elems.map String.data)⟩

/-- `kubekeyapiv1alpha2.ExternalEtcd`: the datastore the file names. -/
structure ExternalEtcd where
  endpoints : List String
  caFile : String
  certFile : String
  keyFile : String
  deriving DecidableEq, Repr

/-- The etcd settings the task reads: whether `Etcd.Type` is
`kubekeyapiv1alpha2.External`, `Etcd.External`, and `Etcd.GetPort()`. -/
structure EtcdConf where
  external : Bool
  externalEtcd : ExternalEtcd
  port : Nat
  deriving DecidableEq, Repr

/-- A host of the runtime, as the task reads it. -/
structure EnvHost where
  name : String
  internalIPv4Address : String
  isMaster : Bool
  deriving DecidableEq, Repr

/-- The data of the `K8eServiceEnv` template. -/
structure EnvData where
  dataStoreEndPoint : String
  dataStoreCaFile : String
  dataStoreCertFile : String
  dataStoreKeyFile : String
  isMaster : Bool
  token : String
  deriving DecidableEq, Repr

/-- The `https` endpoint of an etcd host. -/
def etcdEndpoint (port : Nat) (node : EnvHost) : String :=
  "https://" ++ node.internalIPv4Address ++ ":" ++ toString port

/-- A TLS file of an external etcd, as the task names it on the node. -/
def sslPath (file : String) : String := "/etc/ssl/etcd/ssl/" ++ ⟨base file.data⟩

/-- The `switch` on the etcd type; `none` where the built-in case indexes an
empty master list. -/
def datastore (etcd : EtcdConf) (etcdHosts masters : List EnvHost) : Option ExternalEtcd :=
  if etcd.external then
    let conf := etcd.externalEtcd
    some (if conf.caFile ≠ "" ∧ conf.caFile ≠ "" ∧ conf.caFile ≠ "" then
      ⟨conf.endpoints, sslPath conf.caFile, sslPath conf.certFile, sslPath conf.keyFile⟩
    else ⟨conf.endpoints, "", "", ""⟩)
  else masters.head?.map fun master =>
    ⟨etcdHosts.map (etcdEndpoint etcd.port), "/etc/ssl/etcd/ssl/ca.pem",
      "/etc/ssl/etcd/ssl/node-" ++ master.name ++ ".pem",
      "/etc/ssl/etcd/ssl/node-" ++ master.name ++ "-key.pem"⟩

/-- `GenerateK8eServiceEnv.Execute` up to the template's rendering, with the
cluster's Kubernetes version and the node token of the cached cluster status;
`none` where it panics: in the `switch` on the etcd type, or in
`MustParseSemantic`. -/
def generateK8eServiceEnv (etcd : EtcdConf) (kubernetesVersion : String) (host : EnvHost)
    (etcdHosts masters : List EnvHost) (clusterStatus : Option String) : Option (Except String EnvData) :=
  match clusterStatus with
  | none => some (.error "get cluster status by pipeline cache failed")
  | some nodeToken =>
    (datastore etcd etcdHosts masters).bind fun externalEtcd =>
    (parseSemantic "v1.21.0").bind fun v121 =>
    (parseSemantic kubernetesVersion).map fun version =>
      .ok ⟨join externalEtcd.endpoints ",", externalEtcd.caFile, externalEtcd.certFile,
        externalEtcd.keyFile, host.isMaster,
        if version.atLeast v121 || !host.isMaster then nodeToken else ""⟩

private theorem digitChar_ne_comma (k : Nat) : Nat.digitChar k ≠ ',' := by
  rcases Nat.lt_or_ge k 16 with small | large
  · exact (by decide : ∀ k < 16, Nat.digitChar k ≠ ',') k small
  · rw [Nat.digitChar]
    simp (disch := omega) only [if_neg]
    decide

private theorem mem_toDigitsCore {base fuel n : Nat} {ds : List Char} {c : Char}
    (mem : c ∈ Nat.toDigitsCore base fuel n ds) : c ∈ ds ∨ ∃ k, c = Nat.digitChar k := by
  induction fuel generalizing n ds with
  | zero => exact .inl mem
  | succ fuel ih =>
    have digitOrRest : ∀ {d}, c ∈ Nat.digitChar d :: ds → c ∈ ds ∨ ∃ k, c = Nat.digitChar k :=
      fun mem => (List.mem_cons.mp mem).elim (fun digit => .inr ⟨_, digit⟩) .inl
    simp only [Nat.toDigitsCore] at mem
    split_ifs at mem
    · exact digitOrRest mem
    · exact (ih mem).elim digitOrRest .inr

theorem comma_not_mem_toString (n : Nat) : ',' ∉ (toString n).data := fun mem => by
  rcases mem_toDigitsCore (show ',' ∈ Nat.toDigits 10 n from mem) with mem | ⟨k, digit⟩
  · cases mem
  · exact digitChar_ne_comma k digit.symm

theorem comma_not_mem_etcdEndpoint {port : Nat} {node : EnvHost}
    (noComma : ',' ∉ node.internalIPv4Address.data) : ',' ∉ (etcdEndpoint port node).data := by
  simp only [etcdEndpoint, String.data_append, List.mem_append, not_or]
  exact ⟨⟨⟨by decide, noComma⟩, by decide⟩, comma_not_mem_toString port⟩

theorem parseSemantic_v1_21_0 : parseSemantic "v1.21.0" = some ⟨[1, 21, 0], true, [], []⟩ := rfl

theorem generateK8eServiceEnv_eq_ok {etcd : EtcdConf} {kubernetesVersion : String} {host : EnvHost}
    {etcdHosts masters : List EnvHost} {clusterStatus : Option String} {data : EnvData}
    (generated : generateK8eServiceEnv etcd kubernetesVersion host etcdHosts masters clusterStatus = some (.ok data)) :
    ∃ externalEtcd, datastore etcd etcdHosts masters = some externalEtcd ∧
      data.dataStoreEndPoint = join externalEtcd.endpoints "," ∧ data.dataStoreCaFile = externalEtcd.caFile ∧
      data.dataStoreCertFile = externalEtcd.certFile ∧ data.dataStoreKeyFile = externalEtcd.keyFile := by
  cases clusterStatus with
  | none => cases generated
  | some nodeToken =>
    simp only [generateK8eServiceEnv, parseSemantic_v1_21_0, Option.bind_eq_some,
      Option.some_bind, Option.map_eq_some'] at generated
    obtain ⟨externalEtcd, found, version, -, rendered⟩ := generated
    cases rendered
    exact ⟨externalEtcd, found, rfl, rfl, rfl, rfl⟩

/-- The task panics exactly when the cluster status is cached and either the
etcd is the built-in one and there is no master, or `MustParseSemantic` cannot
parse the Kubernetes version. -/
theorem generateK8eServiceEnv_eq_none_iff (etcd : EtcdConf) (kubernetesVersion : String)
    (host : EnvHost) (etcdHosts masters : List EnvHost) (clusterStatus : Option String) :
    generateK8eServiceEnv etcd kubernetesVersion host etcdHosts masters clusterStatus = none ↔
      clusterStatus.isSome ∧
        (etcd.external = false ∧ masters = [] ∨ parseSemantic kubernetesVersion = none) := by
  cases clusterStatus <;> cases external : etcd.external <;> cases masters <;>
    cases parsed : parseSemantic kubernetesVersion <;>
    simp [generateK8eServiceEnv, datastore, external, parseSemantic_v1_21_0, parsed]

theorem sslPath_ne_empty (file : String) : sslPath file ≠ "" := by
  simp [sslPath, String.ext_iff]

/-- With an external etcd the three TLS files are written exactly when `CAFile`
is set, whatever `CertFile` and `KeyFile` hold. -/
theorem generateK8eServiceEnv_tls_files {etcd : EtcdConf} {kubernetesVersion : String} {host : EnvHost}
    {etcdHosts masters : List EnvHost} {clusterStatus : Option String} {data : EnvData}
    (external : etcd.external = true)
    (generated : generateK8eServiceEnv etcd kubernetesVersion host etcdHosts masters clusterStatus = some (.ok data)) :
    (data.dataStoreCaFile = "" ↔ etcd.externalEtcd.caFile = "") ∧
      (data.dataStoreCertFile = "" ↔ etcd.externalEtcd.caFile = "") ∧
      (data.dataStoreKeyFile = "" ↔ etcd.externalEtcd.caFile = "") := by
  obtain ⟨externalEtcd, found, -, ca, cert, key⟩ := generateK8eServiceEnv_eq_ok generated
  simp only [datastore, external, if_true, ne_eq, and_self, Option.some.injEq] at found
  split_ifs at found with set <;> subst found
  · simp [ca, cert, key, set]
  · simp [ca, cert, key, set, sslPath_ne_empty]

theorem generateK8eServiceEnv_tls_files_ca_only :
    let data : EnvData := ⟨"https://10.0.0.5:2379", "/etc/ssl/etcd/ssl/ca.pem", "/etc/ssl/etcd/ssl/.", "/etc/ssl/etcd/ssl/.", true,
      "token"⟩
    generateK8eServiceEnv ⟨true, ⟨["https://10.0.0.5:2379"], "/pki/ca.pem", "", ""⟩, 2379⟩ "v1.23.10" ⟨"node1", "10.0.0.1", true⟩ [] [] (some "token") = some (.ok data) ∧
      ((data.dataStoreCaFile = "" ↔ "/pki/ca.pem" = "") ∧ (data.dataStoreCertFile = "" ↔ "/pki/ca.pem" = "") ∧
        (data.dataStoreKeyFile = "" ↔ "/pki/ca.pem" = "")) :=
  ⟨rfl, @generateK8eServiceEnv_tls_files ⟨true, ⟨["https://10.0.0.5:2379"], "/pki/ca.pem", "", ""⟩, 2379⟩ "v1.23.10" ⟨"node1", "10.0.0.1", true⟩ [] [] (some "token") _ rfl rfl⟩

/-- A missing certificate of an external etcd whose CA file is set is written as
the directory `/etc/ssl/etcd/ssl/.`. -/
theorem generateK8eServiceEnv_certFile_dot {etcd : EtcdConf} {kubernetesVersion : String} {host : EnvHost}
    {etcdHosts masters : List EnvHost} {clusterStatus : Option String} {data : EnvData}
    (external : etcd.external = true) (caSet : etcd.externalEtcd.caFile ≠ "")
    (noCert : etcd.externalEtcd.certFile = "")
    (generated : generateK8eServiceEnv etcd kubernetesVersion host etcdHosts masters clusterStatus = some (.ok data)) :
    data.dataStoreCertFile = "/etc/ssl/etcd/ssl/." := by
  obtain ⟨externalEtcd, found, -, -, cert, -⟩ := generateK8eServiceEnv_eq_ok generated
  simp only [datastore, external, if_true, ne_eq, and_self, caSet, not_false_eq_true,
    Option.some.injEq] at found
  rw [cert, ← found, noCert]
  rfl

theorem generateK8eServiceEnv_certFile_dot_missing_cert :
    let data : EnvData := ⟨"https://10.0.0.5:2379", "/etc/ssl/etcd/ssl/ca.pem",
      "/etc/ssl/etcd/ssl/.", "/etc/ssl/etcd/ssl/.", true, "token"⟩
    generateK8eServiceEnv ⟨true, ⟨["https://10.0.0.5:2379"], "/pki/ca.pem", "", ""⟩, 2379⟩ "v1.23.10"
        ⟨"node1", "10.0.0.1", true⟩ [] [] (some "token") = some (.ok data) ∧
      data.dataStoreCertFile = "/etc/ssl/etcd/ssl/." :=
  ⟨rfl, @generateK8eServiceEnv_certFile_dot ⟨true, ⟨["https://10.0.0.5:2379"], "/pki/ca.pem", "", ""⟩, 2379⟩
    "v1.23.10" ⟨"node1", "10.0.0.1", true⟩ [] [] (some "token") _ rfl (by decide) rfl rfl⟩

/-- With the built-in etcd, the datastore line read back by splitting at the
commas is the etcd hosts' endpoints, one per host in their order, when no address
holds a comma. -/
theorem generateK8eServiceEnv_endpoints {etcd : EtcdConf} {kubernetesVersion : String} {host : EnvHost}
    {etcdHosts masters : List EnvHost} {clusterStatus : Option String} {data : EnvData}
    (builtIn : etcd.external = false) (hasEtcd : etcdHosts ≠ [])
    (noComma : ∀ node ∈ etcdHosts, ',' ∉ node.internalIPv4Address.data)
    (generated : generateK8eServiceEnv etcd kubernetesVersion host etcdHosts masters clusterStatus = some (.ok data)) :
    data.dataStoreEndPoint.data.splitOn ',' = (etcdHosts.map (etcdEndpoint etcd.port)).map String.data := by
  obtain ⟨externalEtcd, found, endpoint, -⟩ := generateK8eServiceEnv_eq_ok generated
  simp only [datastore, builtIn, Bool.false_eq_true, if_false, Option.map_eq_some'] at found
  obtain ⟨master, -, rfl⟩ := found
  rw [endpoint]
  exact List.splitOn_intercalate _ ',' (by simpa using fun node mem => comma_not_mem_etcdEndpoint (noComma node mem))
    (by simpa using hasEtcd)

theorem generateK8eServiceEnv_endpoints_two_nodes :
    let etcdHosts : List EnvHost := [⟨"node1", "10.0.0.1", true⟩, ⟨"node2", "10.0.0.2", false⟩]
    (EnvData.dataStoreEndPoint ⟨"https://10.0.0.1:2379,https://10.0.0.2:2379", "/etc/ssl/etcd/ssl/ca.pem",
      "/etc/ssl/etcd/ssl/node-node1.pem", "/etc/ssl/etcd/ssl/node-node1-key.pem", true, "token"⟩).data.splitOn ',' =
      (etcdHosts.map (etcdEndpoint 2379)).map String.data :=
  @generateK8eServiceEnv_endpoints ⟨false, ⟨[], "", "", ""⟩, 2379⟩ "v1.23.10" ⟨"node1", "10.0.0.1", true⟩
    [⟨"node1", "10.0.0.1", true⟩, ⟨"node2", "10.0.0.2", false⟩] [⟨"node1", "10.0.0.1", true⟩] (some "token")
    _ rfl (by simp) (by decide) rfl

end KubeKey.K8eServiceEnv
