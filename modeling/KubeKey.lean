import KubeKey.ConditionStore
import KubeKey.InstancePhases
import KubeKey.ReconcileRun
import KubeKey.ControlPlaneView
import KubeKey.ControlPlaneLifecycle
import KubeKey.AggregateConditions
import KubeKey.WorkloadConditions
import KubeKey.WorkloadOrder
import KubeKey.DockerVersion
import KubeKey.VersionUtil
import KubeKey.Images
import KubeKey.DockerTasks
import KubeKey.Confirm
import KubeKey.Hosts
import KubeKey.K8eServiceEnv
