import OtelcolExtension.Config.Types

/-! # The objects the actuator bundles

    The constants of `actuator.go` and the four Target Allocator objects that
    `Reconcile` serializes into its managed resource: a ServiceAccount, a Role,
    a RoleBinding and the `TargetAllocator` itself.  Labels are left out: their
    keys and values are constants of the gardener library.

    `targetAllocatorObjects ns` is the bundle of the cluster in namespace
    `ns`, the argument `Reconcile` hands to `AddAllAndSerialize`. -/

namespace OtelcolExtension.Actuator

/-- `ExtensionType`: the type of the extension resources the actuator reconciles. -/
def ExtensionType : String := "otelcol"

/-- `baseResourceName`. -/
def baseResourceName : String := "external-otelcol"

/-- `managedResourceName`. -/
def managedResourceName : String := baseResourceName

/-- `targetAllocatorName`. -/
def targetAllocatorName : String := baseResourceName

/-- `targetAllocatorServiceAccountName`. -/
def targetAllocatorServiceAccountName : String := baseResourceName ++ "-targetallocator"

/-- `targetAllocatorReplicas`. -/
def targetAllocatorReplicas : Int := 1

/-- `targetAllocatorRoleName`. -/
def targetAllocatorRoleName : String := baseResourceName ++ "-targetallocator"

/-- `metav1.ObjectMeta`: name and namespace. -/
structure ObjectMeta where
  name : String
  «namespace» : String
  deriving Repr, DecidableEq

/-- `corev1.ServiceAccount`. -/
structure ServiceAccount where
  objectMeta : ObjectMeta
  automountServiceAccountToken : Option Bool
  deriving Repr, DecidableEq

/-- `rbacv1.PolicyRule`. -/
structure PolicyRule where
  apiGroups : List String
  resources : List String
  verbs : List String
  deriving Repr, DecidableEq

/-- `rbacv1.Role`. -/
structure Role where
  objectMeta : ObjectMeta
  rules : List PolicyRule
  deriving Repr, DecidableEq

/-- `rbacv1.RoleRef`. -/
structure RoleRef where
  apiGroup : String
  kind : String
  name : String
  deriving Repr, DecidableEq

/-- `rbacv1.Subject`. -/
structure Subject where
  kind : String
  name : String
  «namespace» : String
  deriving Repr, DecidableEq

/-- `rbacv1.RoleBinding`. -/
structure RoleBinding where
  objectMeta : ObjectMeta
  roleRef : RoleRef
  subjects : List Subject
  deriving Repr, DecidableEq

/-- `otelv1alpha1.TargetAllocatorSpec`, the fields the actuator sets; the
    resource requests are the quantities' source strings. -/
structure TargetAllocatorSpec where
  image : String
  replicas : Option Int
  resourceRequests : List (String × String)
  allowPrivilegeEscalation : Option Bool
  serviceAccount : String
  prometheusCREnabled : Bool
  allowNamespaces : List String
  serviceMonitorSelector : List (String × String)
  deriving Repr, DecidableEq

/-- `otelv1alpha1.TargetAllocator`. -/
structure TargetAllocator where
  objectMeta : ObjectMeta
  spec : TargetAllocatorSpec
  deriving Repr, DecidableEq

/-- An object of the seed the actuator bundles. -/
inductive SeedObject where
  | serviceAccount (o : ServiceAccount)
  | role (o : Role)
  | roleBinding (o : RoleBinding)
  | targetAllocator (o : TargetAllocator)
  deriving Repr, DecidableEq

/-- The object's metadata. -/
def SeedObject.objectMeta : SeedObject → ObjectMeta
  | .serviceAccount o => o.objectMeta
  | .role o => o.objectMeta
  | .roleBinding o => o.objectMeta
  | .targetAllocator o => o.objectMeta

/-- `getTargetAllocatorServiceAccount`. -/
def getTargetAllocatorServiceAccount (ns : String) : ServiceAccount :=
  { objectMeta := ⟨targetAllocatorServiceAccountName, ns⟩
    automountServiceAccountToken := some false }

/-- `getTargetAllocatorRole`. -/
def getTargetAllocatorRole (ns : String) : Role :=
  { objectMeta := ⟨targetAllocatorRoleName, ns⟩
    rules := [
      ⟨[""], ["pods", "services", "endpoints", "secrets", "namespaces"], ["get", "list", "watch"]⟩,
      ⟨["discovery.k8s.io"], ["endpointslices"], ["get", "list", "watch"]⟩,
      ⟨["monitoring.coreos.com"], ["servicemonitors", "podmonitors", "scrapeconfigs", "probes"],
        ["get", "list", "watch"]⟩] }

/-- `getTargetAllocatorRoleBinding`. -/
def getTargetAllocatorRoleBinding (ns : String) : RoleBinding :=
  { objectMeta := ⟨targetAllocatorRoleName, ns⟩
    roleRef := ⟨"rbac.authorization.k8s.io", "Role", targetAllocatorRoleName⟩
    subjects := [⟨"ServiceAccount", targetAllocatorServiceAccountName, ns⟩] }

/-- `getTargetAllocator`. -/
def getTargetAllocator (ns : String) : TargetAllocator :=
  { objectMeta := ⟨targetAllocatorName, ns⟩
    spec :=
      { image := "otel/target-allocator:v0.140.0"
        replicas := some targetAllocatorReplicas
        resourceRequests := [("cpu", "10m"), ("memory", "50Mi")]
        allowPrivilegeEscalation := some false
        serviceAccount := targetAllocatorServiceAccountName
        prometheusCREnabled := true
        allowNamespaces := [ns]
        serviceMonitorSelector := [("prometheus", "shoot")] } }

/-- The objects `Reconcile` hands to `AddAllAndSerialize`, in order. -/
def targetAllocatorObjects (ns : String) : List SeedObject :=
  [.serviceAccount (getTargetAllocatorServiceAccount ns),
   .role (getTargetAllocatorRole ns),
   .roleBinding (getTargetAllocatorRoleBinding ns),
   .targetAllocator (getTargetAllocator ns)]

end OtelcolExtension.Actuator
