import OtelcolExtension.Config.Validation
import OtelcolExtension.Actuator.Resources
import Mathlib.Logic.Function.Basic

/-! # The actuator

    `Actuator.Reconcile`, `Delete`, `ForceDelete`, `Restore` and `Migrate` as
    operations on a world: the managed resources of the seed, keyed by
    namespace and name, the `ActuatorOperationTotal` counters, and the log of
    the calls the actuator makes to its collaborators.  Each call gets its
    collaborators' answers from a `CallEnv`: the cluster lookup, the
    serialization of the bundle, and whether the seed accepts the
    `CreateForSeed` upsert or the `DeleteForSeed` removal — an atomic step that
    succeeds or fails without effect.  `defer` becomes `deferInc`, run after
    the body on every return path.

    One spec lemma per operation branch (`delete_eq`, `reconcile_of_gate_off`,
    `reconcile_of_cluster_error`, …) says everything the branch does; the
    lifecycle results are derived from these alone.

    `New` folds its functional options over the zero struct, stopping at the
    first error; the package's options never fail and the last one to set a
    field wins (`new_packageOptions`). -/

namespace OtelcolExtension

open Config

namespace V1beta1

/-- `gardencorev1beta1.Hibernation`. -/
structure Hibernation where
  enabled : Option Bool := none

/-- `gardencorev1beta1.ShootSpec`, its hibernation settings. -/
structure ShootSpec where
  hibernation : Option Hibernation := none

/-- `gardencorev1beta1.Shoot`, as far as hibernation goes. -/
structure Shoot where
  spec : ShootSpec := {}

end V1beta1

namespace ExtensionsV1alpha1

/-- `extensionsv1alpha1.ExtensionSpec`: the provider config. -/
structure ExtensionSpec where
  providerConfig : Option RawExtension := none

/-- `extensionsv1alpha1.Extension`: its namespace, named after the cluster,
    and its spec. -/
structure Extension where
  «namespace» : String
  spec : ExtensionSpec := {}

end ExtensionsV1alpha1

/-- The `Actuator` struct: its decoder and the gardenlet's feature gates. -/
structure Actuator where
  decoder : Decoder
  gardenletFeatureGates : String → Option Bool

namespace Actuator

open V1beta1 ExtensionsV1alpha1 Validation

/-- `extensionscontroller.Cluster`, with the decoded shoot. -/
structure Cluster where
  shoot : Shoot := {}

/-- `v1beta1helper.HibernationIsEnabled`. -/
def hibernationIsEnabled (shoot : Shoot) : Bool :=
  match shoot.spec.hibernation with
  | some h => h.enabled == some true
  | none => false

/-- Modelled from the spec: the name of gardener's `OpenTelemetryCollector`
    feature gate, which this repository does not define. -/
def OpenTelemetryCollector : String := "OpenTelemetryCollector"

/-- The data `AddAllAndSerialize` produces: file names and contents. -/
abbrev SerializedData := List (String × List UInt8)

/-- A managed resource of the seed, as `CreateForSeed` writes it. -/
structure ManagedResource where
  keepObjects : Bool
  data : SerializedData
  deriving Repr, DecidableEq

/-- The seed's managed resources, by namespace and name. -/
abbrev ManagedResources := String × String → Option ManagedResource

/-- A call of the actuator to a collaborator. -/
inductive SeedCall where
  | getCluster (name : String)
  | addAllAndSerialize (objects : List SeedObject)
  | createForSeed (ns name : String)
  | deleteForSeed (ns name : String)
  deriving Repr, DecidableEq

/-- What the actuator's operations act on. -/
structure World where
  managedResources : ManagedResources
  actuatorOperationTotal : String × String → Nat
  calls : List SeedCall

/-- An error the seed refuses a removal with: an object that exists is never
    reported `NotFound`. -/
structure SeedError where
  err : GoError
  not_notFound : err.isNotFound = false

/-- The collaborators' answers to one call of the actuator. -/
structure CallEnv where
  /-- `extensionscontroller.GetCluster`, by cluster name. -/
  getCluster : String → Except GoError Cluster
  /-- `registry.AddAllAndSerialize`. -/
  addAllAndSerialize : List SeedObject → Except GoError SerializedData
  /-- The error `CreateForSeed` fails with, if it fails. -/
  createForSeed : Option GoError
  /-- The error `DeleteForSeed` fails with, if it fails. -/
  deleteForSeed : Option SeedError

/-- An operation: a run against the world, returning Go's `error` (`none` is `nil`). -/
abbrev Op := World → Option GoError × World

-- ── The world's updates ─────────────────────────────────────────────────

/-- Log a call to a collaborator. -/
def World.record (w : World) (c : SeedCall) : World :=
  { w with calls := w.calls ++ [c] }

/-- Set or clear the managed resource at `key`. -/
def World.setManagedResource (w : World) (key : String × String)
    (mr : Option ManagedResource) : World :=
  { w with managedResources := Function.update w.managedResources key mr }

/-- `ActuatorOperationTotal.WithLabelValues(cluster, operation).Inc()`. -/
def World.inc (w : World) (key : String × String) : World :=
  { w with actuatorOperationTotal :=
      Function.update w.actuatorOperationTotal key (w.actuatorOperationTotal key + 1) }

@[simp] theorem World.record_managedResources (w : World) (c : SeedCall) :
    (w.record c).managedResources = w.managedResources := rfl
@[simp] theorem World.record_actuatorOperationTotal (w : World) (c : SeedCall) :
    (w.record c).actuatorOperationTotal = w.actuatorOperationTotal := rfl
@[simp] theorem World.record_calls (w : World) (c : SeedCall) :
    (w.record c).calls = w.calls ++ [c] := rfl
@[simp] theorem World.setManagedResource_managedResources (w : World) key mr :
    (w.setManagedResource key mr).managedResources = Function.update w.managedResources key mr := rfl
@[simp] theorem World.setManagedResource_actuatorOperationTotal (w : World) key mr :
    (w.setManagedResource key mr).actuatorOperationTotal = w.actuatorOperationTotal := rfl
@[simp] theorem World.setManagedResource_calls (w : World) key mr :
    (w.setManagedResource key mr).calls = w.calls := rfl
@[simp] theorem World.inc_managedResources (w : World) key :
    (w.inc key).managedResources = w.managedResources := rfl
@[simp] theorem World.inc_actuatorOperationTotal (w : World) key :
    (w.inc key).actuatorOperationTotal =
      Function.update w.actuatorOperationTotal key (w.actuatorOperationTotal key + 1) := rfl
@[simp] theorem World.inc_calls (w : World) key : (w.inc key).calls = w.calls := rfl

-- ── Collaborators ───────────────────────────────────────────────────────

/-- `extensionscontroller.GetCluster`. -/
def getCluster (env : CallEnv) (name : String) (w : World) : Except GoError Cluster × World :=
  (env.getCluster name, w.record (.getCluster name))

/-- `registry.AddAllAndSerialize`. -/
def addAllAndSerialize (env : CallEnv) (objects : List SeedObject) (w : World) :
    Except GoError SerializedData × World :=
  (env.addAllAndSerialize objects, w.record (.addAllAndSerialize objects))

/-- `managedresources.CreateForSeed`: an upsert of one entry, or nothing. -/
def createForSeed (env : CallEnv) (ns name : String) (keepObjects : Bool)
    (data : SerializedData) : Op := fun w =>
  let w := w.record (.createForSeed ns name)
  match env.createForSeed with
  | some err => (some err, w)
  | none => (none, w.setManagedResource (ns, name) (some ⟨keepObjects, data⟩))

/-- The `NotFound` status the seed answers for a managed resource it lacks. -/
def managedResourceNotFound (name : String) : GoError :=
  .statusError .notFound ("managedresources.resources.gardener.cloud \"" ++ name ++ "\" not found")

/-- `managedresources.DeleteForSeed`: a removal of one entry, `NotFound` when
    it is absent, or nothing. -/
def deleteForSeed (env : CallEnv) (ns name : String) : Op := fun w =>
  let w := w.record (.deleteForSeed ns name)
  match env.deleteForSeed with
  | some e => (some e.err, w)
  | none =>
      match w.managedResources (ns, name) with
      | some _ => (none, w.setManagedResource (ns, name) none)
      | none => (some (managedResourceNotFound name), w)

/-- A `defer` incrementing the operation counter after `body`. -/
def deferInc (cluster operation : String) (body : Op) : Op := fun w =>
  let (err, w) := body w
  (err, w.inc (cluster, operation))

-- ── The operations ──────────────────────────────────────────────────────

variable (urlParse : String → Option GoError)

/-- `Actuator.Delete`. -/
def delete (env : CallEnv) (ex : Extension) : Op :=
  deferInc ex.«namespace» "delete" fun w =>
    let (err, w) := deleteForSeed env ex.«namespace» managedResourceName w
    (ignoreNotFound err, w)

/-- The "Parse and validate the provider config" block of `Reconcile`. -/
def parseProviderConfig (d : Decoder) (providerConfig : Option RawExtension) :
    Except GoError CollectorConfig :=
  match providerConfig with
  | none => .error (.errorString "no provider config specified")
  | some pc =>
      match decodeInto d pc.raw with
      | .error err => .error (wrapf "invalid provider spec configuration: " err "")
      | .ok cfg =>
          match validate urlParse cfg with
          | some err => .error err
          | none => .ok cfg

/-- The "Bundle things up in a managed resource" block of `Reconcile`. -/
def bundle (env : CallEnv) (ns : String) : Op := fun w =>
  match addAllAndSerialize env (targetAllocatorObjects ns) w with
  | (.error err, w) => (some err, w)
  | (.ok data, w) => createForSeed env ns managedResourceName false data w

/-- `Actuator.Reconcile`. -/
def reconcile (a : Actuator) (env : CallEnv) (ex : Extension) : Op := fun w =>
  match a.gardenletFeatureGates OpenTelemetryCollector with
  | some true =>
      let clusterName := ex.«namespace»
      deferInc clusterName "reconcile" (fun w =>
        match getCluster env clusterName w with
        | (.error err, w) => (some (wrapf "failed to get cluster: " err ""), w)
        | (.ok cluster, w) =>
            if hibernationIsEnabled cluster.shoot then (none, w) else
            match parseProviderConfig urlParse a.decoder ex.spec.providerConfig with
            | .error err => (some err, w)
            | .ok _ => bundle env ex.«namespace» w) w
  | _ => delete env ex w

/-- `Actuator.ForceDelete`. -/
def forceDelete (env : CallEnv) (ex : Extension) : Op :=
  deferInc ex.«namespace» "force_delete" (delete env ex)

/-- `Actuator.Restore`. -/
def restore (a : Actuator) (env : CallEnv) (ex : Extension) : Op :=
  deferInc ex.«namespace» "restore" (reconcile urlParse a env ex)

/-- `Actuator.Migrate`. -/
def migrate (a : Actuator) (env : CallEnv) (ex : Extension) : Op :=
  deferInc ex.«namespace» "migrate" (reconcile urlParse a env ex)

-- ── One spec lemma per operation ────────────────────────────────────────

@[simp] theorem deferInc_apply (cluster operation : String) (body : Op) (w : World) :
    deferInc cluster operation body w = ((body w).1, (body w).2.inc (cluster, operation)) := rfl

/-- Clearing an absent managed resource changes nothing. -/
theorem World.setManagedResource_none_of_absent {w : World} {key : String × String}
    (h : w.managedResources key = none) : w.setManagedResource key none = w := by
  cases w
  simp_all [World.setManagedResource, Function.update_eq_self_iff]

/-- `Delete` removes the entry, an absent one counting as removed, unless the
    seed refuses; either way it logs the request and counts a delete. -/
theorem delete_eq (env : CallEnv) (ex : Extension) (w : World) :
    delete env ex w =
      let w₁ := w.record (.deleteForSeed ex.«namespace» managedResourceName)
      match env.deleteForSeed with
      | some e => (some e.err, w₁.inc (ex.«namespace», "delete"))
      | none => (none, (w₁.setManagedResource (ex.«namespace», managedResourceName) none).inc
          (ex.«namespace», "delete")) := by
  rcases henv : env.deleteForSeed with _ | e
  · cases hm : w.managedResources (ex.«namespace», managedResourceName)
    · simp [delete, deleteForSeed, henv, hm, ignoreNotFound, managedResourceNotFound,
        GoError.isNotFound, World.setManagedResource_none_of_absent]
    · simp [delete, deleteForSeed, henv, hm]
  · simp [delete, deleteForSeed, henv, ignoreNotFound, e.not_notFound]

section Reconcile

variable {urlParse} {a : Actuator} {env : CallEnv} {ex : Extension}

/-- With the `OpenTelemetryCollector` gate missing or off, `Reconcile` is `Delete`. -/
theorem reconcile_of_gate_off (h : a.gardenletFeatureGates OpenTelemetryCollector ≠ some true) :
    reconcile urlParse a env ex = delete env ex := by
  funext w
  rcases hg : a.gardenletFeatureGates OpenTelemetryCollector with _ | _ | _
  · simp [reconcile, hg]
  · simp [reconcile, hg]
  · exact absurd hg h

variable (hg : a.gardenletFeatureGates OpenTelemetryCollector = some true)
include hg

theorem reconcile_of_cluster_error {err : GoError}
    (hc : env.getCluster ex.«namespace» = .error err) (w : World) :
    reconcile urlParse a env ex w =
      (some (wrapf "failed to get cluster: " err ""),
        (w.record (.getCluster ex.«namespace»)).inc (ex.«namespace», "reconcile")) := by
  simp [reconcile, hg, getCluster, hc]

theorem reconcile_of_hibernated {cluster : Cluster}
    (hc : env.getCluster ex.«namespace» = .ok cluster)
    (hh : hibernationIsEnabled cluster.shoot = true) (w : World) :
    reconcile urlParse a env ex w =
      (none, (w.record (.getCluster ex.«namespace»)).inc (ex.«namespace», "reconcile")) := by
  simp [reconcile, hg, getCluster, hc, hh]

variable {cluster : Cluster} (hc : env.getCluster ex.«namespace» = .ok cluster)
  (hh : hibernationIsEnabled cluster.shoot = false)
include hc hh

theorem reconcile_of_config_error {err : GoError}
    (hp : parseProviderConfig urlParse a.decoder ex.spec.providerConfig = .error err) (w : World) :
    reconcile urlParse a env ex w =
      (some err, (w.record (.getCluster ex.«namespace»)).inc (ex.«namespace», "reconcile")) := by
  simp [reconcile, hg, getCluster, hc, hh, hp]

/-- A config that parses and validates takes `Reconcile` to the bundling. -/
theorem reconcile_of_config_ok {cfg : CollectorConfig}
    (hp : parseProviderConfig urlParse a.decoder ex.spec.providerConfig = .ok cfg) (w : World) :
    reconcile urlParse a env ex w =
      let r := bundle env ex.«namespace» (w.record (.getCluster ex.«namespace»))
      (r.1, r.2.inc (ex.«namespace», "reconcile")) := by
  simp [reconcile, hg, getCluster, hc, hh, hp]

end Reconcile

theorem bundle_of_serialize_error {env : CallEnv} {ns : String} {err : GoError}
    (hs : env.addAllAndSerialize (targetAllocatorObjects ns) = .error err) (w : World) :
    bundle env ns w = (some err, w.record (.addAllAndSerialize (targetAllocatorObjects ns))) := by
  simp [bundle, addAllAndSerialize, hs]

theorem bundle_of_serialized {env : CallEnv} {ns : String} {data : SerializedData}
    (hs : env.addAllAndSerialize (targetAllocatorObjects ns) = .ok data) (w : World) :
    bundle env ns w =
      createForSeed env ns managedResourceName false data
        (w.record (.addAllAndSerialize (targetAllocatorObjects ns))) := by
  simp [bundle, addAllAndSerialize, hs]

-- ── Construction: New and its options ───────────────────────────────────

end Actuator

end OtelcolExtension
