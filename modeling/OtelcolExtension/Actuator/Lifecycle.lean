import OtelcolExtension.Actuator.Actuator

/-! # The reconciliation lifecycle over whole runs

    Runs of the five triggers, on extensions of any namespaces, under any
    feature gates, cluster states, payloads and answers of the seed.  A call
    is a `Request`; `runAll` performs a list of them in order.

    The lifecycle contract is level-triggered: what a call does to the seed
    is an `Effect` — keep, remove, or upsert — at the one key
    `(namespace, "external-otelcol")`, computed from the call's own inputs
    (`Request.effect`), never from the store it meets.  `run_managedResources`
    proves this for one step; `runAll_managedResources_eq` folds it over a
    run.  A teardown the seed does not refuse reports `nil`, a missing entry
    counting as removed; a converging call reports an error when the lookup
    fails or the config is refused, and `nil` on a hibernated shoot
    (`managedResource_lifecycle`).  From the fold: the entry of a namespace
    depends only on that namespace's calls, in order
    (`runAll_managedResources_filter`), in any interleaving with the calls of
    other namespaces (`runAll_interleaving`). -/

namespace OtelcolExtension.Actuator

open Config Validation ExtensionsV1alpha1

variable (urlParse : String → Option GoError)

/-- The five triggers of `extension.Actuator`. -/
inductive Operation where
  | reconcile
  | delete
  | forceDelete
  | restore
  | migrate
  deriving Repr, DecidableEq

/-- One call of the actuator: the trigger, the actuator, the collaborators'
    answers and the extension. -/
structure Request where
  operation : Operation
  actuator : Actuator
  env : CallEnv
  extension : Extension

/-- Perform a request. -/
def Request.run (r : Request) : Op :=
  match r.operation with
  | .reconcile => reconcile urlParse r.actuator r.env r.extension
  | .delete => delete r.env r.extension
  | .forceDelete => forceDelete r.env r.extension
  | .restore => restore urlParse r.actuator r.env r.extension
  | .migrate => migrate urlParse r.actuator r.env r.extension

/-- Perform requests in order. -/
def runAll : List Request → World → World
  | [], w => w
  | r :: rs, w => runAll rs (r.run urlParse w).2

/-- The managed resource a request is about. -/
def Request.key (r : Request) : String × String :=
  (r.extension.«namespace», managedResourceName)

-- ── The contract: one effect per call ───────────────────────────────────

/-- What a call does to its managed resource. -/
inductive Effect where
  | keep
  | remove
  | upsert (mr : ManagedResource)
  deriving Repr, DecidableEq

/-- The store after an effect at `key`. -/
def Effect.apply (key : String × String) : Effect → ManagedResources → ManagedResources
  | .keep, m => m
  | .remove, m => Function.update m key none
  | .upsert mr, m => Function.update m key (some mr)

/-- An effect changes nothing but its own key. -/
theorem Effect.apply_of_ne (e : Effect) {key key' : String × String} (h : key' ≠ key)
    (m : ManagedResources) : e.apply key m key' = m key' := by
  cases e <;> simp [Effect.apply, Function.update_noteq h]

/-- An effect reads the store only at the key it is read at. -/
theorem Effect.apply_congr_at (e : Effect) (k : String × String) {m m' : ManagedResources}
    {key : String × String} (h : m key = m' key) : e.apply k m key = e.apply k m' key := by
  by_cases hk : key = k
  · subst hk; cases e <;> simp [Effect.apply, h]
  · rw [e.apply_of_ne hk, e.apply_of_ne hk, h]

/-- A removal, unless the seed refuses it. -/
def removal (env : CallEnv) : Effect :=
  match env.deleteForSeed with
  | some _ => .keep
  | none => .remove

/-- The provider config is present, decodes, and passes validation. -/
def configAccepted (d : Decoder) : Option RawExtension → Bool
  | none => false
  | some pc =>
      match d pc.raw with
      | .ok cfg => (validate urlParse cfg).isNone
      | .error _ => false

/-- The effect of a converging trigger: a removal without the feature gate;
    nothing when the cluster lookup fails, the shoot is hibernated, the config
    is not accepted, or the bundle fails to serialize or be stored; else the
    upsert of the serialized bundle. -/
def convergeEffect (a : Actuator) (env : CallEnv) (ex : Extension) : Effect :=
  if a.gardenletFeatureGates OpenTelemetryCollector = some true then
    match env.getCluster ex.«namespace» with
    | .error _ => .keep
    | .ok cluster =>
        if hibernationIsEnabled cluster.shoot then .keep
        else if !configAccepted urlParse a.decoder ex.spec.providerConfig then .keep
        else
          match env.addAllAndSerialize (targetAllocatorObjects ex.«namespace») with
          | .error _ => .keep
          | .ok data =>
              match env.createForSeed with
              | some _ => .keep
              | none => .upsert ⟨false, data⟩
  else removal env

/-- What a request does to its managed resource, from its own inputs alone. -/
def Request.effect (r : Request) : Effect :=
  match r.operation with
  | .delete | .forceDelete => removal r.env
  | .reconcile | .restore | .migrate => convergeEffect urlParse r.actuator r.env r.extension

-- ── One step ────────────────────────────────────────────────────────────

theorem configAccepted_eq (d : Decoder) (pc : Option RawExtension) :
    configAccepted urlParse d pc =
      match parseProviderConfig urlParse d pc with
      | .ok _ => true
      | .error _ => false := by
  rcases pc with _ | pc
  · rfl
  · simp only [configAccepted, parseProviderConfig, decodeInto]
    rcases d pc.raw with _ | cfg
    · rfl
    · cases hv : validate urlParse cfg <;> simp [hv]

/-- The counter label of a delete or reconcile, as the gate decides. -/
def convergeLabel (a : Actuator) : String :=
  if a.gardenletFeatureGates OpenTelemetryCollector = some true then "reconcile" else "delete"

/-- `Delete` reports exactly the seed's refusal: `nil` when the entry is
    removed and when it was missing, the `NotFound` being ignored. -/
theorem delete_result (env : CallEnv) (ex : Extension) (w : World) :
    (delete env ex w).1 = env.deleteForSeed.map SeedError.err := by
  rw [delete_eq]
  cases env.deleteForSeed <;> rfl

/-- **DELETE, FIXED IN ADVANCE**: `Delete` returns a result fixed before it
    meets the world and removes its entry unless refused. -/
theorem delete_outcome (env : CallEnv) (ex : Extension) :
    ∃ res, ∀ w : World, (delete env ex w).1 = res ∧
      (delete env ex w).2.managedResources =
        (removal env).apply (ex.«namespace», managedResourceName) w.managedResources := by
  refine ⟨_, fun w => ⟨delete_result env ex w, ?_⟩⟩
  cases h : env.deleteForSeed <;> simp [delete_eq, h, removal, Effect.apply]

/-- **RECONCILE, FIXED IN ADVANCE**: `Reconcile` returns a result fixed before
    it meets the world and changes its entry by `convergeEffect`. -/
theorem reconcile_outcome (a : Actuator) (env : CallEnv) (ex : Extension) :
    ∃ res, ∀ w : World, (reconcile urlParse a env ex w).1 = res ∧
      (reconcile urlParse a env ex w).2.managedResources =
        (convergeEffect urlParse a env ex).apply (ex.«namespace», managedResourceName)
          w.managedResources := by
  unfold convergeEffect
  by_cases hg : a.gardenletFeatureGates OpenTelemetryCollector = some true
  · simp only [if_pos hg]
    rcases hc : env.getCluster ex.«namespace» with err | cluster
    · exact ⟨some (wrapf "failed to get cluster: " err ""), fun w => by
        simp [reconcile_of_cluster_error hg hc, Effect.apply]⟩
    cases hh : hibernationIsEnabled cluster.shoot
    · rw [configAccepted_eq]
      rcases hp : parseProviderConfig urlParse a.decoder ex.spec.providerConfig with err | cfg
      · exact ⟨some err, fun w => by simp [reconcile_of_config_error hg hc hh hp, hh, Effect.apply]⟩
      rcases hs : env.addAllAndSerialize (targetAllocatorObjects ex.«namespace») with err | data
      · exact ⟨some err, fun w => by
          simp [reconcile_of_config_ok hg hc hh hp, bundle_of_serialize_error hs, hh, Effect.apply]⟩
      · exact ⟨env.createForSeed, fun w => by
          cases hcr : env.createForSeed <;>
            simp [reconcile_of_config_ok hg hc hh hp, bundle_of_serialized hs, createForSeed, hcr, hh,
              Effect.apply]⟩
    · exact ⟨none, fun w => by simp [reconcile_of_hibernated hg hc hh, hh, Effect.apply]⟩
  · simp only [if_neg hg, reconcile_of_gate_off hg]
    exact delete_outcome env ex

/-- **ONE STEP**: a request changes the store by its effect, at its key. -/
theorem run_outcome (r : Request) :
    ∃ res, ∀ w : World, (r.run urlParse w).1 = res ∧
      (r.run urlParse w).2.managedResources = (r.effect urlParse).apply r.key w.managedResources := by
  rcases r with ⟨op, a, env, ex⟩
  obtain ⟨rd, hd⟩ := delete_outcome env ex
  obtain ⟨rr, hr⟩ := reconcile_outcome urlParse a env ex
  cases op
  case delete | forceDelete =>
    exact ⟨rd, fun w => by simp [Request.run, Request.effect, Request.key, forceDelete, hd w]⟩
  case reconcile | restore | migrate =>
    exact ⟨rr, fun w => by simp [Request.run, Request.effect, Request.key, restore, migrate, hr w]⟩

theorem run_managedResources (r : Request) (w : World) :
    (r.run urlParse w).2.managedResources = (r.effect urlParse).apply r.key w.managedResources := by
  obtain ⟨_, h⟩ := run_outcome urlParse r
  exact (h w).2

-- ── Whole runs ──────────────────────────────────────────────────────────

/-- **WHOLE RUNS**: a run changes the store by its calls' effects, in order. -/
theorem runAll_managedResources_eq (rs : List Request) (w : World) :
    (runAll urlParse rs w).managedResources =
      rs.foldl (fun m r => (r.effect urlParse).apply r.key m) w.managedResources := by
  induction rs generalizing w with
  | nil => rfl
  | cons r rs ih => simp [runAll, ih, run_managedResources]

/-- The triggers that converge, rather than remove. -/
def Operation.converges : Operation → Bool
  | .reconcile | .restore | .migrate => true
  | .delete | .forceDelete => false

/-- A converging trigger under the `OpenTelemetryCollector` gate. -/
def Request.converging (r : Request) : Bool :=
  r.operation.converges && r.actuator.gardenletFeatureGates OpenTelemetryCollector == some true

/-- A converging trigger returns what `Reconcile` returns. -/
theorem run_result_of_converges {r : Request} (h : r.operation.converges = true) (w : World) :
    (r.run urlParse w).1 = (reconcile urlParse r.actuator r.env r.extension w).1 := by
  rcases r with ⟨op, a, env, ex⟩
  cases op <;> simp [Operation.converges, Request.run, restore, migrate] at h ⊢

/-- **THE LIFECYCLE CONTRACT**: over any run, each call changes the store only
    at its own entry `(namespace, "external-otelcol")`, by an effect fixed by
    the call's own inputs (`Request.effect`: removal for the deleting
    triggers and without the feature gate, no change on the lookup, hibernation,
    configuration and seed failure paths, else the upsert of the bundle).  A
    teardown the seed does not refuse reports `nil`, whether it removed the
    entry or found none, the `NotFound` being ignored; a converging call
    under the gate reports an error when the cluster lookup fails or the
    config is not accepted, and `nil` on a hibernated shoot. -/
theorem managedResource_lifecycle (rs : List Request) (w : World) :
    (runAll urlParse rs w).managedResources =
      rs.foldl (fun m r => (r.effect urlParse).apply r.key m) w.managedResources ∧
    (∀ (r : Request) (w' : World) (key : String × String), key ≠ r.key →
      (r.run urlParse w').2.managedResources key = w'.managedResources key) ∧
    (∀ (r : Request) (w' : World), r.converging = false → r.env.deleteForSeed = none →
      (r.run urlParse w').1 = none) ∧
    (∀ (r : Request) (w' : World) (err : GoError), r.operation.converges = true →
      r.actuator.gardenletFeatureGates OpenTelemetryCollector = some true →
      r.env.getCluster r.extension.«namespace» = .error err → (r.run urlParse w').1.isSome) ∧
    (∀ (r : Request) (w' : World) (cluster : Cluster), r.operation.converges = true →
      r.actuator.gardenletFeatureGates OpenTelemetryCollector = some true →
      r.env.getCluster r.extension.«namespace» = .ok cluster →
      hibernationIsEnabled cluster.shoot = true → (r.run urlParse w').1 = none) ∧
    (∀ (r : Request) (w' : World) (cluster : Cluster), r.operation.converges = true →
      r.actuator.gardenletFeatureGates OpenTelemetryCollector = some true →
      r.env.getCluster r.extension.«namespace» = .ok cluster →
      hibernationIsEnabled cluster.shoot = false →
      configAccepted urlParse r.actuator.decoder r.extension.spec.providerConfig = false →
      (r.run urlParse w').1.isSome) := by
  refine ⟨runAll_managedResources_eq urlParse rs w, ?_, ?_, ?_, ?_, ?_⟩
  · intro r w' key hkey
    rw [run_managedResources, Effect.apply_of_ne _ hkey]
  · rintro ⟨op, a, env, ex⟩ w' hconv (hseed : env.deleteForSeed = none)
    cases op
    case delete | forceDelete => simp [Request.run, forceDelete, delete_result, hseed]
    case reconcile | restore | migrate =>
      have hg : a.gardenletFeatureGates OpenTelemetryCollector ≠ some true := by
        simpa [Request.converging, Operation.converges] using hconv
      simp [Request.run, restore, migrate, reconcile_of_gate_off hg, delete_result, hseed]
  · intro r w' err hop hg hc
    simp [run_result_of_converges urlParse hop, reconcile_of_cluster_error hg hc]
  · intro r w' cluster hop hg hc hh
    simp [run_result_of_converges urlParse hop, reconcile_of_hibernated hg hc hh]
  · intro r w' cluster hop hg hc hh hacc
    rw [run_result_of_converges urlParse hop]
    rcases hp : parseProviderConfig urlParse r.actuator.decoder r.extension.spec.providerConfig
      with err | cfg
    · simp [reconcile_of_config_error hg hc hh hp]
    · rw [configAccepted_eq, hp] at hacc
      cases hacc

/-- A reconcile without the gate finds no entry and reports `nil`; one under
    the gate whose config is missing reports an error. -/
theorem lifecycle_teardown_and_refused_config :
    (Request.run (fun _ => none)
        ⟨.reconcile, ⟨fun _ => .ok {}, fun _ => none⟩,
          ⟨fun _ => .ok {}, fun _ => .ok [], none, none⟩, ⟨"shoot--a", {}⟩⟩
        ⟨fun _ => none, fun _ => 0, []⟩).1 = none ∧
    (Request.run (fun _ => none)
        ⟨.reconcile, ⟨fun _ => .ok {}, fun _ => some true⟩,
          ⟨fun _ => .ok {}, fun _ => .ok [], none, none⟩, ⟨"shoot--a", {}⟩⟩
        ⟨fun _ => none, fun _ => 0, []⟩).1.isSome := by
  have h := managedResource_lifecycle (fun _ => none) [] ⟨fun _ => none, fun _ => 0, []⟩
  exact ⟨h.2.2.1 _ _ rfl rfl, h.2.2.2.2.2 _ _ {} rfl rfl rfl rfl rfl⟩

-- ── Isolation, repetition, counting ─────────────────────────────────────

/-- The folded effects at `key` see only the calls about `key`, and only the
    store's entry at `key`. -/
theorem foldl_effects_filter (rs : List Request) (key : String × String) :
    ∀ m m' : ManagedResources, m key = m' key →
      rs.foldl (fun m r => (r.effect urlParse).apply r.key m) m key =
        (rs.filter (fun r => r.key == key)).foldl
          (fun m r => (r.effect urlParse).apply r.key m) m' key := by
  induction rs with
  | nil => intro m m' h; exact h
  | cons r rs ih =>
      intro m m' h
      by_cases hk : r.key = key
      · simp only [List.foldl_cons, List.filter_cons, hk, beq_self_eq_true, if_true]
        exact ih _ _ (Effect.apply_congr_at _ _ h)
      · simp only [List.foldl_cons, List.filter_cons, beq_iff_eq, hk, if_false]
        exact ih _ _ (by rw [Effect.apply_of_ne _ (Ne.symm hk), h])

/-- **ISOLATION**: after any run, the entry at a key is what the calls about
    that key alone, in their order, make of it. -/
theorem runAll_managedResources_filter (rs : List Request) (w : World) (key : String × String) :
    (runAll urlParse rs w).managedResources key =
      (runAll urlParse (rs.filter (fun r => r.key == key)) w).managedResources key := by
  rw [runAll_managedResources_eq, runAll_managedResources_eq]
  exact foldl_effects_filter urlParse rs key _ _ rfl

/-- **ANY INTERLEAVING**: two runs that give every namespace the same calls in
    the same order leave the same store. -/
theorem runAll_interleaving (rs₁ rs₂ : List Request) (w : World)
    (h : ∀ ns, rs₁.filter (fun r => r.extension.«namespace» == ns) =
      rs₂.filter (fun r => r.extension.«namespace» == ns)) :
    (runAll urlParse rs₁ w).managedResources = (runAll urlParse rs₂ w).managedResources := by
  have hkey : ∀ (rs : List Request) (key : String × String),
      rs.filter (fun r => r.key == key) =
        (rs.filter (fun r => r.extension.«namespace» == key.1)).filter
          (fun _ => managedResourceName == key.2) := by
    intro rs key
    rw [List.filter_filter]
    congr 1
    funext r
    rw [Bool.and_comm]
    rfl
  funext key
  rw [runAll_managedResources_eq, runAll_managedResources_eq,
    foldl_effects_filter urlParse rs₁ key _ _ rfl, foldl_effects_filter urlParse rs₂ key _ _ rfl,
    hkey, hkey, h]

/-- Two calls on different namespaces, swapped, leave the same store. -/
theorem runAll_swap_namespaces :
    let r₁ : Request := ⟨.reconcile, ⟨fun _ => .ok {}, fun _ => some true⟩,
      ⟨fun _ => .ok {}, fun _ => .ok [], none, none⟩, ⟨"shoot--a", {}⟩⟩
    let r₂ : Request := ⟨.delete, ⟨fun _ => .ok {}, fun _ => none⟩,
      ⟨fun _ => .ok {}, fun _ => .ok [], none, none⟩, ⟨"shoot--b", {}⟩⟩
    (runAll (fun _ => none) [r₁, r₂] ⟨fun _ => none, fun _ => 0, []⟩).managedResources =
      (runAll (fun _ => none) [r₂, r₁] ⟨fun _ => none, fun _ => 0, []⟩).managedResources := by
  intro r₁ r₂
  refine runAll_interleaving (fun _ => none) [r₁, r₂] [r₂, r₁] _ fun ns => ?_
  by_cases ha : "shoot--a" = ns
  · subst ha; simp [r₁, r₂]
  · by_cases hb : "shoot--b" = ns
    · subst hb; simp [r₁, r₂, ha]
    · simp [r₁, r₂, ha, hb]

/-- The counter label of each trigger. -/
def Operation.label : Operation → String
  | .reconcile => "reconcile"
  | .delete => "delete"
  | .forceDelete => "force_delete"
  | .restore => "restore"
  | .migrate => "migrate"

end OtelcolExtension.Actuator
