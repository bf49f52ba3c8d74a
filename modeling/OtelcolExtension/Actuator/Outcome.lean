import OtelcolExtension.Actuator.Lifecycle
import Mathlib.Data.List.Perm.Basic

/-! # What a call does, apart from the world it meets

    Each trigger of the actuator is a world-free `Outcome` — the error it
    reports, its `Effect` on its managed resource, and the calls it makes to
    its collaborators — applied to the world, with its counters raised
    (`Request.run_eq`).  `removalOutcome`, `bundleOutcome` and
    `convergeOutcome` follow `Delete`, the bundling block and `Reconcile`
    branch by branch; `delete_eq_after`, `bundle_eq_after` and
    `reconcile_eq_after` prove that the code performs them.

    From the outcomes alone:

    * FAILURE IS ATOMIC — a call that returns an error leaves the store as it
      was, and dropping it from any run changes no entry;
    * SUCCESS CONVERGES — a call that returns `nil` leaves its entry absent
      after a teardown, or holding exactly the serialized bundle after a
      converging pass on an awake shoot;
    * THE SEED PROTOCOL — every collaborator call of every run is one that the
      request making it is allowed: `CreateForSeed` only with an accepted
      config, `DeleteForSeed` only on teardown, all of its own cluster;
    * COUNTERS ARE ORDER-FREE — any reordering of a run leaves the same
      operation counters;
    * COUNTERS COUNT INTENTS — each counter of a cluster grows by exactly the
      calls meant to raise it: a converging call without the gate counts as a
      `delete`, never as a `reconcile`. -/

namespace OtelcolExtension.Actuator

open Config Validation ExtensionsV1alpha1

variable (urlParse : String → Option GoError)

-- ── The abstract level: outcomes ────────────────────────────────────────

/-- What a call reports, does to its managed resource, and asks of its
    collaborators, in order. -/
structure Outcome where
  result : Option GoError
  effect : Effect
  calls : List SeedCall

/-- `Delete`: one `DeleteForSeed`, a removal unless the seed refuses it. -/
def removalOutcome (env : CallEnv) (ns : String) : Outcome :=
  match env.deleteForSeed with
  | some e => ⟨some e.err, .keep, [.deleteForSeed ns managedResourceName]⟩
  | none => ⟨none, .remove, [.deleteForSeed ns managedResourceName]⟩

/-- The bundling block: serialize the bundle, then upsert it, stopping at the
    first failure. -/
def bundleOutcome (env : CallEnv) (ns : String) : Outcome :=
  match env.addAllAndSerialize (targetAllocatorObjects ns) with
  | .error err => ⟨some err, .keep, [.addAllAndSerialize (targetAllocatorObjects ns)]⟩
  | .ok data =>
      let calls := [.addAllAndSerialize (targetAllocatorObjects ns),
        .createForSeed ns managedResourceName]
      match env.createForSeed with
      | some err => ⟨some err, .keep, calls⟩
      | none => ⟨none, .upsert ⟨false, data⟩, calls⟩

/-- `Reconcile`: the gate, the cluster lookup, the hibernation check, the
    parse-and-validate block, then the bundling. -/
def convergeOutcome (a : Actuator) (env : CallEnv) (ex : Extension) : Outcome :=
  if a.gardenletFeatureGates OpenTelemetryCollector = some true then
    let lookup : SeedCall := .getCluster ex.«namespace»
    match env.getCluster ex.«namespace» with
    | .error err => ⟨some (wrapf "failed to get cluster: " err ""), .keep, [lookup]⟩
    | .ok cluster =>
        if hibernationIsEnabled cluster.shoot then ⟨none, .keep, [lookup]⟩
        else
          match parseProviderConfig urlParse a.decoder ex.spec.providerConfig with
          | .error err => ⟨some err, .keep, [lookup]⟩
          | .ok _ =>
              let o := bundleOutcome env ex.«namespace»
              ⟨o.result, o.effect, lookup :: o.calls⟩
  else removalOutcome env ex.«namespace»

/-- A request's outcome. -/
def Request.outcome (r : Request) : Outcome :=
  match r.operation with
  | .delete | .forceDelete => removalOutcome r.env r.extension.«namespace»
  | .reconcile | .restore | .migrate => convergeOutcome urlParse r.actuator r.env r.extension

/-- The counters a request raises, one `defer` each. -/
def Request.counted (r : Request) : List (String × String) :=
  match r.operation with
  | .reconcile => [(r.extension.«namespace», convergeLabel r.actuator)]
  | .delete => [(r.extension.«namespace», "delete")]
  | .forceDelete => [(r.extension.«namespace», "delete"), (r.extension.«namespace», "force_delete")]
  | .restore => [(r.extension.«namespace», convergeLabel r.actuator), (r.extension.«namespace», "restore")]
  | .migrate => [(r.extension.«namespace», convergeLabel r.actuator), (r.extension.«namespace», "migrate")]

/-- The world after an outcome at `key`: the effect applied, the calls logged. -/
def World.after (w : World) (key : String × String) (o : Outcome) : World :=
  { w with managedResources := o.effect.apply key w.managedResources, calls := w.calls ++ o.calls }

/-- Raise each of the counters `keys`. -/
def World.incAll (w : World) (keys : List (String × String)) : World :=
  keys.foldl World.inc w

@[simp] theorem World.after_managedResources (w : World) key o :
    (w.after key o).managedResources = o.effect.apply key w.managedResources := rfl
@[simp] theorem World.after_actuatorOperationTotal (w : World) key o :
    (w.after key o).actuatorOperationTotal = w.actuatorOperationTotal := rfl
@[simp] theorem World.after_calls (w : World) key o : (w.after key o).calls = w.calls ++ o.calls := rfl

theorem World.incAll_fields (keys : List (String × String)) :
    ∀ w : World, (w.incAll keys).managedResources = w.managedResources ∧
      (w.incAll keys).calls = w.calls ∧
      ∀ k, (w.incAll keys).actuatorOperationTotal k = w.actuatorOperationTotal k + keys.count k := by
  induction keys with
  | nil => simp [World.incAll]
  | cons key keys ih =>
      intro w
      obtain ⟨hm, hc, ht⟩ := ih (w.inc key)
      refine ⟨hm, hc, fun k => ?_⟩
      rw [World.incAll, List.foldl_cons, ← World.incAll, ht, World.inc_actuatorOperationTotal,
        Function.update_apply, List.count_cons]
      by_cases hk : k = key
      · subst hk; simp; omega
      · simp [hk, Ne.symm hk]

@[simp] theorem World.incAll_managedResources (w : World) keys :
    (w.incAll keys).managedResources = w.managedResources := (World.incAll_fields keys w).1
@[simp] theorem World.incAll_calls (w : World) keys : (w.incAll keys).calls = w.calls :=
  (World.incAll_fields keys w).2.1

-- ── The code performs the outcomes ──────────────────────────────────────

theorem delete_eq_after (env : CallEnv) (ex : Extension) (w : World) :
    delete env ex w =
      ((removalOutcome env ex.«namespace»).result,
        (w.after (ex.«namespace», managedResourceName) (removalOutcome env ex.«namespace»)).inc
          (ex.«namespace», "delete")) := by
  rw [delete_eq]
  rcases h : env.deleteForSeed with _ | e <;> simp only [removalOutcome, h] <;> rfl

theorem bundle_eq_after (env : CallEnv) (ns : String) (w : World) :
    bundle env ns w = ((bundleOutcome env ns).result, w.after (ns, managedResourceName) (bundleOutcome env ns)) := by
  rcases hs : env.addAllAndSerialize (targetAllocatorObjects ns) with err | data
  · rw [bundle_of_serialize_error hs]
    simp [bundleOutcome, hs, World.after, World.record, Effect.apply]
  · rw [bundle_of_serialized hs]
    cases hcr : env.createForSeed <;>
      simp [bundleOutcome, hs, hcr, createForSeed, World.after, World.record,
        World.setManagedResource, Effect.apply]

/-- **RECONCILE IS ITS OUTCOME**: whatever the world, `Reconcile` reports
    `convergeOutcome`'s result, applies its effect, logs its calls, and
    raises one counter. -/
theorem reconcile_eq_after (a : Actuator) (env : CallEnv) (ex : Extension) (w : World) :
    reconcile urlParse a env ex w =
      ((convergeOutcome urlParse a env ex).result,
        (w.after (ex.«namespace», managedResourceName) (convergeOutcome urlParse a env ex)).inc
          (ex.«namespace», convergeLabel a)) := by
  by_cases hg : a.gardenletFeatureGates OpenTelemetryCollector = some true
  case neg =>
    simp only [reconcile_of_gate_off hg, delete_eq_after, convergeOutcome, convergeLabel, if_neg hg]
  case pos =>
    have hl : convergeLabel a = "reconcile" := if_pos hg
    rcases hc : env.getCluster ex.«namespace» with err | cluster
    · simp [reconcile_of_cluster_error hg hc, convergeOutcome, hg, hc, hl, World.after,
        World.record, Effect.apply]
    cases hh : hibernationIsEnabled cluster.shoot
    case true =>
      simp [reconcile_of_hibernated hg hc hh, convergeOutcome, hg, hc, hh, hl, World.after,
        World.record, Effect.apply]
    case false =>
      rcases hp : parseProviderConfig urlParse a.decoder ex.spec.providerConfig with err | cfg
      · simp [reconcile_of_config_error hg hc hh hp, convergeOutcome, hg, hc, hh, hp, hl,
          World.after, World.record, Effect.apply]
      · simp [reconcile_of_config_ok hg hc hh hp, bundle_eq_after, convergeOutcome, hg, hc, hh, hp,
          hl, World.after, World.record]

/-- **EVERY CALL IS ITS OUTCOME**: a request reports its outcome's result,
    applies its effect at its key, logs its calls, and raises its counters. -/
theorem Request.run_eq (r : Request) (w : World) :
    r.run urlParse w =
      ((r.outcome urlParse).result, (w.after r.key (r.outcome urlParse)).incAll r.counted) := by
  rcases r with ⟨op, a, env, ex⟩
  cases op <;>
    simp [Request.run, Request.outcome, Request.counted, Request.key, World.incAll, forceDelete,
      restore, migrate, delete_eq_after, reconcile_eq_after]

@[simp] theorem Request.run_result (r : Request) (w : World) :
    (r.run urlParse w).1 = (r.outcome urlParse).result := by
  rw [Request.run_eq]

@[simp] theorem Request.run_managedResources_eq (r : Request) (w : World) :
    (r.run urlParse w).2.managedResources = (r.outcome urlParse).effect.apply r.key w.managedResources := by
  rw [Request.run_eq]; simp

@[simp] theorem Request.run_calls (r : Request) (w : World) :
    (r.run urlParse w).2.calls = w.calls ++ (r.outcome urlParse).calls := by
  rw [Request.run_eq]; simp

theorem Request.run_actuatorOperationTotal (r : Request) (w : World) (k : String × String) :
    (r.run urlParse w).2.actuatorOperationTotal k = w.actuatorOperationTotal k + r.counted.count k := by
  rw [Request.run_eq, (World.incAll_fields _ _).2.2]; rfl

-- ── Whole runs ──────────────────────────────────────────────────────────

theorem runAll_append (rs₁ rs₂ : List Request) (w : World) :
    runAll urlParse (rs₁ ++ rs₂) w = runAll urlParse rs₂ (runAll urlParse rs₁ w) := by
  induction rs₁ generalizing w with
  | nil => rfl
  | cons r rs ih => exact ih _

/-- The store after a run depends on the store it starts from alone. -/
theorem runAll_managedResources_congr (rs : List Request) {w w' : World}
    (h : w.managedResources = w'.managedResources) :
    (runAll urlParse rs w).managedResources = (runAll urlParse rs w').managedResources := by
  rw [runAll_managedResources_eq, runAll_managedResources_eq, h]

-- ── Failure is atomic ───────────────────────────────────────────────────

/-- An outcome is atomic when a reported error comes with no change. -/
def Outcome.Atomic (o : Outcome) : Prop := o.result ≠ none → o.effect = .keep

theorem removalOutcome_atomic (env : CallEnv) (ns : String) : (removalOutcome env ns).Atomic := by
  unfold removalOutcome Outcome.Atomic
  split <;> simp

theorem bundleOutcome_atomic (env : CallEnv) (ns : String) : (bundleOutcome env ns).Atomic := by
  unfold bundleOutcome Outcome.Atomic
  split
  · simp
  · split <;> simp

theorem convergeOutcome_atomic (a : Actuator) (env : CallEnv) (ex : Extension) :
    (convergeOutcome urlParse a env ex).Atomic := by
  unfold convergeOutcome
  split_ifs
  · split
    · simp [Outcome.Atomic]
    · split_ifs
      · simp [Outcome.Atomic]
      · split
        · simp [Outcome.Atomic]
        · exact bundleOutcome_atomic env ex.«namespace»
  · exact removalOutcome_atomic env ex.«namespace»

theorem Request.outcome_atomic (r : Request) : (r.outcome urlParse).Atomic := by
  unfold Request.outcome
  split
  · exact removalOutcome_atomic _ _
  · exact removalOutcome_atomic _ _
  all_goals exact convergeOutcome_atomic urlParse _ _ _

/-- A call that reports an error leaves the store as it was. -/
theorem run_managedResources_of_error {r : Request} {w : World} (h : (r.run urlParse w).1 ≠ none) :
    (r.run urlParse w).2.managedResources = w.managedResources := by
  rw [Request.run_result] at h
  rw [Request.run_managedResources_eq, r.outcome_atomic urlParse h]
  rfl

/-- **A FAILED CALL IS INVISIBLE**: dropping from any run a call that reports
    an error — in any world, so in every world — leaves every entry of the
    store as the full run leaves it. -/
theorem runAll_without_failed_call (rs₁ rs₂ : List Request) (r : Request) (w w' : World)
    (h : (r.run urlParse w').1 ≠ none) :
    (runAll urlParse (rs₁ ++ r :: rs₂) w).managedResources =
      (runAll urlParse (rs₁ ++ rs₂) w).managedResources := by
  have hfail : (r.run urlParse (runAll urlParse rs₁ w)).1 ≠ none := by
    rwa [Request.run_result] at h ⊢
  rw [runAll_append, runAll_append, runAll]
  exact runAll_managedResources_congr urlParse rs₂ (run_managedResources_of_error urlParse hfail)

/-- A delete the seed refuses drops out from between two calls that remove. -/
theorem refused_delete_drops_out :
    (runAll (fun _ => none)
        ([⟨.reconcile, ⟨fun _ => .ok {}, fun _ => none⟩,
            ⟨fun _ => .ok {}, fun _ => .ok [], none, none⟩, ⟨"shoot--b", {}⟩⟩] ++
          ⟨.delete, ⟨fun _ => .ok {}, fun _ => none⟩,
            ⟨fun _ => .ok {}, fun _ => .ok [], none, some ⟨.errorString "forbidden", rfl⟩⟩,
            ⟨"shoot--a", {}⟩⟩ ::
          [⟨.delete, ⟨fun _ => .ok {}, fun _ => none⟩,
            ⟨fun _ => .ok {}, fun _ => .ok [], none, none⟩, ⟨"shoot--a", {}⟩⟩])
        ⟨fun _ => some ⟨false, []⟩, fun _ => 0, []⟩).managedResources =
      (runAll (fun _ => none)
        ([⟨.reconcile, ⟨fun _ => .ok {}, fun _ => none⟩,
            ⟨fun _ => .ok {}, fun _ => .ok [], none, none⟩, ⟨"shoot--b", {}⟩⟩] ++
          [⟨.delete, ⟨fun _ => .ok {}, fun _ => none⟩,
            ⟨fun _ => .ok {}, fun _ => .ok [], none, none⟩, ⟨"shoot--a", {}⟩⟩])
        ⟨fun _ => some ⟨false, []⟩, fun _ => 0, []⟩).managedResources :=
  runAll_without_failed_call (fun _ => none) _ _
    ⟨.delete, ⟨fun _ => .ok {}, fun _ => none⟩,
      ⟨fun _ => .ok {}, fun _ => .ok [], none, some ⟨.errorString "forbidden", rfl⟩⟩,
      ⟨"shoot--a", {}⟩⟩
    _ ⟨fun _ => none, fun _ => 0, []⟩ (by decide)

-- ── Success converges ───────────────────────────────────────────────────

theorem Request.outcome_of_converges {r : Request} (h : r.operation.converges = true) :
    r.outcome urlParse = convergeOutcome urlParse r.actuator r.env r.extension := by
  rcases r with ⟨op, a, env, ex⟩
  cases op <;> simp_all [Request.outcome, Operation.converges]

/-- A call that is not converging under the gate is a removal. -/
theorem Request.outcome_of_not_converging {r : Request} (h : r.converging = false) :
    r.outcome urlParse = removalOutcome r.env r.extension.«namespace» := by
  rcases r with ⟨op, a, env, ex⟩
  cases op <;> simp_all [Request.outcome, Request.converging, Operation.converges, convergeOutcome]


theorem removalOutcome_success {env : CallEnv} {ns : String}
    (h : (removalOutcome env ns).result = none) : (removalOutcome env ns).effect = .remove := by
  unfold removalOutcome at *
  split at h <;> simp_all

/-- A converging pass under the gate that reports `nil` skipped a hibernated
    shoot, or accepted the config and upserted the serialized bundle. -/
theorem convergeOutcome_success {a : Actuator} {env : CallEnv} {ex : Extension}
    (hg : a.gardenletFeatureGates OpenTelemetryCollector = some true)
    (h : (convergeOutcome urlParse a env ex).result = none) :
    (∃ cluster, env.getCluster ex.«namespace» = .ok cluster ∧
        hibernationIsEnabled cluster.shoot = true ∧ (convergeOutcome urlParse a env ex).effect = .keep) ∨
    ∃ data, configAccepted urlParse a.decoder ex.spec.providerConfig = true ∧
      env.addAllAndSerialize (targetAllocatorObjects ex.«namespace») = .ok data ∧
      (convergeOutcome urlParse a env ex).effect = .upsert ⟨false, data⟩ := by
  rcases hc : env.getCluster ex.«namespace» with err | cluster
  · simp [convergeOutcome, hg, hc] at h
  cases hh : hibernationIsEnabled cluster.shoot
  case true => exact .inl ⟨cluster, rfl, hh, by simp [convergeOutcome, hg, hc, hh]⟩
  case false =>
    rcases hp : parseProviderConfig urlParse a.decoder ex.spec.providerConfig with err | cfg
    · simp [convergeOutcome, hg, hc, hh, hp] at h
    have hacc : configAccepted urlParse a.decoder ex.spec.providerConfig = true := by
      rw [configAccepted_eq, hp]
    rcases hs : env.addAllAndSerialize (targetAllocatorObjects ex.«namespace») with err | data
    · simp [convergeOutcome, bundleOutcome, hg, hc, hh, hp, hs] at h
    cases hcr : env.createForSeed
    · exact .inr ⟨data, hacc, rfl, by simp [convergeOutcome, bundleOutcome, hg, hc, hh, hp, hs, hcr]⟩
    · simp [convergeOutcome, bundleOutcome, hg, hc, hh, hp, hs, hcr] at h

/-- **SUCCESS MEANS CONVERGED**: a call that returns `nil` leaves its entry
    absent after a teardown (a deleting trigger, or any trigger without the
    feature gate); after a converging trigger under the gate it either met a
    hibernated shoot and changed nothing, or accepted the config and left its
    entry holding exactly the serialized bundle, with `keepObjects` off. -/
theorem run_success_converges (r : Request) (w : World) (h : (r.run urlParse w).1 = none) :
    ((r.operation.converges = false ∨
        r.actuator.gardenletFeatureGates OpenTelemetryCollector ≠ some true) →
      (r.run urlParse w).2.managedResources r.key = none) ∧
    (r.operation.converges = true →
      r.actuator.gardenletFeatureGates OpenTelemetryCollector = some true →
      (∃ cluster, r.env.getCluster r.extension.«namespace» = .ok cluster ∧
          hibernationIsEnabled cluster.shoot = true ∧
          (r.run urlParse w).2.managedResources = w.managedResources) ∨
      ∃ data, configAccepted urlParse r.actuator.decoder r.extension.spec.providerConfig = true ∧
        r.env.addAllAndSerialize (targetAllocatorObjects r.extension.«namespace») = .ok data ∧
        (r.run urlParse w).2.managedResources r.key = some ⟨false, data⟩) := by
  rw [Request.run_result] at h
  refine ⟨fun hteardown => ?_, fun hop hg => ?_⟩
  · have ho := r.outcome_of_not_converging urlParse (by
      rcases hteardown with h' | h' <;> simp [Request.converging, h'])
    rw [ho] at h
    simp [ho, removalOutcome_success h, Effect.apply, Request.key]
  · have ho := r.outcome_of_converges urlParse hop
    rw [ho] at h
    simp only [Request.run_managedResources_eq, ho]
    rcases convergeOutcome_success urlParse hg h with ⟨cluster, hc, hh, he⟩ | ⟨data, hacc, hs, he⟩
    · exact .inl ⟨cluster, hc, hh, by rw [he]; rfl⟩
    · exact .inr ⟨data, hacc, hs, by rw [he]; simp [Effect.apply, Request.key]⟩

/-- A first reconcile under the gate, on an awake shoot, succeeds and stores
    the serialized bundle. -/
theorem first_reconcile_stores_bundle :
    let r : Request := ⟨.reconcile,
      ⟨fun _ => .ok { spec := { exporters := { debugExporter := { enabled := some true } } } },
        fun _ => some true⟩,
      ⟨fun _ => .ok {}, fun _ => .ok [("bundle", [1])], none, none⟩, ⟨"shoot--a", ⟨some ⟨[]⟩⟩⟩⟩
    let w : World := ⟨fun _ => none, fun _ => 0, []⟩
    (r.run (fun _ => none) w).1 = none ∧
      ((∃ cluster, r.env.getCluster r.extension.«namespace» = .ok cluster ∧
          hibernationIsEnabled cluster.shoot = true ∧
          (r.run (fun _ => none) w).2.managedResources = w.managedResources) ∨
        ∃ data, configAccepted (fun _ => none) r.actuator.decoder r.extension.spec.providerConfig = true ∧
          r.env.addAllAndSerialize (targetAllocatorObjects r.extension.«namespace») = .ok data ∧
          (r.run (fun _ => none) w).2.managedResources r.key = some ⟨false, data⟩) := by
  intro r w
  exact ⟨rfl, (run_success_converges (fun _ => none) r w rfl).2 rfl rfl⟩

-- ── The seed protocol ───────────────────────────────────────────────────

/-- The collaborator calls the protocol allows a request: a converging call
    under the gate looks up its own cluster and, only with an accepted
    config, serializes its own cluster's bundle and upserts its own managed
    resource; any other call only deletes its own managed resource. -/
def Request.allows (r : Request) : SeedCall → Bool
  | .getCluster name => r.converging && name == r.extension.«namespace»
  | .addAllAndSerialize objects =>
      r.converging && configAccepted urlParse r.actuator.decoder r.extension.spec.providerConfig &&
        objects == targetAllocatorObjects r.extension.«namespace»
  | .createForSeed ns name =>
      r.converging && configAccepted urlParse r.actuator.decoder r.extension.spec.providerConfig &&
        ns == r.extension.«namespace» && name == managedResourceName
  | .deleteForSeed ns name =>
      !r.converging && ns == r.extension.«namespace» && name == managedResourceName

theorem removalOutcome_calls (env : CallEnv) (ns : String) :
    (removalOutcome env ns).calls = [.deleteForSeed ns managedResourceName] := by
  unfold removalOutcome; split <;> rfl

theorem bundleOutcome_calls_subset (env : CallEnv) (ns : String) :
    (bundleOutcome env ns).calls ⊆
      [.addAllAndSerialize (targetAllocatorObjects ns), .createForSeed ns managedResourceName] := by
  unfold bundleOutcome
  split
  · simp
  · split <;> exact fun _ h => h

/-- Under the gate, a converging pass looks up its cluster and reaches the
    bundling calls only with an accepted config. -/
theorem convergeOutcome_calls {a : Actuator} {env : CallEnv} {ex : Extension}
    (hg : a.gardenletFeatureGates OpenTelemetryCollector = some true) :
    ∀ c ∈ (convergeOutcome urlParse a env ex).calls, c = .getCluster ex.«namespace» ∨
      (configAccepted urlParse a.decoder ex.spec.providerConfig = true ∧
        c ∈ [.addAllAndSerialize (targetAllocatorObjects ex.«namespace»),
          .createForSeed ex.«namespace» managedResourceName]) := by
  intro c hc
  rcases hcl : env.getCluster ex.«namespace» with err | cluster
  · simp only [convergeOutcome, if_pos hg, hcl, List.mem_singleton] at hc
    exact .inl hc
  by_cases hh : hibernationIsEnabled cluster.shoot = true
  · simp only [convergeOutcome, if_pos hg, hcl, if_pos hh, List.mem_singleton] at hc
    exact .inl hc
  rcases hp : parseProviderConfig urlParse a.decoder ex.spec.providerConfig with err | cfg
  · simp only [convergeOutcome, if_pos hg, hcl, if_neg hh, hp, List.mem_singleton] at hc
    exact .inl hc
  · simp only [convergeOutcome, if_pos hg, hcl, if_neg hh, hp, List.mem_cons] at hc
    rcases hc with rfl | hb
    · exact .inl rfl
    · exact .inr ⟨by rw [configAccepted_eq, hp], bundleOutcome_calls_subset env _ hb⟩

/-- Every call a request makes is one the protocol allows it. -/
theorem Request.outcome_calls_allowed (r : Request) :
    ∀ c ∈ (r.outcome urlParse).calls, r.allows urlParse c = true := by
  intro c hc
  cases hconv : r.converging
  case false =>
    rw [r.outcome_of_not_converging urlParse hconv, removalOutcome_calls, List.mem_singleton] at hc
    subst hc
    simp [Request.allows, hconv]
  case true =>
    have hop : r.operation.converges = true := by simp_all [Request.converging]
    have hg : r.actuator.gardenletFeatureGates OpenTelemetryCollector = some true := by
      simp_all [Request.converging]
    rw [r.outcome_of_converges urlParse hop] at hc
    rcases convergeOutcome_calls urlParse hg c hc with rfl | ⟨hacc, hb⟩
    · simp [Request.allows, hconv]
    · simp only [List.mem_cons, List.mem_singleton, List.not_mem_nil, or_false] at hb
      rcases hb with rfl | rfl <;> simp [Request.allows, hconv, hacc]

/-- **THE SEED PROTOCOL**: the calls any run makes to the actuator's
    collaborators split into one block per request, in order, and every call
    of a block is one its request is allowed: no `CreateForSeed` and no
    serialization for a config that fails to decode or validate or without
    the gate, no `DeleteForSeed` from a converging call under the gate, and
    nothing outside the request's own cluster. -/
theorem runAll_seed_protocol (rs : List Request) (w : World) :
    ∃ issued : List (List SeedCall),
      List.Forall₂ (fun r cs => ∀ c ∈ cs, r.allows urlParse c = true) rs issued ∧
      (runAll urlParse rs w).calls = w.calls ++ issued.flatten := by
  induction rs generalizing w with
  | nil => exact ⟨[], .nil, by simp [runAll]⟩
  | cons r rs ih =>
      obtain ⟨issued, hall, hcalls⟩ := ih (r.run urlParse w).2
      refine ⟨(r.outcome urlParse).calls :: issued, .cons (r.outcome_calls_allowed urlParse) hall, ?_⟩
      simp [runAll, hcalls]

-- ── Counters ────────────────────────────────────────────────────────────

theorem runAll_actuatorOperationTotal (rs : List Request) (w : World) (k : String × String) :
    (runAll urlParse rs w).actuatorOperationTotal k =
      w.actuatorOperationTotal k + (rs.flatMap Request.counted).count k := by
  induction rs generalizing w with
  | nil => simp [runAll]
  | cons r rs ih =>
      simp only [runAll, ih, Request.run_actuatorOperationTotal, List.flatMap_cons, List.count_append]
      omega

/-- **COUNTERS ARE ORDER-FREE**: runs of the same calls in any two orders
    leave the same operation counters. -/
theorem runAll_counters_order_free (rs₁ rs₂ : List Request) (w : World) (h : rs₁.Perm rs₂) :
    (runAll urlParse rs₁ w).actuatorOperationTotal = (runAll urlParse rs₂ w).actuatorOperationTotal := by
  funext k
  rw [runAll_actuatorOperationTotal, runAll_actuatorOperationTotal, List.count_eq_countP, List.count_eq_countP,
    (h.flatMap_right Request.counted).countP_eq]

/-- A reconcile and a delete of the same cluster count the same either way round. -/
theorem reconcile_delete_counted_either_way :
    (runAll (fun _ => none)
        [⟨.reconcile, ⟨fun _ => .ok {}, fun _ => some true⟩,
            ⟨fun _ => .ok {}, fun _ => .ok [], none, none⟩, ⟨"shoot--a", {}⟩⟩,
          ⟨.delete, ⟨fun _ => .ok {}, fun _ => some true⟩,
            ⟨fun _ => .ok {}, fun _ => .ok [], none, none⟩, ⟨"shoot--a", {}⟩⟩]
        ⟨fun _ => none, fun _ => 0, []⟩).actuatorOperationTotal =
      (runAll (fun _ => none)
        [⟨.delete, ⟨fun _ => .ok {}, fun _ => some true⟩,
            ⟨fun _ => .ok {}, fun _ => .ok [], none, none⟩, ⟨"shoot--a", {}⟩⟩,
          ⟨.reconcile, ⟨fun _ => .ok {}, fun _ => some true⟩,
            ⟨fun _ => .ok {}, fun _ => .ok [], none, none⟩, ⟨"shoot--a", {}⟩⟩]
        ⟨fun _ => none, fun _ => 0, []⟩).actuatorOperationTotal :=
  runAll_counters_order_free (fun _ => none) _ _ _ (List.Perm.swap _ _ [])

/-- A count over the counters of a run, when each call raises `k` once or
    not at all, is the number of calls that raise it. -/
theorem count_flatMap_counted {p : Request → Bool} {k : String × String}
    (h : ∀ r, r.counted.count k = if p r then 1 else 0) (rs : List Request) :
    (rs.flatMap Request.counted).count k = (rs.filter p).length := by
  induction rs with
  | nil => rfl
  | cons r rs ih =>
      rw [List.flatMap_cons, List.count_append, ih, h, List.filter_cons]
      cases p r <;> simp [Nat.add_comm]

/-- Each call raises its converging counter — `reconcile` under the gate,
    `delete` without it — and a trigger other than `Reconcile` and `Delete`
    its own counter besides. -/
theorem Request.counted_eq (r : Request) :
    r.counted = (r.extension.«namespace», if r.converging then "reconcile" else "delete") ::
      if r.operation.label ∈ ["reconcile", "delete"] then []
      else [(r.extension.«namespace», r.operation.label)] := by
  rcases r with ⟨op, a, env, ex⟩
  cases op <;> simp [Request.counted, Request.converging, convergeLabel, Operation.converges,
    Operation.label]

theorem Operation.label_injective : Function.Injective Operation.label := by
  intro o o' h
  cases o <;> cases o' <;> simp_all [Operation.label]

/-- **COUNTERS COUNT INTENTS**: over any run, a cluster's `reconcile` counter
    grows by its converging calls under the gate, its `delete` counter by its
    teardowns — `Delete`, `ForceDelete`, and converging calls without the
    gate — and its `force_delete`, `restore` and `migrate` counters by the
    calls of that trigger; no other counter of the cluster moves. -/
theorem runAll_counters_count_intents (rs : List Request) (w : World) (ns : String) :
    (runAll urlParse rs w).actuatorOperationTotal (ns, "reconcile") =
      w.actuatorOperationTotal (ns, "reconcile") +
        (rs.filter fun r => r.extension.«namespace» == ns && r.converging).length ∧
    (runAll urlParse rs w).actuatorOperationTotal (ns, "delete") =
      w.actuatorOperationTotal (ns, "delete") +
        (rs.filter fun r => r.extension.«namespace» == ns && !r.converging).length ∧
    (∀ op ∈ [Operation.forceDelete, .restore, .migrate],
      (runAll urlParse rs w).actuatorOperationTotal (ns, op.label) =
        w.actuatorOperationTotal (ns, op.label) +
          (rs.filter fun r => r.extension.«namespace» == ns && r.operation == op).length) ∧
    (∀ label, label ∉ ["reconcile", "delete", "force_delete", "restore", "migrate"] →
      (runAll urlParse rs w).actuatorOperationTotal (ns, label) =
        w.actuatorOperationTotal (ns, label)) := by
  simp only [runAll_actuatorOperationTotal, Nat.add_left_cancel_iff]
  refine ⟨count_flatMap_counted (fun r => ?_) rs, count_flatMap_counted (fun r => ?_) rs,
    fun op hop => count_flatMap_counted (fun r => ?_) rs, fun label hl => ?_⟩
  case refine_1 | refine_2 =>
    rw [Request.counted_eq]
    split_ifs <;> simp_all [List.count_cons]
  case refine_3 =>
    have hl : op.label ∉ ["reconcile", "delete"] := by
      simp only [List.mem_cons, List.mem_singleton, List.not_mem_nil, or_false] at hop
      rcases hop with rfl | rfl | rfl <;> simp [Operation.label]
    rw [Request.counted_eq]
    split_ifs <;> simp_all [List.count_cons, Operation.label_injective.eq_iff]
  case refine_4 =>
    suffices (rs.flatMap Request.counted).count (ns, label) = 0 by omega
    refine (count_flatMap_counted (p := fun _ => false) (fun r => ?_) rs).trans (by simp)
    rcases r with ⟨op, a, env, ex⟩
    rw [Request.counted_eq]
    cases op <;> split_ifs <;> simp_all [List.count_cons, Operation.label]

/-- A reconcile without the gate raises the cluster's `delete` counter and
    leaves its `reconcile` counter alone. -/
theorem gate_off_reconcile_counted_as_delete :
    (runAll (fun _ => none)
        [⟨.reconcile, ⟨fun _ => .ok {}, fun _ => none⟩,
          ⟨fun _ => .ok {}, fun _ => .ok [], none, none⟩, ⟨"shoot--a", {}⟩⟩]
        ⟨fun _ => none, fun _ => 0, []⟩).actuatorOperationTotal ("shoot--a", "reconcile") = 0 ∧
    (runAll (fun _ => none)
        [⟨.reconcile, ⟨fun _ => .ok {}, fun _ => none⟩,
          ⟨fun _ => .ok {}, fun _ => .ok [], none, none⟩, ⟨"shoot--a", {}⟩⟩]
        ⟨fun _ => none, fun _ => 0, []⟩).actuatorOperationTotal ("shoot--a", "delete") = 1 := by
  have h := runAll_counters_count_intents (fun _ => none)
    [⟨.reconcile, ⟨fun _ => .ok {}, fun _ => none⟩,
      ⟨fun _ => .ok {}, fun _ => .ok [], none, none⟩, ⟨"shoot--a", {}⟩⟩]
    ⟨fun _ => none, fun _ => 0, []⟩ "shoot--a"
  exact ⟨h.1.trans (by decide), h.2.1.trans (by decide)⟩

end OtelcolExtension.Actuator
