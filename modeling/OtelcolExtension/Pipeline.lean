import OtelcolExtension.Actuator.Lifecycle
import OtelcolExtension.Admission.Validator

/-! # The two-stage validation pipeline

    The admission gate and the actuator decode and validate the same provider
    config with the same `Validate`.  Given one decoder for both, the gate
    accepts an enabled extension's payload exactly when `Reconcile` — with the
    feature gate on, the cluster found and the shoot awake — gets past its
    decode and validation steps and calls `AddAllAndSerialize`: no payload the
    gate admits is later refused by the actuator as a configuration error, and
    none the actuator would apply is refused at admission
    (`admission_agrees_with_reconcile`). -/

namespace OtelcolExtension.Pipeline

open Config Validation Actuator Validator ExtensionsV1alpha1

variable (urlParse : String → Option GoError)

/-- An enabled extension is admitted exactly when its provider config parses
    and validates as `Reconcile` parses it. -/
theorem extensionAdmitted_iff_parse {d : Decoder} {e : Core.Extension}
    (henabled : e.disabled ≠ some true) :
    ExtensionAdmitted urlParse d e ↔ ∃ cfg, parseProviderConfig urlParse d e.providerConfig = .ok cfg := by
  unfold ExtensionAdmitted
  rcases e.providerConfig with _ | pc
  · simp [henabled, parseProviderConfig]
  rcases hdec : d pc.raw with err | cfg
  · simp [henabled, parseProviderConfig, decodeInto, hdec]
  · cases hval : validate urlParse cfg <;> simp [henabled, parseProviderConfig, decodeInto, hdec, hval]

/-- Bundling starts with the call to `AddAllAndSerialize`. -/
theorem bundle_calls (env : CallEnv) (ns : String) (w : World) :
    ∃ rest, (bundle env ns w).2.calls =
      w.calls ++ SeedCall.addAllAndSerialize (targetAllocatorObjects ns) :: rest := by
  rcases hs : env.addAllAndSerialize (targetAllocatorObjects ns) with err | data
  · exact ⟨[], by simp [bundle_of_serialize_error hs]⟩
  · refine ⟨[.createForSeed ns managedResourceName], ?_⟩
    cases hcr : env.createForSeed <;> simp [bundle_of_serialized hs, createForSeed, hcr]

/-- **ONE VERDICT FOR BOTH STAGES**: for an enabled first `otelcol` extension
    and an extension resource carrying the same provider config, the gate
    built from decoder `d` accepts exactly when `Reconcile` with decoder `d`
    (gate on, cluster found, shoot awake) reaches `AddAllAndSerialize`; when
    the gate refuses, `Reconcile` returns an error and leaves the store as it
    was. -/
theorem admission_agrees_with_reconcile (d : Decoder) (v : ShootValidator) (s : Core.Shoot)
    (e : Core.Extension) (a : Actuator) (env : CallEnv) (ex : Extension) (cluster : Cluster)
    (hv : newShootValidator (some d) = .ok v)
    (hfirst : s.spec.extensions.find? (fun ext => ext.type == Actuator.ExtensionType) = some e)
    (henabled : e.disabled ≠ some true)
    (hdecoder : a.decoder = d)
    (hpc : ex.spec.providerConfig = e.providerConfig)
    (hgate : a.gardenletFeatureGates OpenTelemetryCollector = some true)
    (hcluster : env.getCluster ex.«namespace» = .ok cluster)
    (hawake : hibernationIsEnabled cluster.shoot = false) (old : Option Core.Shoot) (w : World) :
    (v.validateExtension urlParse (some s) old = none ↔
      SeedCall.addAllAndSerialize (targetAllocatorObjects ex.«namespace») ∈
        (reconcile urlParse a env ex w).2.calls.drop w.calls.length) ∧
    (v.validateExtension urlParse (some s) old ≠ none →
      (reconcile urlParse a env ex w).1.isSome ∧
        (reconcile urlParse a env ex w).2.managedResources = w.managedResources) := by
  cases hv
  have hadm : (⟨d, Actuator.ExtensionType⟩ : ShootValidator).validateExtension urlParse (some s) old
      = none ↔ ∃ cfg, parseProviderConfig urlParse a.decoder ex.spec.providerConfig = .ok cfg := by
    rw [ShootValidator.validateExtension_eq_none_iff, hdecoder, hpc,
      ← extensionAdmitted_iff_parse urlParse henabled]
    simp [hfirst]
  simp only [ne_eq, hadm]
  rcases hp : parseProviderConfig urlParse a.decoder ex.spec.providerConfig with err | cfg
  · simp [reconcile_of_config_error hgate hcluster hawake hp]
  · obtain ⟨rest, hrest⟩ := bundle_calls env ex.«namespace» (w.record (.getCluster ex.«namespace»))
    simp [reconcile_of_config_ok hgate hcluster hawake hp, hrest]

/-- A debug-exporter payload: admitted, and `Reconcile` bundles it. -/
theorem admission_agrees_on_debug_exporter :
    (ShootValidator.validateExtension (fun _ => none)
        ⟨fun _ => .ok { spec := { exporters := { debugExporter := { enabled := some true } } } },
          ExtensionType⟩
        (some { spec := { extensions := [{ type := "otelcol", providerConfig := some ⟨[]⟩ }] } })
        none = none ↔
      SeedCall.addAllAndSerialize (targetAllocatorObjects "shoot--local--local") ∈
        (reconcile (fun _ => none)
          ⟨fun _ => .ok { spec := { exporters := { debugExporter := { enabled := some true } } } },
            fun _ => some true⟩
          ⟨fun _ => .ok {}, fun _ => .ok [], none, none⟩
          ⟨"shoot--local--local", ⟨some ⟨[]⟩⟩⟩ ⟨fun _ => none, fun _ => 0, []⟩).2.calls.drop 0) :=
  (admission_agrees_with_reconcile (fun _ => none) _ _
    { spec := { extensions := [{ type := "otelcol", providerConfig := some ⟨[]⟩ }] } }
    { type := "otelcol", providerConfig := some ⟨[]⟩ }
    ⟨fun _ => .ok { spec := { exporters := { debugExporter := { enabled := some true } } } },
      fun _ => some true⟩
    ⟨fun _ => .ok {}, fun _ => .ok [], none, none⟩ ⟨"shoot--local--local", ⟨some ⟨[]⟩⟩⟩ {}
    rfl rfl (by decide) rfl rfl rfl rfl rfl none ⟨fun _ => none, fun _ => 0, []⟩).1

end OtelcolExtension.Pipeline
