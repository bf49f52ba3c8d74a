import OtelcolExtension.Go.Errors

/-! # The collector configuration

    `config.CollectorConfig` with the fields `validation.Validate` reads, each
    with its Go zero value as default.  The `types.go` of this snapshot
    predates the debug exporter, the `Enabled` flags and the resource
    references that `validation.go` reads; their shape follows the API
    reference of `otelcol.extensions.gardener.cloud/v1alpha1`.

    A `runtime.Decoder`, as `runtime.DecodeInto` uses it on a zero config, is
    a function from the raw bytes to the decoded config or the decode error:
    the admission gate and the actuator each hold one. -/

namespace OtelcolExtension.Config

/-- `ResourceReferenceDetails`: a resource of the shoot and a key of its data. -/
structure ResourceReferenceDetails where
  name : String := ""
  dataKey : String := ""
  deriving Repr, DecidableEq

/-- `ResourceReference`: data of a Secret, by reference. -/
structure ResourceReference where
  resourceRef : ResourceReferenceDetails := {}
  deriving Repr, DecidableEq

/-- `TLSConfig`: the CA, client certificate and client key references. -/
structure TLSConfig where
  ca : Option ResourceReference := none
  cert : Option ResourceReference := none
  key : Option ResourceReference := none
  deriving Repr, DecidableEq

/-- `OTLPHTTPExporterConfig`. -/
structure OTLPHTTPExporterConfig where
  enabled : Option Bool := none
  endpoint : String := ""
  tracesEndpoint : String := ""
  metricsEndpoint : String := ""
  logsEndpoint : String := ""
  profilesEndpoint : String := ""
  tls : TLSConfig := {}
  token : Option ResourceReference := none
  readBufferSize : Int := 0
  writeBufferSize : Int := 0
  deriving Repr, DecidableEq

/-- `DebugExporterConfig`. -/
structure DebugExporterConfig where
  enabled : Option Bool := none
  deriving Repr, DecidableEq

/-- `CollectorExportersConfig`. -/
structure CollectorExportersConfig where
  otlpHTTPExporter : OTLPHTTPExporterConfig := {}
  debugExporter : DebugExporterConfig := {}
  deriving Repr, DecidableEq

/-- `CollectorConfigSpec`. -/
structure CollectorConfigSpec where
  exporters : CollectorExportersConfig := {}
  deriving Repr, DecidableEq

/-- `CollectorConfig`. -/
structure CollectorConfig where
  spec : CollectorConfigSpec := {}
  deriving Repr, DecidableEq

/-- Modelled from the spec: the `IsEnabled` methods of the exporter configs
    are not in this snapshot.  An `Enabled *bool` flag reads as enabled only
    when set to `true`: a config with no exporter set is rejected with
    "no exporter enabled". -/
def flagIsEnabled (enabled : Option Bool) : Bool :=
  enabled == some true

/-- `DebugExporterConfig.IsEnabled`. -/
def DebugExporterConfig.isEnabled (e : DebugExporterConfig) : Bool :=
  flagIsEnabled e.enabled

/-- `OTLPHTTPExporterConfig.IsEnabled`. -/
def OTLPHTTPExporterConfig.isEnabled (e : OTLPHTTPExporterConfig) : Bool :=
  flagIsEnabled e.enabled

/-- `runtime.RawExtension`; only its `Raw` bytes are read. -/
structure RawExtension where
  raw : List UInt8
  deriving Repr, DecidableEq

/-- A `runtime.Decoder` decoding into a zero `CollectorConfig`. -/
abbrev Decoder := List UInt8 → Except GoError CollectorConfig

/-- `runtime.DecodeInto(decoder, raw, &cfg)` with a fresh `cfg`. -/
def decodeInto (d : Decoder) (raw : List UInt8) : Except GoError CollectorConfig :=
  d raw

end OtelcolExtension.Config
