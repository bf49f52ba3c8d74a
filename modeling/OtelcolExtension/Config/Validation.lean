import OtelcolExtension.Config.Types

/-! # The config validation

    `validation.Validate`: one check that some exporter is enabled, then three
    table-driven loops (endpoint URLs, buffer sizes, resource references),
    each appending a field error per failing entry, and `ToAggregate` last.
    `url.Parse` is a parameter: `urlParse v` is the error it returns for `v`.

    Against it stands the contract, one `Check` per condition with the path
    its error belongs at.  The headline `validate_reports_each_violation`:
    `Validate` returns `nil` exactly when every check holds, and otherwise an
    aggregate holding one error per failing check, at that check's path, in
    the contract's order — `ToAggregate`'s de-duplication drops none, since
    the paths are distinct and begin every message. -/

namespace OtelcolExtension.Validation

open Config

variable (urlParse : String → Option GoError)

/-- `cmp.Or` over booleans: the first value that is not `false`, else `false`. -/
def cmpOr : List Bool → Bool
  | [] => false
  | b :: bs => if b != false then b else cmpOr bs

/-- `cmp.Or` over two flags is their disjunction. -/
@[simp] theorem cmpOr_pair (a b : Bool) : cmpOr [a, b] = (a || b) := by
  cases a <;> cases b <;> rfl

/-- An entry of the `urlFields` table. -/
structure URLField where
  path : String
  value : String

/-- An entry of the `nonNegativeFields` table. -/
structure NonNegativeField where
  path : String
  value : Int

/-- An entry of the `resourceRefs` table. -/
structure ResourceRefField where
  path : String
  ref : Option ResourceReference

/-- The `urlFields` table. -/
def urlFields (cfg : CollectorConfig) : List URLField :=
  let e := cfg.spec.exporters.otlpHTTPExporter
  [⟨"spec.exporters.otlphttp.endpoint", e.endpoint⟩,
   ⟨"spec.exporters.otlphttp.traces_endpoint", e.tracesEndpoint⟩,
   ⟨"spec.exporters.otlphttp.metrics_endpoint", e.metricsEndpoint⟩,
   ⟨"spec.exporters.otlphttp.logs_endpoint", e.logsEndpoint⟩,
   ⟨"spec.exporters.otlphttp.profiles_endpoint", e.profilesEndpoint⟩]

/-- The `nonNegativeFields` table. -/
def nonNegativeFields (cfg : CollectorConfig) : List NonNegativeField :=
  let e := cfg.spec.exporters.otlpHTTPExporter
  [⟨"spec.exporters.otlphttp.read_buffer_size", e.readBufferSize⟩,
   ⟨"spec.exporters.otlphttp.write_buffer_size", e.writeBufferSize⟩]

/-- The `resourceRefs` table. -/
def resourceRefs (cfg : CollectorConfig) : List ResourceRefField :=
  let e := cfg.spec.exporters.otlpHTTPExporter
  [⟨"spec.exporters.otlphttp.token", e.token⟩,
   ⟨"spec.exporters.otlphttp.tls.ca", e.tls.ca⟩,
   ⟨"spec.exporters.otlphttp.tls.cert", e.tls.cert⟩,
   ⟨"spec.exporters.otlphttp.tls.key", e.tls.key⟩]

/-- The body of the URL loop for one entry. -/
def urlFieldError (f : URLField) : Option FieldError :=
  if f.value != "" then
    match urlParse f.value with
    | some _ => some (invalid f.path (.string f.value) "invalid URL specified")
    | none => none
  else none

/-- The body of the buffer-size loop for one entry. -/
def nonNegativeFieldError (f : NonNegativeField) : Option FieldError :=
  if f.value < 0 then some (invalid f.path (.int f.value) "value cannot be negative")
  else none

/-- The body of the resource-reference loop for one entry; the bad value is
    the path itself. -/
def resourceRefError (f : ResourceRefField) : Option FieldError :=
  match f.ref with
  | some ref =>
      if ref.resourceRef.name == "" || ref.resourceRef.dataKey == "" then
        some (invalid f.path (.string f.path) "name or dataKey is empty")
      else none
  | none => none

/-- A `for _, f := range xs` loop that appends the entry's error, if any. -/
def appendEach {α : Type} (check : α → Option FieldError) (allErrs : List FieldError)
    (xs : List α) : List FieldError :=
  xs.foldl (fun allErrs f =>
    match check f with
    | some err => allErrs ++ [err]
    | none => allErrs) allErrs

/-- The `allErrs` list `Validate` builds before `ToAggregate`. -/
def allErrs (cfg : CollectorConfig) : List FieldError :=
  let anyExporterEnabled :=
    [cfg.spec.exporters.debugExporter.isEnabled, cfg.spec.exporters.otlpHTTPExporter.isEnabled]
  let allErrs :=
    if !cmpOr anyExporterEnabled then [required "spec.exporters" "no exporter enabled"] else []
  let allErrs := appendEach (urlFieldError urlParse) allErrs (urlFields cfg)
  let allErrs := appendEach nonNegativeFieldError allErrs (nonNegativeFields cfg)
  appendEach resourceRefError allErrs (resourceRefs cfg)

/-- `validation.Validate`; `none` is `nil`. -/
def validate (cfg : CollectorConfig) : Option GoError :=
  toAggregate (allErrs urlParse cfg)

/-- An appending loop adds the entries' errors, in order, after the list so far. -/
theorem appendEach_eq {α : Type} (check : α → Option FieldError) :
    ∀ (acc : List FieldError) (xs : List α), appendEach check acc xs = acc ++ xs.filterMap check := by
  intro acc xs
  induction xs generalizing acc with
  | nil => simp [appendEach]
  | cons x xs ih =>
      simp only [appendEach, List.foldl_cons] at ih ⊢
      rw [ih]
      cases hc : check x <;> simp [List.filterMap_cons, hc]

-- ── The contract ────────────────────────────────────────────────────────

/-- A condition of the validation contract, with the data it reads. -/
inductive Check where
  /-- Some exporter is enabled: the debug and the OTLP HTTP exporter's flags. -/
  | exportersEnabled (debug otlpHTTP : Bool)
  /-- An endpoint field is empty or accepted by `url.Parse`. -/
  | url (path value : String)
  /-- A buffer size is not negative. -/
  | nonNegative (path : String) (value : Int)
  /-- A present resource reference names both a resource and a data key. -/
  | resourceRef (path : String) (ref : Option ResourceReference)

/-- The field path an error of the check belongs at. -/
def Check.path : Check → String
  | .exportersEnabled _ _ => "spec.exporters"
  | .url path _ => path
  | .nonNegative path _ => path
  | .resourceRef path _ => path

/-- Whether the check holds. -/
def Check.holds : Check → Bool
  | .exportersEnabled debug otlpHTTP => debug || otlpHTTP
  | .url _ value => value == "" || (urlParse value).isNone
  | .nonNegative _ value => decide (0 ≤ value)
  | .resourceRef _ ref =>
      match ref with
      | none => true
      | some r => r.resourceRef.name != "" && r.resourceRef.dataKey != ""

/-- The path of a failing check, nothing for one that holds. -/
def Check.report (c : Check) : Option String :=
  if c.holds urlParse then none else some c.path

/-- The checks of a config: the exporters, the five endpoints, the two buffer
    sizes and the four resource references. -/
def Check.all (cfg : CollectorConfig) : List Check :=
  let e := cfg.spec.exporters.otlpHTTPExporter
  [.exportersEnabled cfg.spec.exporters.debugExporter.isEnabled e.isEnabled,
   .url "spec.exporters.otlphttp.endpoint" e.endpoint,
   .url "spec.exporters.otlphttp.traces_endpoint" e.tracesEndpoint,
   .url "spec.exporters.otlphttp.metrics_endpoint" e.metricsEndpoint,
   .url "spec.exporters.otlphttp.logs_endpoint" e.logsEndpoint,
   .url "spec.exporters.otlphttp.profiles_endpoint" e.profilesEndpoint,
   .nonNegative "spec.exporters.otlphttp.read_buffer_size" e.readBufferSize,
   .nonNegative "spec.exporters.otlphttp.write_buffer_size" e.writeBufferSize,
   .resourceRef "spec.exporters.otlphttp.token" e.token,
   .resourceRef "spec.exporters.otlphttp.tls.ca" e.tls.ca,
   .resourceRef "spec.exporters.otlphttp.tls.cert" e.tls.cert,
   .resourceRef "spec.exporters.otlphttp.tls.key" e.tls.key]

/-- The contract's checks are the code's tables, entry for entry. -/
theorem Check.all_eq (cfg : CollectorConfig) :
    Check.all cfg =
      [.exportersEnabled cfg.spec.exporters.debugExporter.isEnabled
          cfg.spec.exporters.otlpHTTPExporter.isEnabled] ++
      (urlFields cfg).map (fun f => .url f.path f.value) ++
      (nonNegativeFields cfg).map (fun f => .nonNegative f.path f.value) ++
      (resourceRefs cfg).map (fun f => .resourceRef f.path f.ref) := rfl

/-- The paths of a config's checks do not depend on the config. -/
theorem Check.all_paths (cfg : CollectorConfig) :
    (Check.all cfg).map Check.path =
      ["spec.exporters", "spec.exporters.otlphttp.endpoint",
       "spec.exporters.otlphttp.traces_endpoint", "spec.exporters.otlphttp.metrics_endpoint",
       "spec.exporters.otlphttp.logs_endpoint", "spec.exporters.otlphttp.profiles_endpoint",
       "spec.exporters.otlphttp.read_buffer_size", "spec.exporters.otlphttp.write_buffer_size",
       "spec.exporters.otlphttp.token", "spec.exporters.otlphttp.tls.ca",
       "spec.exporters.otlphttp.tls.cert", "spec.exporters.otlphttp.tls.key"] := rfl

theorem Check.all_paths_nodup (cfg : CollectorConfig) : ((Check.all cfg).map Check.path).Nodup := by
  rw [Check.all_paths]; decide

theorem Check.all_paths_colon_free (cfg : CollectorConfig) :
    ∀ p ∈ (Check.all cfg).map Check.path, ':' ∉ p.data := by
  rw [Check.all_paths]; decide

-- ── Each failing check, one error at its path ───────────────────────────

theorem urlFieldError_field (f : URLField) :
    (urlFieldError urlParse f).map FieldError.field = (Check.url f.path f.value).report urlParse := by
  unfold urlFieldError Check.report Check.holds
  by_cases hv : f.value = ""
  · simp [hv]
  · cases h : urlParse f.value <;> simp [hv, h, invalid, Check.path]

theorem nonNegativeFieldError_field (f : NonNegativeField) :
    (nonNegativeFieldError f).map FieldError.field =
      (Check.nonNegative f.path f.value).report urlParse := by
  unfold nonNegativeFieldError Check.report Check.holds
  by_cases hv : f.value < 0
  · simp [hv, invalid, Check.path]
  · simp [hv, show 0 ≤ f.value by omega]

theorem resourceRefError_field (f : ResourceRefField) :
    (resourceRefError f).map FieldError.field = (Check.resourceRef f.path f.ref).report urlParse := by
  unfold resourceRefError Check.report Check.holds
  rcases f.ref with _ | ⟨⟨name, dataKey⟩⟩
  · simp
  · by_cases hn : name = "" <;> by_cases hk : dataKey = "" <;> simp [hn, hk, invalid, Check.path]

/-- A loop whose entry check reports what a contract check reports yields the
    contract's failing paths for those entries. -/
theorem filterMap_field {α : Type} (g : α → Option FieldError) (toCheck : α → Check)
    (h : ∀ x, (g x).map FieldError.field = (toCheck x).report urlParse) (xs : List α) :
    (xs.filterMap g).map FieldError.field = (xs.map toCheck).filterMap (Check.report urlParse) := by
  simp only [List.map_filterMap, List.filterMap_map, Function.comp_def, h]

theorem exportersError_field (a b : Bool) :
    (if !cmpOr [a, b] then [required "spec.exporters" "no exporter enabled"] else []).map
        FieldError.field = [Check.exportersEnabled a b].filterMap (Check.report urlParse) := by
  cases a <;> cases b <;> rfl

theorem filterMap_report (cs : List Check) :
    cs.filterMap (Check.report urlParse) = (cs.filter (fun c => !c.holds urlParse)).map Check.path := by
  induction cs with
  | nil => rfl
  | cons c cs ih => by_cases h : c.holds urlParse <;> simp [Check.report, List.filter_cons, h, ih]

/-- The field paths of `allErrs` are those of the failing checks, in order. -/
theorem allErrs_fields (cfg : CollectorConfig) :
    (allErrs urlParse cfg).map FieldError.field =
      ((Check.all cfg).filter (fun c => !c.holds urlParse)).map Check.path := by
  rw [← filterMap_report, Check.all_eq]
  simp only [allErrs, appendEach_eq, List.map_append, List.filterMap_append,
    exportersError_field urlParse,
    filterMap_field urlParse _ _ (urlFieldError_field urlParse),
    filterMap_field urlParse _ _ (nonNegativeFieldError_field urlParse),
    filterMap_field urlParse _ _ (resourceRefError_field urlParse)]

/-- No two errors of `allErrs` have the same message. -/
theorem allErrs_messages_nodup (cfg : CollectorConfig) :
    ((allErrs urlParse cfg).map FieldError.error).Nodup := by
  have hsub : ((allErrs urlParse cfg).map FieldError.field).Sublist ((Check.all cfg).map Check.path) := by
    rw [allErrs_fields]; exact (List.filter_sublist _).map _
  apply errors_nodup_of_fields_nodup
  · intro v hv
    exact Check.all_paths_colon_free cfg _ (hsub.subset (List.mem_map_of_mem _ hv))
  · exact (Check.all_paths_nodup cfg).sublist hsub

/-- **VALIDATION REPORTS EVERY VIOLATION**: `Validate` accepts exactly when
    every check holds; otherwise its aggregate holds one error per failing
    check, at that check's own (distinct) path, in order. -/
theorem validate_reports_each_violation (cfg : CollectorConfig) :
    (validate urlParse cfg = none ↔ ∀ c ∈ Check.all cfg, c.holds urlParse = true) ∧
    (∀ err, validate urlParse cfg = some err →
      ∃ errs, err = .aggregate errs ∧
        errs.map FieldError.field =
          ((Check.all cfg).filter (fun c => !c.holds urlParse)).map Check.path) ∧
    ((Check.all cfg).map Check.path).Nodup := by
  have hval : validate urlParse cfg = newAggregate (allErrs urlParse cfg) :=
    toAggregate_of_nodup (allErrs_messages_nodup urlParse cfg)
  refine ⟨?_, ?_, Check.all_paths_nodup cfg⟩
  · rw [hval, newAggregate_eq_none_iff, ← List.map_eq_nil_iff (f := FieldError.field),
      allErrs_fields, List.map_eq_nil_iff, List.filter_eq_nil_iff]
    simp
  · intro err h
    rw [hval, newAggregate] at h
    split at h
    · cases h
    · exact ⟨_, (Option.some.inj h).symm, allErrs_fields urlParse cfg⟩

/-- The zero config fails the exporters check alone. -/
theorem validate_zero_config_reports_exporters :
    ∃ errs, GoError.aggregate [required "spec.exporters" "no exporter enabled"] = .aggregate errs ∧
      errs.map FieldError.field =
        ((Check.all {}).filter (fun c => !c.holds (fun _ => none))).map Check.path :=
  (validate_reports_each_violation (fun _ => none) {}).2.1 _ rfl

example : validate urlParse {} = some (.aggregate [required "spec.exporters" "no exporter enabled"]) := by
  rfl

end OtelcolExtension.Validation
