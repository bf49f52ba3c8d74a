import OtelcolExtension.Config.Validation
import OtelcolExtension.Actuator.Resources

/-! # The admission gate

    `shootValidator.Validate` of the validating webhook for shoots: a shoot
    being deleted passes; otherwise the first extension of type `otelcol` is
    looked up with `slices.IndexFunc`, and a missing one passes through
    `IgnoreExtensionNotFound`; a disabled one passes; an enabled one needs a
    provider config that decodes and validates.

    `validate_eq_none_iff_admits` matches the gate against `Admits`, the
    contract in its own words, over every shoot; `getExtension_error` says
    which lookup errors `IgnoreExtensionNotFound` recognises; and
    `validateExtension_message_names_violations` that a rejection for an
    invalid config is `Validate`'s aggregate, wrapped, whose text holds the
    message of every failing check. -/

namespace OtelcolExtension

open Config

namespace Core

/-- `core.Extension` of a shoot's spec. -/
structure Extension where
  type : String := ""
  providerConfig : Option RawExtension := none
  disabled : Option Bool := none
  deriving Repr, DecidableEq

/-- `core.ShootSpec`, its extensions. -/
structure ShootSpec where
  extensions : List Extension := []
  deriving Repr, DecidableEq

/-- `core.Shoot`: its deletion timestamp and spec. -/
structure Shoot where
  deletionTimestamp : Option Nat := none
  spec : ShootSpec := {}
  deriving Repr, DecidableEq

end Core

namespace Validator

open Core Validation

/-- A `client.Object` handed to the webhook: a `*core.Shoot`, or an object of
    another type, named as `%T` prints it. -/
inductive Object where
  | shoot (s : Shoot)
  | other (typeName : String)
  deriving Repr, DecidableEq

/-- `ErrExtensionNotFound`. -/
def ErrExtensionNotFound : GoError :=
  .sentinel "validator.ErrExtensionNotFound" "extension not found"

/-- `IgnoreExtensionNotFound`. -/
def ignoreExtensionNotFound (err : GoError) : Option GoError :=
  if err.is ErrExtensionNotFound then none else some err

/-- The `shootValidator` struct. -/
structure ShootValidator where
  decoder : Decoder
  extensionType : String

/-- `newShootValidator`; `none` is a nil decoder. -/
def newShootValidator (decoder : Option Decoder) : Except GoError ShootValidator :=
  match decoder with
  | none => .error (.errorString
      ("invalid decoder specified for shoot validator " ++ Actuator.ExtensionType))
  | some d => .ok ⟨d, Actuator.ExtensionType⟩

/-- `slices.IndexFunc`: the index of the first element satisfying `f`, or `-1`. -/
def indexFunc {α : Type} (s : List α) (f : α → Bool) : Int :=
  go s 0
where
  /-- The loop from index `i` on. -/
  go : List α → Nat → Int
    | [], _ => -1
    | x :: xs, i => if f x then i else go xs (i + 1)

/-- `shootValidator.getExtension`; `none` is a nil shoot. -/
def ShootValidator.getExtension (v : ShootValidator) (obj : Option Shoot) :
    Except GoError Extension :=
  match obj with
  | none => .error (.errorString "invalid shoot resource provided")
  | some obj =>
      let idx := indexFunc obj.spec.extensions (fun ext => ext.type == v.extensionType)
      if idx = -1 then .error (wrapf "" ErrExtensionNotFound (": " ++ v.extensionType))
      else .ok (obj.spec.extensions.getD idx.toNat {})

variable (urlParse : String → Option GoError)

/-- `shootValidator.validateExtension`; the old shoot is not read. -/
def ShootValidator.validateExtension (v : ShootValidator) (newObj _oldObj : Option Shoot) :
    Option GoError :=
  match v.getExtension newObj with
  | .error err => ignoreExtensionNotFound err
  | .ok ext =>
      if ext.disabled = some true then none
      else
        match ext.providerConfig with
        | none => some (.errorString ("no provider config specified for " ++ v.extensionType))
        | some pc =>
            match decodeInto v.decoder pc.raw with
            | .error err =>
                some (wrapf ("invalid provider spec configuration for " ++ v.extensionType ++ ": ")
                  err "")
            | .ok cfg =>
                match validate urlParse cfg with
                | some err =>
                    some (wrapf ("invalid extension configuration for " ++ v.extensionType ++ ": ")
                      err "")
                | none => none

/-- `shootValidator.Validate`. -/
def ShootValidator.validate (v : ShootValidator) (newObj oldObj : Object) : Option GoError :=
  match newObj with
  | .other typeName => some (.errorString ("invalid object type: " ++ typeName))
  | .shoot newShoot =>
      let oldShoot := match oldObj with
        | .shoot s => some s
        | .other _ => none
      if newShoot.deletionTimestamp.isSome then none
      else v.validateExtension urlParse (some newShoot) oldShoot

-- ── The lookup ──────────────────────────────────────────────────────────

section IndexFunc

variable {α : Type} {f : α → Bool}

theorem indexFunc.go_of_find_none :
    ∀ {xs : List α} (i : Nat), xs.find? f = none → indexFunc.go f xs i = -1 := by
  intro xs
  induction xs with
  | nil => intro _ _; rfl
  | cons x xs ih =>
      intro i h
      rw [List.find?_cons] at h
      cases hx : f x <;> simp_all [indexFunc.go]

theorem indexFunc.go_of_find_some {e d : α} :
    ∀ {xs : List α} (i : Nat), xs.find? f = some e →
      ∃ k : Nat, indexFunc.go f xs i = ((i + k : Nat) : Int) ∧ xs.getD k d = e := by
  intro xs
  induction xs with
  | nil => intro _ h; cases h
  | cons x xs ih =>
      intro i h
      rw [List.find?_cons] at h
      cases hx : f x
      · rw [hx] at h
        obtain ⟨k, hk, hget⟩ := ih (i + 1) h
        exact ⟨k + 1, by simp [indexFunc.go, hx, hk]; omega, by simpa using hget⟩
      · rw [hx] at h
        exact ⟨0, by simp [indexFunc.go, hx], by simpa using h⟩

end IndexFunc

/-- `getExtension` of a shoot returns its first extension of the validator's
    type, or the wrapped `ErrExtensionNotFound`. -/
theorem ShootValidator.getExtension_some (v : ShootValidator) (s : Shoot) :
    v.getExtension (some s) =
      match s.spec.extensions.find? (fun ext => ext.type == v.extensionType) with
      | some e => .ok e
      | none => .error (wrapf "" ErrExtensionNotFound (": " ++ v.extensionType)) := by
  rcases hf : s.spec.extensions.find? (fun ext => ext.type == v.extensionType) with _ | e
  · simp [getExtension, indexFunc, indexFunc.go_of_find_none 0 hf, hf]
  · obtain ⟨k, hk, hget⟩ := indexFunc.go_of_find_some (d := {}) 0 hf
    have hne : (k : Int) ≠ -1 := by omega
    simp only [getExtension, indexFunc, hk, Nat.zero_add, hne, if_false, Int.toNat_ofNat, hget, hf]

-- ── The gate against its contract ───────────────────────────────────────

/-- What the contract asks of the extension the gate found: disabled, or a
    provider config that decodes and validates. -/
def ExtensionAdmitted (d : Decoder) (e : Extension) : Prop :=
  e.disabled = some true ∨
    ∃ pc cfg, e.providerConfig = some pc ∧ d pc.raw = .ok cfg ∧ validate urlParse cfg = none

/-- When the contract admits a shoot: it is being deleted, it requests no
    `otelcol` extension, or the first one it requests is admitted. -/
def Admits (d : Decoder) (s : Shoot) : Prop :=
  s.deletionTimestamp ≠ none ∨
    (∀ e ∈ s.spec.extensions, e.type ≠ Actuator.ExtensionType) ∨
    ∃ e, s.spec.extensions.find? (fun ext => ext.type == Actuator.ExtensionType) = some e ∧
      ExtensionAdmitted urlParse d e

/-- `validateExtension` accepts a shoot exactly when it has no extension of the
    validator's type, or the first one is admitted. -/
theorem ShootValidator.validateExtension_eq_none_iff (v : ShootValidator) (s : Shoot)
    (old : Option Shoot) :
    v.validateExtension urlParse (some s) old = none ↔
      s.spec.extensions.find? (fun ext => ext.type == v.extensionType) = none ∨
      ∃ e, s.spec.extensions.find? (fun ext => ext.type == v.extensionType) = some e ∧
        ExtensionAdmitted urlParse v.decoder e := by
  unfold validateExtension ExtensionAdmitted
  rw [getExtension_some]
  rcases hf : s.spec.extensions.find? (fun ext => ext.type == v.extensionType) with _ | e
  · simp [hf, ignoreExtensionNotFound, wrapf, GoError.is, ErrExtensionNotFound]
  · by_cases hd : e.disabled = some true
    · simp [hf, hd]
    rcases hpc : e.providerConfig with _ | pc
    · simp [hf, hd, hpc]
    rcases hdec : v.decoder pc.raw with err | cfg
    · simp [hf, hd, hpc, decodeInto, hdec]
    · cases hval : Validation.validate urlParse cfg <;> simp [hf, hd, hpc, decodeInto, hdec, hval]

/-- The errors of the lookup: the wrapped `ErrExtensionNotFound` for a shoot,
    recognised and ignored; the nil-shoot error, passed through. -/
theorem ShootValidator.getExtension_error (v : ShootValidator) {obj : Option Shoot}
    {err : GoError} (h : v.getExtension obj = .error err) :
    err.is ErrExtensionNotFound = obj.isSome ∧
      ignoreExtensionNotFound err = if obj.isSome then none else some err := by
  rcases obj with _ | s
  · cases h
    simp [ignoreExtensionNotFound, GoError.is]
  · rw [getExtension_some] at h
    split at h
    · cases h
    · cases h
      simp [ignoreExtensionNotFound, wrapf, GoError.is, ErrExtensionNotFound]

/-- **THE ADMISSION CONTRACT**: the validator built from a decoder accepts a
    shoot exactly when the contract admits it, whatever the old object; and
    of the lookup's errors `IgnoreExtensionNotFound` ignores exactly the
    wrapped `ErrExtensionNotFound`, passing the other through. -/
theorem validate_eq_none_iff_admits (d : Decoder) :
    ∃ v, newShootValidator (some d) = .ok v ∧
      (∀ (s : Shoot) (old : Object), v.validate urlParse (.shoot s) old = none ↔ Admits urlParse d s) ∧
      ∀ (obj : Option Shoot) (err : GoError), v.getExtension obj = .error err →
        err.is ErrExtensionNotFound = obj.isSome ∧
          ignoreExtensionNotFound err = if obj.isSome then none else some err := by
  refine ⟨⟨d, Actuator.ExtensionType⟩, rfl, fun s old => ?_, fun _ _ h => ShootValidator.getExtension_error _ h⟩
  unfold ShootValidator.validate Admits
  by_cases hdel : s.deletionTimestamp = none
  · simp only [hdel, Option.isSome_none, Bool.false_eq_true, if_false, ne_eq, not_true_eq_false,
      false_or, ShootValidator.validateExtension_eq_none_iff, List.find?_eq_none, beq_iff_eq]
  · simp [hdel]

/-- A shoot whose `otelcol` extension is disabled is admitted, even with a
    payload the decoder refuses; the lookup's error for a shoot without the
    extension is recognised and ignored. -/
theorem disabled_garbage_admitted :
    (⟨fun _ => .error (.errorString "yaml: invalid"), "otelcol"⟩ : ShootValidator).validate
        (fun _ => none)
        (.shoot { spec := { extensions :=
          [{ type := "otelcol", providerConfig := some ⟨[0]⟩, disabled := some true }] } })
        (.other "Project") = none ∧
      (wrapf "" ErrExtensionNotFound ": otelcol").is ErrExtensionNotFound = true ∧
      ignoreExtensionNotFound (wrapf "" ErrExtensionNotFound ": otelcol") = none := by
  obtain ⟨v, hv, hadmits, hlookup⟩ :=
    validate_eq_none_iff_admits (fun _ => none) (fun _ => .error (.errorString "yaml: invalid"))
  cases hv
  exact ⟨(hadmits _ _).2 (.inr (.inr ⟨_, rfl, .inl rfl⟩)), hlookup (some {}) _ rfl⟩

-- ── Rejection messages ──────────────────────────────────────────────────

/-- The gate's error for an enabled extension whose payload decodes: the
    validation error, wrapped with the extension type. -/
theorem validateExtension_of_decoded {d : Decoder} {s : Shoot} {old : Option Shoot}
    {e : Extension} {pc : RawExtension} {cfg : CollectorConfig} {err : GoError}
    (hfirst : s.spec.extensions.find? (fun ext => ext.type == Actuator.ExtensionType) = some e)
    (hpc : e.providerConfig = some pc) (hdec : d pc.raw = .ok cfg)
    (h : (⟨d, Actuator.ExtensionType⟩ : ShootValidator).validateExtension urlParse (some s) old =
      some err) :
    err = wrapf ("invalid extension configuration for " ++ Actuator.ExtensionType ++ ": ")
      (.aggregate (allErrs urlParse cfg)) "" := by
  unfold ShootValidator.validateExtension at h
  rw [ShootValidator.getExtension_some, hfirst] at h
  by_cases hd : e.disabled = some true
  · simp [hd] at h
  have hval : validate urlParse cfg = newAggregate (allErrs urlParse cfg) :=
    toAggregate_of_nodup (allErrs_messages_nodup urlParse cfg)
  unfold newAggregate at hval
  split at hval
  · simp [hd, hpc, decodeInto, hdec, hval] at h
  · simp only [hd, hpc, decodeInto, hdec, hval, if_false, Option.some.injEq] at h
    exact h.symm

/-- **REJECTIONS NAME EVERY VIOLATION**: when the gate rejects a shoot whose
    first `otelcol` extension carries a payload that decodes, its error is
    `Validate`'s aggregate wrapped with the extension type; the aggregate
    holds one field error per failing check, in order, and the text of the
    error contains each of their messages whole. -/
theorem validateExtension_message_names_violations (d : Decoder) (s : Shoot) (old : Option Shoot)
    (e : Extension) (pc : RawExtension) (cfg : CollectorConfig) (err : GoError)
    (hfirst : s.spec.extensions.find? (fun ext => ext.type == Actuator.ExtensionType) = some e)
    (hpc : e.providerConfig = some pc) (hdec : d pc.raw = .ok cfg)
    (h : (⟨d, Actuator.ExtensionType⟩ : ShootValidator).validateExtension urlParse (some s) old =
      some err) :
    ∃ errs, err = wrapf ("invalid extension configuration for " ++ Actuator.ExtensionType ++ ": ")
        (.aggregate errs) "" ∧
      errs.map FieldError.field =
        ((Check.all cfg).filter (fun c => !c.holds urlParse)).map Check.path ∧
      ∀ c ∈ Check.all cfg, c.holds urlParse = false →
        ∃ v ∈ errs, v.field = c.path ∧ v.error.data <:+: err.error.data := by
  have herr := validateExtension_of_decoded urlParse hfirst hpc hdec h
  refine ⟨allErrs urlParse cfg, herr, allErrs_fields urlParse cfg, fun c hc hfail => ?_⟩
  have hpath : c.path ∈ (allErrs urlParse cfg).map FieldError.field := by
    rw [allErrs_fields]
    exact List.mem_map_of_mem _ (List.mem_filter.mpr ⟨hc, by simp [hfail]⟩)
  obtain ⟨v, hv, hfield⟩ := List.mem_map.mp hpath
  have hagg : v.error.data <:+: (aggregateError ((allErrs urlParse cfg).map FieldError.error)).data :=
    aggregateError_infix (allErrs_messages_nodup urlParse cfg) (List.mem_map_of_mem _ hv)
  refine ⟨v, hv, hfield, ?_⟩
  rw [herr]
  simp only [wrapf, GoError.error, String.data_append]
  exact hagg.trans (List.infix_append _ _ _)

/-- The zero config's rejection names the exporters field in a message of
    its own. -/
theorem zero_config_rejection_names_exporters :
    ∃ v : FieldError, v.field = "spec.exporters" ∧
      v.error.data <:+: (wrapf "invalid extension configuration for otelcol: "
        (.aggregate [required "spec.exporters" "no exporter enabled"]) "").error.data := by
  obtain ⟨errs, -, -, hnamed⟩ := validateExtension_message_names_violations (fun _ => none)
    (fun _ => .ok {}) { spec := { extensions := [{ type := "otelcol", providerConfig := some ⟨[]⟩ }] } }
    none { type := "otelcol", providerConfig := some ⟨[]⟩ } ⟨[]⟩ {} _ rfl rfl rfl rfl
  obtain ⟨v, -, hfield, hnamed⟩ := hnamed (.exportersEnabled false false) (List.mem_cons_self _ _) rfl
  exact ⟨v, hfield, hnamed⟩

end Validator

end OtelcolExtension
