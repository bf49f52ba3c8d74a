import Mathlib.Data.List.Nodup
import Mathlib.Data.List.Infix

/-! # Go and Kubernetes error values

    The error values the extension creates, wraps and inspects, as data:
    `errors.New` strings, package-level sentinels, `fmt.Errorf` wrappers with
    `%w`, the `field.Error`s of the config validation, the
    `utilerrors.Aggregate` that `ErrorList.ToAggregate` builds from them, and
    API status errors.  `errors.Is` and `apierrors.IsNotFound` walk the
    `Unwrap` chain as the Go library does.

    Three facts carry the validation's error reporting:

    * `keepFirst_of_nodup` — the de-duplication loop shared by `ToAggregate`
      and `aggregate.Error` drops nothing when no two messages are equal;
    * `messageField_error` — a field error's message starts with its field
      path, so errors at distinct colon-free paths have distinct messages;
    * `aggregateError_infix` — the aggregate's text contains each of its
      distinct messages. -/

namespace OtelcolExtension

/-- The `field.ErrorType`s the validation raises. -/
inductive ErrorType where
  | required
  | invalid
  deriving Repr, DecidableEq

/-- `ErrorType.String`. -/
def ErrorType.toString : ErrorType → String
  | .required => "Required value"
  | .invalid => "Invalid value"

/-- The value a field error reports as bad: the validation passes strings and
    Go `int`s. -/
inductive BadValue where
  | string (s : String)
  | int (i : Int)
  deriving Repr, DecidableEq

/-- `field.Error`: its type, the field path (`Path.String()`), the bad value
    and the detail text. -/
structure FieldError where
  type : ErrorType
  field : String
  badValue : BadValue
  detail : String
  deriving Repr, DecidableEq

/-- `field.Required(field.NewPath(path), detail)`. -/
def required (path detail : String) : FieldError :=
  ⟨.required, path, .string "", detail⟩

/-- `field.Invalid(field.NewPath(path), value, detail)`. -/
def invalid (path : String) (value : BadValue) (detail : String) : FieldError :=
  ⟨.invalid, path, value, detail⟩

/-- `(*field.Error).ErrorBody`: `%q` for a string, `%#v` for an `int`. -/
def FieldError.errorBody (v : FieldError) : String :=
  let s := match v.type, v.badValue with
    | .required, _ => v.type.toString
    | .invalid, .string t => v.type.toString ++ ": " ++ t.quote
    | .invalid, .int i => v.type.toString ++ ": " ++ toString i
  if v.detail.length ≠ 0 then s ++ ": " ++ v.detail else s

/-- `(*field.Error).Error`. -/
def FieldError.error (v : FieldError) : String :=
  v.field ++ ": " ++ v.errorBody

-- ── The de-duplication loop ─────────────────────────────────────────────

section KeepFirst

variable {α : Type} (msg : α → String)

/-- One turn of the loop in `ToAggregate` and `aggregate.Error`: skip `x` when
    its message is in the seen set, else keep it and insert the message. -/
def keepFirstStep (acc : List α × List String) (x : α) : List α × List String :=
  if acc.2.contains (msg x) then acc else (acc.1 ++ [x], acc.2 ++ [msg x])

/-- The elements the loop keeps: the first one of each message. -/
def keepFirst (l : List α) : List α :=
  (l.foldl (keepFirstStep msg) ([], [])).1

/-- Loop invariant: with pairwise distinct messages, none of them seen yet,
    every element is kept and its message recorded. -/
theorem foldl_keepFirstStep_of_nodup :
    ∀ (l : List α) (kept : List α) (seen : List String),
      (l.map msg).Nodup → (∀ x ∈ l, msg x ∉ seen) →
      l.foldl (keepFirstStep msg) (kept, seen) = (kept ++ l, seen ++ l.map msg) := by
  intro l
  induction l with
  | nil => intro kept seen _ _; simp
  | cons x l ih =>
      intro kept seen hnd hfresh
      rw [List.map_cons, List.nodup_cons] at hnd
      have hstep : keepFirstStep msg (kept, seen) x = (kept ++ [x], seen ++ [msg x]) := by
        simp [keepFirstStep, hfresh x (List.mem_cons_self x l)]
      rw [List.foldl_cons, hstep, ih _ _ hnd.2]
      · simp
      · intro y hy hmem
        rcases List.mem_append.mp hmem with h | h
        · exact hfresh y (List.mem_cons_of_mem x hy) h
        · exact hnd.1 (List.mem_singleton.mp h ▸ List.mem_map_of_mem msg hy)

/-- **NOTHING DROPPED**: the loop keeps every element when no two messages
    are equal. -/
theorem keepFirst_of_nodup {l : List α} (h : (l.map msg).Nodup) :
    keepFirst msg l = l := by
  simp [keepFirst, foldl_keepFirstStep_of_nodup msg l [] [] h (by simp)]

end KeepFirst

/-- `aggregate.Error`: the distinct messages in order, joined by `", "` and
    bracketed when there are several. -/
def aggregateError (msgs : List String) : String :=
  match msgs with
  | [] => ""
  | [m] => m
  | _ =>
      let seen := keepFirst id msgs
      if seen.length = 1 then ", ".intercalate seen
      else "[" ++ ", ".intercalate seen ++ "]"

-- ── An aggregate's text names each of its errors ────────────────────────

/-- The loop of `strings.Join` (`String.intercalate`) keeps what it has
    accumulated and appends every remaining element. -/
theorem intercalate_go_infix (sep : String) :
    ∀ (l : List String) (acc : String), acc.data <+: (String.intercalate.go acc sep l).data ∧
      ∀ m ∈ l, m.data <:+: (String.intercalate.go acc sep l).data := by
  intro l
  induction l with
  | nil => intro acc; simp [String.intercalate.go]
  | cons a as ih =>
      intro acc
      obtain ⟨hpre, hin⟩ := ih (acc ++ sep ++ a)
      refine ⟨List.IsPrefix.trans (by simp [String.data_append, List.append_assoc]) hpre, ?_⟩
      intro m hm
      rcases List.mem_cons.mp hm with rfl | hm
      · exact (List.IsSuffix.isInfix (by rw [String.data_append]; exact List.suffix_append _ _)).trans
          hpre.isInfix
      · exact hin m hm

theorem mem_intercalate_infix {sep : String} {l : List String} {m : String} (hm : m ∈ l) :
    m.data <:+: (sep.intercalate l).data := by
  cases l with
  | nil => cases hm
  | cons a as =>
      obtain ⟨hpre, hin⟩ := intercalate_go_infix sep as a
      rcases List.mem_cons.mp hm with rfl | hm
      · exact hpre.isInfix
      · exact hin m hm

/-- **THE AGGREGATE NAMES EACH ERROR**: with pairwise distinct messages, each
    of them is part of the text of `aggregate.Error`. -/
theorem aggregateError_infix {msgs : List String} (hnd : msgs.Nodup) {m : String}
    (hm : m ∈ msgs) : m.data <:+: (aggregateError msgs).data := by
  rcases msgs with _ | ⟨a, _ | ⟨b, rest⟩⟩
  · cases hm
  · rw [List.mem_singleton.mp hm]
    exact List.infix_refl _
  · have hseen : keepFirst id (a :: b :: rest) = a :: b :: rest :=
      keepFirst_of_nodup id (by simpa using hnd)
    have hin : m.data <:+: (", ".intercalate (a :: b :: rest)).data := mem_intercalate_infix hm
    simp only [aggregateError, hseen]
    split
    · exact hin
    · simp only [String.data_append]
      exact hin.trans (List.infix_append _ _ _)

/-- The reasons of `apierrors.StatusError`; only `NotFound` is inspected. -/
inductive StatusReason where
  | notFound
  | other (reason : String)
  deriving Repr, DecidableEq

/-- The Go `error` values of the model. -/
inductive GoError where
  /-- `errors.New(msg)` at a call site: a fresh value, equal to no sentinel. -/
  | errorString (msg : String)
  /-- A package-level `var name = errors.New(msg)`, identified by its name. -/
  | sentinel (name msg : String)
  /-- `fmt.Errorf` with a `%w` verb: the formatted text and the wrapped error. -/
  | wrapError (msg : String) (err : GoError)
  /-- The `utilerrors.Aggregate` of field errors. -/
  | aggregate (errs : List FieldError)
  /-- An `*apierrors.StatusError`. -/
  | statusError (reason : StatusReason) (msg : String)
  deriving Repr, DecidableEq

/-- `err.Error()`. -/
def GoError.error : GoError → String
  | .errorString msg => msg
  | .sentinel _ msg => msg
  | .wrapError msg _ => msg
  | .aggregate errs => aggregateError (errs.map FieldError.error)
  | .statusError _ msg => msg

/-- `fmt.Errorf(pre + "%w" + post, err)`. -/
def wrapf (pre : String) (err : GoError) (post : String) : GoError :=
  .wrapError (pre ++ err.error ++ post) err

/-- `errors.Is(err, target)`: `err`, or an error it wraps, is the sentinel
    `target`.  Fresh values and field errors are equal to no sentinel. -/
def GoError.is (err target : GoError) : Bool :=
  match err with
  | .wrapError _ inner => inner.is target
  | .sentinel name _ =>
      match target with
      | .sentinel name' _ => name == name'
      | _ => false
  | _ => false

/-- `apierrors.IsNotFound`: a `NotFound` status error, possibly wrapped. -/
def GoError.isNotFound : GoError → Bool
  | .statusError reason _ => reason == .notFound
  | .wrapError _ inner => inner.isNotFound
  | _ => false

/-- `client.IgnoreNotFound`; `none` is Go's `nil`. -/
def ignoreNotFound : Option GoError → Option GoError
  | some err => if err.isNotFound then none else some err
  | none => none

@[simp] theorem ignoreNotFound_none : ignoreNotFound none = none := rfl

/-- `utilerrors.NewAggregate`: `nil` for an empty list. -/
def newAggregate (errs : List FieldError) : Option GoError :=
  if errs.length = 0 then none else some (.aggregate errs)

/-- `field.ErrorList.ToAggregate`: `nil` for no errors, else the aggregate of
    the errors whose message does not repeat an earlier one. -/
def toAggregate (list : List FieldError) : Option GoError :=
  if list.length = 0 then none else newAggregate (keepFirst FieldError.error list)

/-- With pairwise distinct messages `ToAggregate` keeps the whole list. -/
theorem toAggregate_of_nodup {list : List FieldError}
    (h : (list.map FieldError.error).Nodup) :
    toAggregate list = newAggregate list := by
  unfold toAggregate
  rw [keepFirst_of_nodup _ h]
  split
  · simp_all [newAggregate]
  · rfl

theorem newAggregate_eq_none_iff {errs : List FieldError} :
    newAggregate errs = none ↔ errs = [] := by
  unfold newAggregate
  split <;> simp_all

-- ── Messages determine field paths ──────────────────────────────────────

/-- The text of a message before its first colon. -/
def messageField (msg : String) : String :=
  ⟨msg.data.takeWhile (· != ':')⟩

/-- A field error's message begins with its path and a colon. -/
theorem messageField_error {v : FieldError} (h : ':' ∉ v.field.data) :
    messageField v.error = v.field := by
  have hpre : ∀ c ∈ v.field.data, (c != ':') = true := fun c hc => by
    simpa using fun hce : c = ':' => h (hce ▸ hc)
  apply String.ext
  simp [messageField, FieldError.error, String.data_append,
    List.takeWhile_append_of_pos hpre]

/-- **DISTINCT PATHS, DISTINCT MESSAGES**: field errors at pairwise distinct,
    colon-free paths have pairwise distinct messages. -/
theorem errors_nodup_of_fields_nodup {l : List FieldError}
    (hcolon : ∀ v ∈ l, ':' ∉ v.field.data) (h : (l.map FieldError.field).Nodup) :
    (l.map FieldError.error).Nodup := by
  apply List.Nodup.of_map messageField
  rw [List.map_map]
  convert h using 1
  exact List.map_congr_left fun v hv => messageField_error (hcolon v hv)

end OtelcolExtension
