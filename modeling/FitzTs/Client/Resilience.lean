import FitzTs.Core.Types
import FitzTs.Lib.JsString
/-!
# FitzTs.Client.Resilience

`client/resilience.ts` and `isRetryable` of `core/errors.ts`: which thrown errors let an
operation run again.
-/

namespace FitzTs.Client

open JsString

inductive RetryClass
  | replayableRead
  | confirmedNegativeRetry
  | waitOnly
  deriving DecidableEq, Repr

/-- Whether the error came before `send` was called, or after. -/
inductive AttemptBoundary
  | preSend
  | postSend
  deriving DecidableEq, Repr

inductive FailureKind
  | transport
  | connection
  | timeout
  | domain
  | other
  deriving DecidableEq, Repr

structure ResilienceErrorMeta where
  boundary : AttemptBoundary
  failureKind : FailureKind
  explicitNegative : Bool
  deriving DecidableEq, Repr

/-- An error of a domain, such as `QueueError`. -/
structure DomainError where
  message : JsString
  code : JsString
  domainCode : Option Nat := none
  errorClass : Option Nat := none
  effect : Option Nat := none
  deriving DecidableEq, Repr

inductive Failure
  /-- An error of the client itself. -/
  | client (error : ClientError)
  | domain (error : DomainError)
  deriving DecidableEq, Repr

/-- A thrown error, with the metadata attached to it. -/
structure Thrown where
  failure : Failure
  resilience : Option ResilienceErrorMeta := none
  deriving DecidableEq, Repr

/-- `attachResilienceMeta`. -/
def attachResilienceMeta (failure : Failure) (resilience : ResilienceErrorMeta) : Thrown :=
  ⟨failure, some resilience⟩

/-- `classifyFailureKind`. -/
def classifyFailureKind : Failure → FailureKind
  | .domain _ => .domain
  | .client error =>
    match error.cls with
    | .timeout => .timeout
    | .transport => .transport
    | .connection _ => .connection
    | .authentication | .protocol _ | .requestQueueFull => .domain
    | .abort | .other | .nonError => .other

/-! ### What can be retried -/

/-- `retryableErrorCodes`, each key as its prefix and its number. -/
def retryableErrorCodes : List (JsString × Nat) :=
  [(js "KV", 1053), (js "LEASE", 5050), (js "LEASE", 5056), (js "RPC", 6051)]

/-- `error.code.split("_")[0]`. -/
def codePrefix (code : JsString) : JsString := (split code 0x5f).headD []

/-- `retryableKey`. -/
def retryableKey (error : DomainError) : Option (JsString × Nat) :=
  error.domainCode.map (codePrefix error.code, ·)

/-- `isRetryable`. An error of the client has no `effect`. -/
def isRetryable : Failure → Bool
  | .client error => error.cls = .timeout ∨ error.cls = .transport
  | .domain error =>
    if error.effect ≠ some 0 then false
    else if error.errorClass = some 5 then true
    else
      match retryableKey error with
      | some key => key ∈ retryableErrorCodes
      | none => false

/-- `isTransientRetryError`. -/
def isTransientRetryError (failure : Failure) : Bool :=
  (match failure with
  | .client error =>
    match error.cls with
    | .timeout | .transport | .connection _ | .requestQueueFull => true
    | _ => false
  | .domain _ => false) || isRetryable failure

/-- `shouldRetryOperation`. -/
def shouldRetryOperation (retryClass : RetryClass) (thrown : Thrown) : Bool :=
  match retryClass with
  | .waitOnly => false
  | .replayableRead => isTransientRetryError thrown.failure
  | .confirmedNegativeRetry =>
    match thrown.resilience with
    | some resilience =>
      resilience.explicitNegative && resilience.boundary = .postSend && isRetryable thrown.failure
    | none => false

/-- `isAbortError`, of a thrown error. -/
def Thrown.isAbort (thrown : Thrown) : Bool :=
  match thrown.failure with
  | .client error => isAbortError error
  | .domain _ => false

/-! ### Waiting before the next attempt -/

/-- `RetryOptions`. The number of attempts is `none` where no attempt reaches it (`Infinity` and
`NaN`); a fraction counts as the next whole number. -/
structure RetryOptions where
  enabled : Bool := true
  maxAttempts : Option Int := some 3
  backoffMs : Int := 100
  maxBackoffMs : Int := 1000
  deriving DecidableEq, Repr

/-- Not `attempt >= retryMaxAttempts`. -/
def RetryOptions.allows (options : RetryOptions) (attempt : Nat) : Bool :=
  options.maxAttempts.all fun maxAttempts => (attempt : Int) < maxAttempts

/-- How often an operation runs at most, if there is a limit. -/
def RetryOptions.limit (options : RetryOptions) : Option Nat :=
  if options.enabled then options.maxAttempts.map fun maxAttempts => (max 1 maxAttempts).toNat
  else some 1

theorem RetryOptions.limit_pos {options : RetryOptions} {limit : Nat}
    (h : options.limit = some limit) : 1 ≤ limit := by
  unfold RetryOptions.limit at h
  split at h
  · obtain ⟨maxAttempts, -, rfl⟩ := Option.map_eq_some_iff.mp h
    omega
  · exact (Option.some.inj h).le

/-- After an attempt that may be followed by another one the limit is not reached. -/
theorem RetryOptions.lt_limit {options : RetryOptions} {attempt limit : Nat}
    (h : options.limit = some limit) (henabled : options.enabled = true)
    (hallows : options.allows attempt = true) : attempt < limit := by
  unfold RetryOptions.limit at h
  rw [if_pos henabled] at h
  obtain ⟨maxAttempts, hmax, rfl⟩ := Option.map_eq_some_iff.mp h
  unfold RetryOptions.allows at hallows
  rw [hmax] at hallows
  have hlt : (attempt : Int) < maxAttempts := by simpa using hallows
  omega

/-- `jitteredBackoffMs`, where `jitterMs` is what it draws at random. -/
def jitteredBackoffMs (baseDelayMs maxBackoffMs jitterMs : Int) : Int :=
  let normalizedMaxMs := max maxBackoffMs 0
  let cappedBaseMs := min (max baseDelayMs 0) normalizedMaxMs
  if cappedBaseMs ≤ 0 then 0 else min (max (cappedBaseMs + jitterMs) 1) normalizedMaxMs

/-! ### An answer that declines -/

/-- An error in whose code no listed prefix stands is retryable by its disposition alone. -/
theorem isRetryable_domain {error : DomainError}
    (hstart : ∀ key ∈ retryableErrorCodes, key.1 ≠ codePrefix error.code)
    (h : isRetryable (.domain error) = true) :
    error.effect = some 0 ∧ error.errorClass = some 5 := by
  simp only [isRetryable] at h
  split at h
  · cases h
  · rename_i heffect
    refine ⟨not_not.mp heffect, ?_⟩
    by_contra hclass
    rw [if_neg hclass] at h
    split at h
    · rename_i key hkey
      obtain ⟨code, -, rfl⟩ := Option.map_eq_some_iff.mp hkey
      exact hstart _ (of_decide_eq_true h) rfl
    · cases h

/-- An explicit negative answer after the request was sent, and only that, lets an operation
run again whose class asks for one. -/
theorem shouldRetry_confirmedNegative {thrown : Thrown}
    (h : shouldRetryOperation .confirmedNegativeRetry thrown = true) :
    ∃ resilience, thrown.resilience = some resilience ∧ resilience.explicitNegative = true ∧
      isRetryable thrown.failure = true := by
  unfold shouldRetryOperation at h
  dsimp only at h
  split at h
  · rename_i resilience hmeta
    simp only [Bool.and_eq_true] at h
    exact ⟨resilience, hmeta, h.1.1, h.2⟩
  · cases h

end FitzTs.Client
