import Mathlib.Logic.Basic
/-!
# FitzTs.Domains.Lease.Handle

The handle of one acquired lease (`createLease` of `domains/lease/types.ts`).

A handle serialises its operations, so at most one of `extend` and `release` is
under way, and its caller here never starts one before the other has settled:
the `operation` chain is always free when it is used. The expiry the handle
computes from the clock is left out; nothing reads it.
-/

namespace FitzTs.Lease

/-- A JavaScript value that can be thrown or given as an abort reason. Objects are
compared by identity. -/
inductive JsValue
  | undefined
  | null
  /-- An `Error`, with its `name`. -/
  | error (name message : String) (identity : Nat)
  /-- Anything else. -/
  | other (identity : Nat)
  deriving DecidableEq, Repr

/-- An error that is an object, as every error of this package is. -/
structure JsError where
  name : String
  message : String
  identity : Nat
  deriving DecidableEq, Repr

def JsError.value (e : JsError) : JsValue := .error e.name e.message e.identity

@[simp] theorem JsError.value_ne_undefined (e : JsError) : e.value ≠ .undefined :=
  fun h => (nomatch h)

/-- `error instanceof Error && error.name === "AbortError"`. -/
def JsValue.isAbortError : JsValue → Bool
  | .error name _ _ => name = "AbortError"
  | _ => false

/-- The `DOMException` that `abort()` makes when it is given no reason. -/
def abortException : JsError := ⟨"AbortError", "This operation was aborted", 0⟩

/-- The reason of a signal after `abort(reason)`. -/
def abortReason : JsValue → JsValue
  | .undefined => abortException.value
  | reason => reason

/-- What a handle asks of the connection. -/
inductive LeaseRequest
  /-- `MSG_LEASE_RENEW`. -/
  | renew (route : String) (token ttlSeconds : Nat)
  /-- `MSG_LEASE_RELEASE`. -/
  | release (route : String) (token : Nat)
  deriving DecidableEq, Repr

def LeaseRequest.isRelease : LeaseRequest → Bool
  | .release .. => true
  | .renew .. => false

/-- `createLease(token, expiresAt, route, connection)`. -/
structure LeaseHandle where
  route : String
  currentToken : Nat
  closed : Bool
  deriving DecidableEq, Repr

/-- The error of an operation on a closed handle. -/
def closedError : JsError :=
  ⟨"LeaseError", "Lease handle is no longer valid after disconnect", 1⟩

namespace LeaseHandle

/-- `ensureOpen()`. -/
def ensureOpen (h : LeaseHandle) : Except JsError Unit :=
  if h.closed then .error closedError else .ok ()

/-- `extend({ ttlSeconds })` up to its request. -/
def extend (h : LeaseHandle) (ttlSeconds : Nat) : Except JsError LeaseRequest := do
  h.ensureOpen
  return .renew h.route h.currentToken ttlSeconds

/-- `extend` once its request has settled: the new fencing token, or an error. -/
def extended (h : LeaseHandle) : Except JsError Nat → LeaseHandle
  | .ok token => { h with currentToken := token }
  | .error _ => { h with closed := true }

/-- `release()` up to its request: the handle closes, whatever comes of it. -/
def release (h : LeaseHandle) : Except JsError (LeaseHandle × LeaseRequest) := do
  h.ensureOpen
  return ({ h with closed := true }, .release h.route h.currentToken)

/-- The handle's own disconnect listener. -/
def disconnected (h : LeaseHandle) : LeaseHandle := { h with closed := true }

@[simp] theorem disconnected_closed (h : LeaseHandle) : h.disconnected.closed = true := rfl

@[simp] theorem extended_ok_closed (h : LeaseHandle) (token : Nat) :
    (h.extended (.ok token)).closed = h.closed := rfl

@[simp] theorem extended_error_closed (h : LeaseHandle) (e : JsError) :
    (h.extended (.error e)).closed = true := rfl

/-- An open handle sends its request; a closed one fails without sending. -/
theorem extend_eq (h : LeaseHandle) (ttlSeconds : Nat) : h.extend ttlSeconds =
    if h.closed then .error closedError else .ok (.renew h.route h.currentToken ttlSeconds) := by
  unfold extend ensureOpen
  cases h.closed <;> rfl

theorem release_eq (h : LeaseHandle) : h.release = if h.closed then .error closedError
    else .ok ({ h with closed := true }, .release h.route h.currentToken) := by
  unfold release ensureOpen
  cases h.closed <;> rfl

end LeaseHandle

end FitzTs.Lease
