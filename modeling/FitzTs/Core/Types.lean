import Mathlib.Logic.Basic
/-!
# FitzTs.Core.Types

The connection states of `core/types.ts` and the error classes of
`core/errors.ts` and `core/abort.ts` that the connection code tells apart.
-/

namespace FitzTs

/-- `enum ConnectionState`. -/
inductive ConnectionState
  /-- No transport is connected; a later explicit connect is allowed. -/
  | disconnected
  /-- Transport connection is in progress. -/
  | connecting
  /-- Transport is open but authentication may not yet be complete. -/
  | connected
  /-- Authentication request is in progress. -/
  | authenticating
  /-- Connection is authenticated and domain operations may be issued. -/
  | authenticated
  /-- Automatic recovery is attempting to restore the connection and subscriptions. -/
  | reconnecting
  /-- Client was permanently closed and cannot reconnect. -/
  | closed
  deriving DecidableEq, Repr

/-- The text of a state, as error messages show it. -/
def ConnectionState.text : ConnectionState → String
  | .disconnected => "DISCONNECTED"
  | .connecting => "CONNECTING"
  | .connected => "CONNECTED"
  | .authenticating => "AUTHENTICATING"
  | .authenticated => "AUTHENTICATED"
  | .reconnecting => "RECONNECTING"
  | .closed => "CLOSED"

/-- The class of an error, as `instanceof` and `isAbortError` see it. -/
inductive ErrorClass
  /-- A plain `Error` whose name is `AbortError`. -/
  | abort
  | transport
  /-- `ConnectionError`, with the `state` of its context, if it has one. -/
  | connection (state : Option ConnectionState)
  /-- `AuthenticationError`. -/
  | authentication
  /-- `ProtocolError`, with its `domainCode`. -/
  | protocol (domainCode : Option Nat)
  | timeout
  | requestQueueFull
  /-- Any other `Error`. -/
  | other
  /-- A thrown value that is not an `Error`. -/
  | nonError
  deriving DecidableEq, Repr

/-- A thrown error: its class and its message. -/
structure ClientError where
  cls : ErrorClass
  message : String
  deriving DecidableEq, Repr

/-- `abortError()`. -/
def abortError : ClientError := ⟨.abort, "The operation was aborted"⟩

/-- `isAbortError(error)`. -/
def isAbortError (error : ClientError) : Bool := error.cls = .abort

/-- `connectionClosedError()` of `client/internal/async.ts`. -/
def connectionClosedError : ClientError := ⟨.connection (some .closed), "Connection closed"⟩

/-- `describeConnectionLoss(error)` of `client/internal/telemetry.ts`. -/
def describeConnectionLoss (error : ClientError) : String :=
  if error.cls = .nonError then "connection closed during CONNECT" else error.message

/-- `Deferred<void>`: a promise that is settled from outside, once. -/
inductive Deferred
  | pending
  | resolved
  | rejected (error : ClientError)
  deriving DecidableEq, Repr

/-- `resolve` and `reject`: only the first of them counts. -/
def Deferred.settle (d outcome : Deferred) : Deferred := if d = .pending then outcome else d

end FitzTs
