import FitzTs.Core.TaskGroup
import FitzTs.Lib.Machine
/-!
# FitzTs.Domains.SubscriptionIterator

The iterator over the notifications of a subscription (`domains/internal/subscription-iterator.ts`).

`createSubscriptionIterator` is an async generator. Its body is cut at every `await` and `yield`:
the phase says where it stands, and its continuation is a job once the promise that it waits for
has settled. The other job is the reaction of `observeCompletion`. The jobs run in the order in
which they were enqueued; between two of them comes whatever the environment does: a notification,
a call of the consumer, the settling of the completion, an abort.

`wake` resolves the promise of the last wait, and does nothing once that promise is resolved or the
wait is over: so it is not kept, and `wake` reads the phase and the jobs instead.
-/

namespace FitzTs

open FitzTs.Core (Thrown Completion)

namespace SubscriptionIterator

/-- What the consumer can ask of the generator. -/
inductive Request
  | next
  | return
  deriving DecidableEq, Repr

/-- What comes of a request. -/
inductive Answer (α : Type*)
  | value (item : α)
  | done
  | threw (error : Thrown)

/-- How the `try` block was left. -/
inductive Exit
  | returned
  | threw (error : Thrown)
  deriving DecidableEq

/-- Where the body of the generator stands. -/
inductive Phase (α : Type*)
  | created
  /-- It waits for `subscribe`. -/
  | subscribing
  /-- It waits to be woken. -/
  | parked
  /-- It waits for the value, as `yield` does in an async generator. -/
  | yielding (item : α)
  | yielded
  /-- It waits for the value of a `return`, as `yield` does. -/
  | returning
  /-- It waits for `unsubscribe`. -/
  | unsubscribing (exit : Exit)
  /-- It waits for `observeCompletion`. -/
  | observing (exit : Exit)
  | completed

inductive Job
  /-- The body goes on; what it waited for has failed, or has not. -/
  | resume (failure : Option Thrown)
  /-- The reaction of `observeCompletion`. -/
  | observe
  deriving DecidableEq

def Job.isResume : Job → Bool
  | resume _ => true
  | observe => false

def Exit.answer {α : Type*} : Exit → Answer α
  | returned => .done
  | threw error => .threw error

def Answer.item? {α : Type*} : Answer α → Option α
  | value item => some item
  | done | threw _ => none

end SubscriptionIterator

open SubscriptionIterator

structure SubscriptionIterator (α : Type*) where
  phase : Phase α := .created
  values : List α := []
  completionSettled : Bool := false
  completionFailure : Thrown := .undefined
  /-- `signal.aborted`. -/
  aborted : Bool := false
  /-- `subscription.completion`. -/
  completion : Completion := .pending
  /-- Whether the body has called `then` on the completion. -/
  listening : Bool := false
  /-- Whether `observeCompletion` has settled. -/
  observed : Bool := false
  jobs : List Job := []
  requests : List Request := []
  answers : List (Answer α) := []
  /-- The notifications that have come. -/
  delivered : List α := []
  /-- Those that came before the completion settled. -/
  promised : List α := []
  /-- Whether `return` has been called. -/
  returned : Bool := false
  /-- Whether `subscribe` has failed. -/
  refused : Bool := false

namespace SubscriptionIterator

variable {α : Type*}

def enqueue (s : SubscriptionIterator α) (job : Job) : SubscriptionIterator α :=
  { s with jobs := s.jobs ++ [job] }

/-- The promise that the body waits for has settled. -/
def isResumed (s : SubscriptionIterator α) : Bool := s.jobs.any Job.isResume

/-- `wake`, and the listener for the abort. -/
def wake (s : SubscriptionIterator α) : SubscriptionIterator α :=
  match s.phase with
  | .parked => if s.isResumed then s else s.enqueue (.resume none)
  | _ => s

/-- The generator is over: its request is answered, and then the ones that are left. -/
def finish (s : SubscriptionIterator α) (exit : Exit) : SubscriptionIterator α :=
  { s with
    phase := .completed
    requests := []
    answers := s.answers ++ exit.answer :: s.requests.tail.map fun _ => Answer.done }

/-- The checks of the completion: whether they leave the loop, and how. -/
def check (s : SubscriptionIterator α) : Option Exit :=
  if s.completionFailure ≠ .undefined then some (.threw s.completionFailure)
  else if s.completionSettled then some .returned
  else none

/-- The `finally` block, up to its first `await`. -/
def leave (s : SubscriptionIterator α) (exit : Exit) : SubscriptionIterator α :=
  { s with phase := .unsubscribing exit }

def yieldItem (s : SubscriptionIterator α) (item : α) (rest : List α) : SubscriptionIterator α :=
  { s with phase := .yielding item, values := rest, jobs := s.jobs ++ [.resume none] }

/-- The body waits for the promise that `wake` resolves. -/
def park (s : SubscriptionIterator α) : SubscriptionIterator α := { s with phase := .parked }

/-- From the head of the loop. -/
def loop (s : SubscriptionIterator α) : SubscriptionIterator α :=
  if s.aborted then s.leave .returned
  else
    match s.check with
    | some exit => s.leave exit
    | none =>
      match s.values with
      | [] => s.park
      -- the second check comes at once, and finds the same
      | item :: rest => s.yieldItem item rest

/-- From the head of the inner loop. -/
def drain (s : SubscriptionIterator α) : SubscriptionIterator α :=
  match s.values with
  | [] => s.loop
  | item :: rest => s.yieldItem item rest

/-- From behind the wait. -/
def afterWait (s : SubscriptionIterator α) : SubscriptionIterator α :=
  match s.check with
  | some exit => s.leave exit
  | none => s.drain

/-- `subscription.completion.then`. -/
def listen (s : SubscriptionIterator α) : SubscriptionIterator α :=
  { s with
    listening := true
    jobs := if s.completion = .pending then s.jobs else s.jobs ++ [.observe] }

/-- From the `yield`, for the request that comes next. -/
def resumeWith (s : SubscriptionIterator α) : Request → SubscriptionIterator α
  | .next => s.drain
  | .return => { s with phase := .returning, jobs := s.jobs ++ [.resume none] }

/-- The `yield` answers the request, and the body goes on if there is another one. -/
def answer (s : SubscriptionIterator α) (item : α) : SubscriptionIterator α :=
  let s := { s with
    phase := .yielded, requests := s.requests.tail, answers := s.answers ++ [Answer.value item] }
  match s.requests with
  | [] => s
  | request :: _ => s.resumeWith request

/-- The body goes on from where it stands. -/
def resume (s : SubscriptionIterator α) (failure : Option Thrown) : SubscriptionIterator α :=
  match s.phase, failure with
  | .subscribing, none => s.listen.loop
  | .subscribing, some error => { s.finish (.threw error) with refused := true }
  | .parked, _ => s.afterWait
  | .yielding item, _ => s.answer item
  | .returning, _ => s.leave .returned
  | .unsubscribing exit, none =>
    { s with
      phase := .observing exit
      jobs := if s.observed then s.jobs ++ [.resume none] else s.jobs }
  -- an error of the `finally` block takes the place of the other
  | .unsubscribing _, some error => s.finish (.threw error)
  | .observing exit, _ => s.finish exit
  | .created, _ | .yielded, _ | .completed, _ => s

/-- What the handlers of `observeCompletion` note. -/
def note (s : SubscriptionIterator α) : SubscriptionIterator α :=
  { s with
    observed := true
    completionSettled := if s.completion = .resolved then true else s.completionSettled
    completionFailure :=
      match s.completion with
      | .rejected error => error
      | _ => s.completionFailure }

/-- The handlers of `observeCompletion`. -/
def observe (s : SubscriptionIterator α) : SubscriptionIterator α :=
  match s.phase with
  | .observing _ => s.note.enqueue (.resume none)
  | _ => s.note.wake

inductive Event (α : Type*)
  /-- The consumer calls `next` or `return`. -/
  | request (request : Request)
  | notify (item : α)
  /-- The completion settles; `none` fulfils it. -/
  | complete (failure : Option Thrown)
  | abort
  /-- `subscribe` returns. -/
  | subscribed (failure : Option Thrown)
  /-- `unsubscribe` returns. -/
  | unsubscribed (failure : Option Thrown)
  /-- The first of the jobs runs. -/
  | run

/-- Another request in the queue of the generator. -/
def queue (s : SubscriptionIterator α) (request : Request) : SubscriptionIterator α :=
  { s with requests := s.requests ++ [request] }

/-- `next` and `return` of the generator. -/
def ask (s : SubscriptionIterator α) (request : Request) : SubscriptionIterator α :=
  match s.phase, request with
  | .created, .next => { s.queue request with phase := .subscribing }
  | .created, .return | .completed, _ => (s.queue request).finish .returned
  | .yielded, _ => (s.queue request).resumeWith request
  | _, _ => s.queue request

/-- `values.push`. -/
def push (s : SubscriptionIterator α) (item : α) : SubscriptionIterator α :=
  { s with
    values := s.values ++ [item]
    delivered := s.delivered ++ [item]
    promised := if s.completion = .pending then s.promised ++ [item] else s.promised }

/-- The handler of the subscription. -/
def handler (s : SubscriptionIterator α) (item : α) : SubscriptionIterator α := (s.push item).wake

def settle (s : SubscriptionIterator α) (completion : Completion) : SubscriptionIterator α :=
  { s with
    completion
    jobs := if s.listening then s.jobs ++ [.observe] else s.jobs }

/-- `none` is an event that cannot happen. -/
def step (s : SubscriptionIterator α) : Event α → Option (SubscriptionIterator α)
  | .request .next => some (s.ask .next)
  | .request .return => some { s.ask .return with returned := true }
  | .notify item =>
    match s.phase with
    | .created => none
    | _ => some (s.handler item)
  | .complete failure =>
    match s.phase, s.completion with
    | .created, _ => none
    | _, .pending => some (s.settle (failure.elim .resolved .rejected))
    | _, _ => none
  | .abort => if s.aborted then none else some { s with aborted := true }.wake
  | .subscribed failure =>
    match s.phase with
    | .subscribing => if s.isResumed then none else some (s.enqueue (.resume failure))
    | _ => none
  | .unsubscribed failure =>
    match s.phase with
    | .unsubscribing _ => if s.isResumed then none else some (s.enqueue (.resume failure))
    | _ => none
  | .run =>
    match s.jobs with
    | [] => none
    | .resume failure :: rest => some ({ s with jobs := rest }.resume failure)
    | .observe :: rest => some { s with jobs := rest }.observe

def machine : Machine (SubscriptionIterator α) (Event α) := ⟨{}, step⟩

/-! ### What is to hold -/

/-- What the consumer has got. -/
def yielded (s : SubscriptionIterator α) : List α := s.answers.filterMap Answer.item?

/-- Neither aborted nor returned early, and there is a subscription. -/
def Undisturbed (s : SubscriptionIterator α) : Prop :=
  s.aborted = false ∧ s.returned = false ∧ s.refused = false

/-- The answer with which the iterator is to end. -/
def endOf : Completion → Option (Answer α)
  | .pending => none
  | .resolved => some .done
  | .rejected error => some (.threw error)

structure Faithful (s : SubscriptionIterator α) : Prop where
  /-- In the order of delivery, and each once. -/
  inOrder : s.yielded <+: s.delivered
  /-- It ends after everything that it has promised, and as the completion does. -/
  ends : s.answers = s.yielded.map Answer.value ∨
    s.promised <+: s.yielded ∧ ∃ last n, endOf s.completion = some last ∧
      s.answers = s.yielded.map Answer.value ++ last :: List.replicate n .done
  /-- It is only with nothing to yield, before the completion has settled, that the consumer is left
  to wait, or for the subscription. -/
  goesOn : s.jobs = [] → s.requests ≠ [] →
    s.phase = .subscribing ∨ (∃ exit, s.phase = .unsubscribing exit) ∨
      s.phase = .parked ∧ s.values = [] ∧ s.completion = .pending

def LosesNothing (s : SubscriptionIterator α) : Prop := s.Undisturbed → s.Faithful

/-- The event brings the body back into its loops. -/
def returnsToLoop (s : SubscriptionIterator α) : Event α → Bool
  | .request .next =>
    match s.phase with
    | .yielded => true
    | _ => false
  | .run =>
    match s.jobs, s.phase with
    | .resume _ :: _, .parked => true
    | .resume _ :: _, .yielding _ => 1 < s.requests.length
    | _, _ => false
  | _ => false

/-- The event is the failure of `unsubscribe`. -/
def failedUnsubscribe (s : SubscriptionIterator α) : Event α → Option Thrown
  | .run =>
    match s.jobs, s.phase with
    | .resume failure :: _, .unsubscribing _ => failure
    | _, _ => none
  | _ => none

/-- The body comes back to its loop with a value to yield, or with a completion that it can tell
from one that has not settled; and `unsubscribe` fails only as the completion has failed. -/
def EndsVisibly (s : SubscriptionIterator α) (e : Event α) : Prop :=
  s.Undisturbed →
    (s.returnsToLoop e = true → s.values = [] → s.observed = true →
      s.completion ≠ .rejected .undefined) ∧
    ∀ error ∈ s.failedUnsubscribe e, s.completion = .rejected error

end SubscriptionIterator

end FitzTs
