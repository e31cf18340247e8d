import FitzTs.Domains.Subscriptions.Notifications
/-!
# FitzTs.Domains.Subscriptions.Restoring

The reconnect listener: `restoreMapEntriesAtomically` with the functions that each
client gives it, and the new index.

The entries are restored one after the other, from a snapshot of the table. The
restored table is put in place at the end, or not at all: if one entry fails, the
registrations made so far are taken back.
-/

namespace FitzTs.Subscriptions.Client

/-- The resubscribe request of the first entry that is left; without one, the
restored table replaces the old one. -/
def resubscribeNext (c : Client) (todo restored : List (String × Nat)) : Client :=
  match todo with
  | (pattern, _) :: _ =>
    { c.request (.subscribe pattern) true with
      restore := .resubscribing todo restored c.requestCount }
  | [] =>
    { c.setStore { c.store with
        subscriptionsByPattern := restored.foldl (fun m e => m.set e.1 e.2) ∅ } with
      restore := .committed }

/-- The UNSUBSCRIBE request of the first entry that is left to roll back; without
one, the error that started the rollback is thrown. -/
def rollbackNext (v : Variant) (c : Client) (todo : List (String × Nat)) : Client :=
  match todo with
  | (pattern, s) :: _ =>
    let subId := (c.store.states s).subId
    let c := if v.indexesEachEntry then c.setStore { c.store with
      patternsBySubId := c.store.patternsBySubId.delete subId } else c
    { c.request (.unsubscribe pattern subId) true with restore := .rollingBack todo c.requestCount }
  | [] => { c with restore := .idle, restoreFailed := true }

/-- The listener is called. -/
def restoreBegins (v : Variant) (c : Client) : Client :=
  match c.store.subscriptionsByPattern.entries with
  | [] =>
    let c := if v.registersInFlight then c.setStore { c.store with patternsBySubId := ∅ } else c
    { c with restore := .idle }
  | entries => c.resubscribeNext entries []

/-- The restored state of an entry: its handlers are copied now. -/
def restoreEntry (v : Variant) (c : Client) (pattern : String) (s subId : Nat) : Client :=
  let store := c.store.make ⟨pattern, subId, (c.store.states s).handlers, none⟩
  c.setStore (if v.indexesEachEntry then
    { store with patternsBySubId :=
        (store.patternsBySubId.delete (c.store.states s).subId).set subId pattern }
    else store)

/-- The new index, and what was buffered under the new ids. -/
def reindex (v : Variant) (c : Client) : Client :=
  if v.indexesEachEntry then { c with restore := .idle }
  else
    let c := c.setStore { c.store with patternsBySubId := ∅ }
    { c.store.subscriptionsByPattern.entries.foldl (fun c e =>
        (c.setStore { c.store with patternsBySubId :=
          c.store.patternsBySubId.set (c.store.states e.2).subId e.1 }).flushIfBuffered v
            (c.store.states e.2).subId) c with
      restore := .idle }

/-- The continuation of the listener. -/
def restoreContinues (v : Variant) (c : Client) : Option Client :=
  match c.restore with
  | .resubscribing ((pattern, s) :: todo) restored r =>
    match (c.requests r).phase with
    | .subscribed subId =>
      some ((c.restoreEntry v pattern s subId).resubscribeNext todo
        (restored ++ [(pattern, c.store.stateCount)]))
    | .unsent => none
    | .sent => none
    | _ => some (c.rollbackNext v restored.reverse)
  | .rollingBack (_ :: todo) r =>
    if (c.requests r).phase.isSettled then some (c.rollbackNext v todo) else none
  | .committed => some (c.reindex v)
  | _ => none

end FitzTs.Subscriptions.Client
