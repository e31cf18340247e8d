import FitzTs.Domains.Kv.Answers
import FitzTs.Domains.Lease.Codec
import FitzTs.Domains.Queue.Codec
import FitzTs.Domains.Schedule.Codec
import FitzTs.Domains.Stream.Answers
/-!
# FitzTs.Domains.StrictAnswers

**Which decoders accept whole encodings only.** Those of ACQUIRE and LIST and of the notifications
of all domains but streams do. The others also accept answers that end before their value, flags
other than 0 and 1, or bytes behind the value; and to the decoders of the KV domain an error with
the code 0 is a success.

## Main result

* `answers_strict_iff` — the payloads on which each decoder is strict.
-/

namespace FitzTs

open Buffer JsString

/-- **The payloads on which the decoders are strict.** -/
theorem answers_strict_iff {τ : Type} (parse : JsString → Option τ) (empty : τ) (now : Nat)
    (payload : Bytes) :
    (Kv.GetStrict payload ↔ Kv.GetWhole payload) ∧
    (Kv.ScanStrict payload ↔ ¬ IsCodelessError payload) ∧
    (Kv.BeginStrict payload ↔ payload ≠ [0] ∧ ¬ IsCodelessError payload) ∧
    (∀ response, LeaseCodec.decodeAcquireResponse payload = some response →
      LeaseCodec.IsAcquireAnswer payload response) ∧
    (LeaseCodec.QueryStrict now payload ↔ LeaseCodec.QueryPlain payload) ∧
    (∀ page, LeaseCodec.decodeListResponse payload = some page →
      LeaseCodec.IsListAnswer payload page) ∧
    (Stream.MetadataStrict payload ↔ Stream.MetadataWhole payload) ∧
    (∀ notification, Kv.decodeNotification payload = some notification →
      Kv.IsNotification payload notification) ∧
    (∀ notification, LeaseCodec.decodeNotification payload = some notification →
      LeaseCodec.IsNotification payload notification) ∧
    (∀ notification, Queue.decodeNotification payload = some notification →
      Queue.IsNotification payload notification) ∧
    (∀ notification, Schedule.decodeNotification payload = some notification →
      Schedule.IsNotification payload notification) ∧
    (Stream.NotificationStrict parse empty payload ↔ Stream.NotificationEnds payload) :=
  ⟨Kv.getStrict_iff, Kv.scanStrict_iff, Kv.beginStrict_iff,
    fun _ => LeaseCodec.isAcquireAnswer, LeaseCodec.queryStrict_iff now,
    fun _ => LeaseCodec.isListAnswer, Stream.metadataStrict_iff,
    fun _ => Kv.decodeNotification_eq_some_iff.mp, fun _ => LeaseCodec.isNotification,
    fun _ => Queue.isNotification, fun _ => Schedule.isNotification,
    Stream.notificationStrict_iff parse empty⟩

/-- An error of the broker with the code 0 and no message. -/
def codelessError : Bytes := [1, 0, 0, 0, 0, 0, 0, 0, 0]

/-- A held lease behind the flag 7, with an empty owner. -/
def oddHolder : Bytes := [0, 7] ++ [0, 0, 0, 0] ++ [0, 0, 0, 0, 0, 0, 0, 5] ++ [0, 0, 0, 1]

/-- A notification of a stream with an empty route and payload, and a byte behind it. -/
def trailedNotification : Bytes := [0, 0, 0, 0, 0, 0, 0, 5] ++ [0, 0, 0, 0] ++ [0, 0, 0, 0] ++ [9]

/-- A missing key is read off a flag 7, and off an error; an empty page off an error; and so on. -/
theorem not_answers_strict :
    ¬ Kv.GetStrict [0, 7] ∧ ¬ Kv.GetStrict codelessError ∧ ¬ Kv.ScanStrict codelessError ∧
      ¬ Kv.BeginStrict [0] ∧ ¬ LeaseCodec.QueryStrict 0 oddHolder ∧ ¬ Stream.MetadataStrict [0] ∧
      ¬ Stream.NotificationStrict (fun _ => some ()) () trailedNotification := by
  have herror : IsCodelessError codelessError :=
    ⟨⟨0, 0, 0, []⟩, [], ⟨by decide, by decide, by decide, by decide, by decide, by decide⟩, rfl⟩
  refine ⟨fun h => ?_, fun h => ?_, fun h => ?_, fun h => ?_, fun h => ?_, fun h => ?_, fun h => ?_⟩
  · exact absurd ((Kv.getStrict_iff.mp h).flag 7 [] rfl (by decide)).1 (by decide)
  · exact (Kv.getStrict_iff.mp h).has_code herror
  · exact Kv.scanStrict_iff.mp h herror
  · exact (Kv.beginStrict_iff.mp h).1 rfl
  · have hflag := (LeaseCodec.queryStrict_iff 0).mp h 7 ⟨[], by decide⟩ ⟨5, by decide⟩
      ⟨1, by decide⟩ (by decide)
    exact hflag.elim (by decide) (by decide)
  · exact (Stream.metadataStrict_iff.mp h).1 rfl
  · have hend := (Stream.notificationStrict_iff _ _).mp h ⟨5, by decide⟩ ⟨[], by decide⟩
      ⟨[], by decide⟩ [9] (by decide)
    cases hend

end FitzTs
