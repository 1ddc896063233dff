import ConversionRelay.Proofs.OrderedMap
import ConversionRelay.Sender.Log
/-!
What is common to the proofs about senders.

Main statements: the default currency is the only name that giving a value its currency can add
(`mem_keys_withCurrency`), and it is what stands there where a value has no currency of its own
(`lookup?_withCurrency`).
-/
namespace ConversionRelay

open OrderedMap

/-- Shape the fields of an event and deliver the payload. -/
def Sender.deliver {ω : Type} (sender : Sender ω) (event : Value) (fields : Fields) :
    Run ω SendOutcome := do
  sender.send (.object (← sender.build event fields))

/-- An effect that is no request, or a request with a body of a kind. -/
def Effect.Posting (kind : Value → Prop) : Effect → Prop
  | .requested request => kind request.body
  | _ => True

theorem mem_keys_withCurrency {fields : Fields} {name : Text}
    (member : name ∈ keys (withCurrency fields)) : name ∈ keys fields ∨ name = "currency" := by
  unfold withCurrency putIfAbsent at member
  split at member
  · split at member
    · exact .inl member
    · exact mem_keys_put.mp member
  · exact .inl member

theorem lookup?_withCurrency_of_ne {name : Text} (other : name ≠ "currency") (fields : Fields) :
    lookup? (withCurrency fields) name = lookup? fields name := by
  unfold withCurrency putIfAbsent
  split
  · split
    · rfl
    · exact lookup?_put_of_ne _ _ other.symm
  · rfl

/-- A value has its own currency or else the default one. -/
theorem lookup?_withCurrency (fields : Fields) :
    lookup? (withCurrency fields) "currency" = (lookup? fields "currency").or
      (if (lookup? fields "value").isSome then some (.string defaultCurrency) else none) := by
  unfold withCurrency putIfAbsent hasKey
  cases own : lookup? fields "currency" with
  | some currency =>
    cases (lookup? fields "value").isSome
    · exact own
    · exact own
  | none =>
    cases (lookup? fields "value").isSome
    · exact own
    · exact lookup?_put_self _ _ _

theorem distinct_withCurrency {fields : Fields} (distinct : Distinct fields) :
    Distinct (withCurrency fields) := by
  unfold withCurrency putIfAbsent
  split
  · split
    · exact distinct
    · exact distinct_put _ _ _ distinct
  · exact distinct

theorem LogSender.distinct_payload (platform : Platform) (time : Instant) (event : Value)
    (fields : Fields) : Distinct (LogSender.payload platform time event fields) := by
  cases platform with
  | facebook =>
    have head : ([Text.ofString "event_name", "event_time"]).Nodup := by decide
    exact distinct_update _ fields head
  | ga4 => exact show ([Text.ofString "event_name", "params"]).Nodup by decide
  | googleAds => exact show ([Text.ofString "event_name", "payload"]).Nodup by decide

end ConversionRelay
