import ConversionRelay.Proofs.Run
/-!
Requests that are made in a session, and the replies to them.

Every request takes the next one of the replies that are still to come. Opening a connection and
writing lines to the log are effects, but they are no requests.

Main statements: an exchange makes one request and gives the reply that was coming
(`Run.outcome_exchange`), and whoever posts over a connection of its own makes one request or none
(`Run.outcome_posting`).
-/
namespace ConversionRelay

variable {ω : Type}

/-- The request that an effect is, if it is one. -/
def Effect.request? : Effect → Option HttpRequest
  | .requested request => some request
  | _ => none

namespace Session

/-- The requests that were made. -/
def requests (s : Session ω) : List HttpRequest := s.journal.filterMap Effect.request?

/-- The reply to the next request; an empty acceptance when no other is left. -/
def upcoming (s : Session ω) : HttpReply := s.replies.headD (.response 200 "\x7b\x7d")

/-- What is the same in two sessions for everybody who makes requests: what was requested, which
replies are to come and which identifiers were issued. -/
structure OnLine (s t : Session ω) : Prop where
  requests : t.requests = s.requests
  replies : t.replies = s.replies
  issued : t.issued = s.issued

namespace OnLine

variable {s t u : Session ω}

theorem refl (s : Session ω) : s.OnLine s := ⟨rfl, rfl, rfl⟩

theorem trans (first : s.OnLine t) (second : t.OnLine u) : s.OnLine u :=
  ⟨second.requests.trans first.requests, second.replies.trans first.replies,
    second.issued.trans first.issued⟩

theorem upcoming (same : s.OnLine t) : t.upcoming = s.upcoming := by
  rw [Session.upcoming, same.replies]
  rfl

/-- Effects that are no requests do not count. -/
theorem journal {added : List Effect} (silent : ∀ effect ∈ added, effect.request? = none)
    (s : Session ω) : s.OnLine { s with journal := s.journal ++ added } where
  requests := by
    have none : added.filterMap Effect.request? = [] := List.filterMap_eq_nil_iff.mpr silent
    rw [Session.requests, List.filterMap_append, none, List.append_nil]
    rfl
  replies := rfl
  issued := rfl

end OnLine

end Session

namespace Run

theorem onLine_log (level : Level) (area : Area) (message : Text) (s : Session ω) :
    s.OnLine ((log level area message : Run ω Unit).outcome s).2 :=
  .journal (List.forall_mem_singleton.mpr rfl) s

theorem onLine_ensureOpen (channel : Channel) (client : HttpClient) (s : Session ω) :
    ∃ t, (ensureOpen channel (.connected client)).outcome s = (.ok (), t) ∧ s.OnLine t := by
  cases closed : !s.opened.contains channel with
  | false =>
    refine ⟨s, ?_, .refl s⟩
    rw [ensureOpen, outcome_bind_ok (outcome_session s), closed]
    rfl
  | true =>
    let reopened : Session ω := { s with opened := s.opened ++ [channel] }
    have silent : ∀ effect ∈ [Effect.connected client], effect.request? = none :=
      List.forall_mem_singleton.mpr rfl
    refine ⟨{ reopened with journal := s.journal ++ [.connected client] }, ?_,
      .trans (t := reopened) ⟨rfl, rfl, rfl⟩ (.journal silent reopened)⟩
    rw [ensureOpen, outcome_bind_ok (outcome_session s), closed]
    rfl

/-- An exchange makes one request and gives the reply that was coming. -/
theorem outcome_exchange (request : HttpRequest) (s : Session ω) :
    ∃ t, (exchange request).outcome s = (.ok s.upcoming, t) ∧
      t.requests = s.requests ++ [request] ∧ t.issued = s.issued := by
  refine ⟨{ s with journal := s.journal ++ [.requested request], replies := s.replies.tail }, ?_,
    List.filterMap_append, rfl⟩
  rw [exchange, outcome_bind_ok (outcome_record _ s), nextReply, outcome_ofStep, Session.upcoming]
  cases s.replies <;> rfl

/-- Over a connection that is opened before, a request is made if there is one to make, and the reply
decides how everything ends. -/
theorem outcome_posting {α : Type} {conclude : HttpReply → Run ω α}
    {meaning : HttpReply → Except Fault α}
    (concludes : ∀ reply s, ∃ t, (conclude reply).outcome s = (meaning reply, t) ∧ s.OnLine t)
    (channel : Channel) (client : HttpClient) (requested : Except Fault HttpRequest)
    (s : Session ω) :
    ∃ t, (do
        ensureOpen channel (.connected client)
        let request ← ofExcept requested
        conclude (← exchange request)).outcome s =
          (requested.bind fun _ => meaning s.upcoming, t) ∧
      t.requests = s.requests ++ requested.toOption.toList ∧ t.issued = s.issued := by
  obtain ⟨u, opens, online⟩ := onLine_ensureOpen channel client s
  rw [outcome_bind_ok opens, outcome_ofExcept_bind]
  cases requested with
  | error fault =>
    refine ⟨u, rfl, ?_, online.issued⟩
    rw [online.requests]
    exact (List.append_nil _).symm
  | ok request =>
    obtain ⟨v, exchanges, posted, issued⟩ := outcome_exchange request u
    obtain ⟨t, ends, online'⟩ := concludes u.upcoming v
    refine ⟨t, ?_, ?_, ?_⟩
    · dsimp only
      rw [outcome_bind_ok exchanges, ends, online.upcoming]
      rfl
    · rw [online'.requests, posted, online.requests]
      rfl
    · rw [online'.issued, issued, online.issued]

end Run

end ConversionRelay
