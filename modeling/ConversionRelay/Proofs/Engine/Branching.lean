import ConversionRelay.Proofs.Engine.Outcomes
/-!
What the branch of a platform may come to.

A branch ends in one of five ways: no sender serves the platform, the fields cannot be read, the
payload cannot be built, it cannot be sent, or it is sent. Each has its result and its calls to the
sender of the platform, which are at most two, one to build the payload and one to send it.

Main statement: every branch ends in one of these ways (`Engine.branch_gives`).
-/
namespace ConversionRelay

open OrderedMap Run

variable {ω : Type} {world : World ω}

/-- A sender whose steps do not leave a world. -/
structure Sender.Keeps (world : World ω) (sender : Sender ω) : Prop where
  build : ∀ event fields, Run.Keeps world (sender.build event fields)
  send : ∀ payload, Run.Keeps world (sender.send payload)

theorem Sender.keeps_all (sender : Sender ω) : sender.Keeps .all :=
  ⟨fun _ _ _ _ => trivial, fun _ _ _ => trivial⟩

namespace Engine

variable {engine : Engine ω} {event : EventData}

/-- What the branch of a platform may come to, with the calls to the sender of the platform. -/
inductive Branched (engine : Engine ω) (event : EventData) (platform : Text) (mapping : Fields) :
    PlatformResult → List Call → Prop
  | unserved (absent : lookup? engine.senders platform = none) :
      Branched engine event platform mapping
        (.failed ("No sender registered for platform: " ++ platform) [] "unsupported_platform") []
  | unread (served : hasKey engine.senders platform = true) (fault : Fault)
      (unread : DataLayer.readFields event.layer mapping = .error fault) :
      Branched engine event platform mapping
        (.failed (platform ++ " send failed") [] fault.text) []
  | unbuilt (served : hasKey engine.senders platform = true) (fields : Fields)
      (read : DataLayer.readFields event.layer mapping = .ok fields) (fault : Fault) :
      Branched engine event platform mapping (.failed (platform ++ " send failed") [] fault.text)
        [.built platform event.name fields (.error fault)]
  | unsent (served : hasKey engine.senders platform = true) (fields : Fields)
      (read : DataLayer.readFields event.layer mapping = .ok fields) (payload : Fields)
      (fault : Fault) :
      Branched engine event platform mapping
        (.failed (platform ++ " send failed") payload fault.text)
        [.built platform event.name fields (.ok payload),
          .sent platform (.object payload) (.error fault)]
  | sent (served : hasKey engine.senders platform = true) (fields : Fields)
      (read : DataLayer.readFields event.layer mapping = .ok fields) (payload : Fields)
      (outcome : SendOutcome) :
      Branched engine event platform mapping (.ofOutcome payload outcome)
        [.built platform event.name fields (.ok payload),
          .sent platform (.object payload) (.ok outcome)]

/-- A branch comes to one of these ends, in any world that the sender of the platform keeps to. -/
theorem branch_gives {platform : Text}
    (keeps : ∀ sender, lookup? engine.senders platform = some sender → sender.Keeps world)
    (event : EventData) (mapping : Fields) :
    Gives world (engine.Branched event platform mapping)
      (engine.watched.branch event platform mapping) := by
  unfold branch
  rw [lookup?_watched]
  cases served : lookup? engine.senders platform with
  | none =>
    exact (Gives.log _ _ _).bind fun _ _ nothing => .pure (by rw [nothing]; exact .unserved served)
  | some sender =>
    have kept := keeps sender served
    have serves : hasKey engine.senders platform = true := by rw [hasKey, served]; rfl
    have prepares : Yields world (fun prepared added =>
        (∃ fault, prepared = .error fault ∧ added = [] ∧
          DataLayer.readFields event.layer mapping = .error fault) ∨
        ∃ fields, DataLayer.readFields event.layer mapping = .ok fields ∧
          added = [.built platform event.name fields prepared])
        (prepare (sender.watched platform) event mapping) :=
      .ofExcept_bind (fun fault unread => .inl ⟨fault, rfl, rfl, unread⟩) fun fields read =>
        .noting (fun payload => [.built platform event.name fields payload])
          (kept.build event.name fields) fun _ _ => .inr ⟨fields, read, rfl⟩
    refine prepares.attempt.bind fun prepared built came => ?_
    rcases came with ⟨fault, rfl, rfl, unread⟩ | ⟨fields, read, rfl⟩
    · refine (branchFailed_gives platform event [] fault).weaken ?_
      rintro result added ⟨rfl, rfl⟩
      exact .unread serves fault unread
    cases prepared with
    | error fault =>
      refine (branchFailed_gives platform event [] fault).weaken ?_
      rintro result added ⟨rfl, rfl⟩
      exact .unbuilt serves fields read fault
    | ok payload =>
      have sends : Yields world (fun outcome added =>
          added = [.sent platform (.object payload) outcome])
          ((sender.watched platform).send (.object payload)) :=
        .noting (fun outcome => [.sent platform (.object payload) outcome])
          (kept.send (.object payload)) fun _ _ => rfl
      refine sends.attempt.bind ?_
      rintro outcome _ rfl
      cases outcome with
      | error fault =>
        refine (branchFailed_gives platform event payload fault).weaken ?_
        rintro result added ⟨rfl, rfl⟩
        exact .unsent serves fields read payload fault
      | ok outcome => exact .pure (.sent serves fields read payload outcome)

theorem Branched.platform {platform : Text} {mapping : Fields} {result : PlatformResult}
    {calls : List Call} (branch : engine.Branched event platform mapping result calls) :
    ∀ call ∈ calls, call.platform? = some platform := by
  cases branch with
  | unserved absent => exact List.forall_mem_nil _
  | unread served fault unread => exact List.forall_mem_nil _
  | unbuilt served fields read fault => exact List.forall_mem_singleton.mpr rfl
  | unsent served fields read payload fault =>
    exact List.forall_mem_cons.mpr ⟨rfl, List.forall_mem_singleton.mpr rfl⟩
  | sent served fields read payload outcome =>
    exact List.forall_mem_cons.mpr ⟨rfl, List.forall_mem_singleton.mpr rfl⟩

end Engine

end ConversionRelay
