import ConversionRelay.Clock
import ConversionRelay.Http
import ConversionRelay.Log
/-!
What the program works in: a clock, a supply of identifiers, the network, the tables that hold
configurations, and a journal of everything it does to the outside.

A session also carries the state of parties that the program is given and knows nothing about, such
as a caller's senders or its hook. Computations in a session may fail; what they did before is done.

Main statements: writing a line leaves everything but the journal alone (`Run.log_run`), and an
attempt does what its computation does and never fails (`Run.attempt_run`).
-/
namespace ConversionRelay

/-- A parameter of a query, with its type. -/
structure QueryParameter where
  name : Text
  type : Text
  value : Value

/-- A call to the warehouse. -/
inductive WarehouseCall where
  | connect (project : Text)
  | query (statement : Text) (parameters : Option (List QueryParameter))
  | insert (table : Text) (rows : List Fields)

/-- The warehouse: its table of configurations by customer, and how it answers. -/
structure Warehouse where
  configs : OrderedMap Value Text
  /-- Why every call fails, if it does. -/
  outage : Option Text
  /-- What inserting rows reports. -/
  insertReport : Value

/-- Whose connection to the outside a connection is. -/
inductive Channel where
  | sender (platform : Text)
  | store
  | eventLog
  deriving DecidableEq, Repr

/-- Something done to the outside. -/
inductive Effect where
  | logged (line : LogLine)
  | connected (client : HttpClient)
  | requested (request : HttpRequest)
  | warehouse (call : WarehouseCall)

/-- The state of a session; `ω` is the state of the parties that the program is given. -/
structure Session (ω : Type) where
  now : Instant
  /-- How many identifiers have been issued. -/
  issued : Nat
  /-- The replies that are still to come. -/
  replies : List HttpReply
  /-- The configurations kept in memory, by key. -/
  shelf : OrderedMap Text Text
  warehouse : Warehouse
  /-- The channels whose connection is open. -/
  opened : List Channel
  journal : List Effect
  party : ω

/-- Computations in a session. -/
abbrev Run (ω α : Type) := ExceptT Fault (StateM (Session ω)) α

namespace Run

variable {ω α : Type}

/-- A computation by what it yields and the session afterwards. -/
def ofStep (step : Session ω → Except Fault α × Session ω) : Run ω α :=
  ExceptT.mk fun s => pure (step s)

/-- What a computation yields in a session, and the session afterwards. -/
def outcome (x : Run ω α) (s : Session ω) : Except Fault α × Session ω :=
  StateT.run (ExceptT.run x) s

/-- Add an effect to the journal. -/
def record (effect : Effect) : Run ω Unit :=
  modify fun s => { s with journal := s.journal ++ [effect] }

/-- Write a line of the log. -/
def log (level : Level) (area : Area) (message : Text) : Run ω Unit :=
  record (.logged ⟨level, area, message⟩)

/-- A result that does nothing. -/
def ofExcept (result : Except Fault α) : Run ω α := ofStep fun s => (result, s)

/-- Write the lines of a logged computation and go on with its result. -/
def ofLogged (x : Logged α) : Run ω α :=
  let done := x.outcome
  ofStep fun s => (done.1, { s with journal := s.journal ++ done.2.map .logged })

/-- What a computation yields, be it a fault. -/
def attempt (x : Run ω α) : Run ω (Except Fault α) :=
  ofStep fun s => (.ok (x.outcome s).1, (x.outcome s).2)

/-- The session as it is. -/
def session : Run ω (Session ω) := get

/-- The time. -/
def clock : Run ω Instant := do return (← session).now

/-- An identifier that was not issued before. -/
def freshId : Run ω Text := do
  modify fun s => { s with issued := s.issued + 1 }
  return "generated-" ++ Decimal.ofNat (← session).issued

/-- Open a connection unless it is open. -/
def ensureOpen (channel : Channel) (opening : Effect) : Run ω Unit := do
  if !(← session).opened.contains channel then
    modify fun s => { s with opened := s.opened ++ [channel] }
    record opening

/-- Forget all connections, so that new ones will be opened. -/
def forgetConnections : Run ω Unit := modify fun s => { s with opened := [] }

/-- The reply that comes next; an empty acceptance when no other is left. -/
def nextReply : Run ω HttpReply :=
  ofStep fun s =>
    match s.replies with
    | [] => (.ok (.response 200 "\x7b\x7d"), s)
    | reply :: rest => (.ok reply, { s with replies := rest })

/-- Send a request over a connection that is open. -/
def exchange (request : HttpRequest) : Run ω HttpReply := do
  record (.requested request)
  nextReply

section Laws

/-- Writing a line leaves everything but the journal alone. -/
theorem log_run (level : Level) (area : Area) (message : Text) (s : Session ω) :
    (log level area message : Run ω Unit).outcome s =
      (.ok (), { s with journal := s.journal ++ [.logged ⟨level, area, message⟩] }) := rfl

/-- An attempt does what its computation does and never fails. -/
theorem attempt_run (x : Run ω α) (s : Session ω) :
    (attempt x).outcome s = (.ok (x.outcome s).1, (x.outcome s).2) := rfl

end Laws

end Run

end ConversionRelay
