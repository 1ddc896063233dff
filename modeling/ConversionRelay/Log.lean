import ConversionRelay.Fault
/-!
The operator log.

A line has a level, the area of the program that wrote it, and a message. `Logged` computations
write lines in order and may fail; the lines written before a failure are kept.
-/
namespace ConversionRelay

/-- How important a line is; later levels are more important. -/
inductive Level where
  | debug
  | info
  | warning
  | error
  deriving DecidableEq, Repr

/-- The name of a level. -/
def Level.name : Level → Text
  | debug => "DEBUG"
  | info => "INFO"
  | warning => "WARNING"
  | error => "ERROR"

/-- The rank of a level. -/
def Level.rank : Level → Nat
  | debug => 0
  | info => 1
  | warning => 2
  | error => 3

/-- The areas of the program that write lines. -/
inductive Area where
  | exports
  | compilation
  | generation
  | senders
  | storage
  | engine
  deriving DecidableEq, Repr

/-- The name under which an area writes. -/
def Area.name : Area → Text
  | exports => "growthnav.gtm.schema"
  | compilation => "growthnav.gtm.compiler"
  | generation => "growthnav.gtm.generator"
  | senders => "growthnav.tracking.senders"
  | storage => "growthnav.tracking.storage"
  | engine => "growthnav.tracking.engine"

/-- A line of the log. -/
structure LogLine where
  level : Level
  area : Area
  message : Text
  deriving DecidableEq, Repr

/-- Computations that write lines and may fail. -/
abbrev Logged (α : Type) := ExceptT Fault (StateM (List LogLine)) α

namespace Logged

/-- Write a line. -/
def write (level : Level) (area : Area) (message : Text) : Logged Unit :=
  modify (· ++ [⟨level, area, message⟩])

/-- A result that needs no lines. -/
def ofExcept {α : Type} (result : Except Fault α) : Logged α := ExceptT.mk (pure result)

/-- The outcome of a computation and the lines that it wrote. -/
def outcome {α : Type} (x : Logged α) : Except Fault α × List LogLine :=
  StateT.run (ExceptT.run x) []

end Logged

end ConversionRelay
