import GridTable.Failure.Error
import GridTable.Logging.Record

/-! Computations that keep a journal.
What was read and what was logged stays in order, up to the point where a computation ended or
failed.
-/

namespace GridTable

inductive Event where
  | coordinateRead (name : String)
  | pointsRead (field : String) (count : Nat)
  | logged (record : LogRecord)
  deriving Repr, DecidableEq

/-- The events of a computation and how it ended. -/
structure Traced (α : Type) where
  events : List Event
  outcome : Except Failure α

namespace Traced

variable {α β : Type}

/-- The second computation goes on with the answer of the first, if there is one. -/
def andThen (first : Traced α) (next : α → Traced β) : Traced β :=
  match first.outcome with
  | .ok answer =>
      let rest := next answer
      ⟨first.events ++ rest.events, rest.outcome⟩
  | .error failure => ⟨first.events, .error failure⟩

instance : Monad Traced where
  pure answer := ⟨[], .ok answer⟩
  bind := andThen

/-- A computation without events. -/
def ofExcept (outcome : Except Failure α) : Traced α :=
  ⟨[], outcome⟩

instance : MonadLift (Except Failure) Traced where
  monadLift := ofExcept

/-- The outcome as an answer: the computation after it sees a failure and goes on. -/
def attempt (run : Traced α) : Traced (Except Failure α) :=
  ⟨run.events, .ok run.outcome⟩

def note (event : Event) : Traced Unit :=
  ⟨[event], .ok ()⟩

def log (level : Int) (topic message : String) : Traced Unit :=
  note (.logged (.plain level (LogRecord.loggerOf topic) message))

def debug (topic message : String) : Traced Unit :=
  log LogRecord.debugLevel topic message

def info (topic message : String) : Traced Unit :=
  log LogRecord.infoLevel topic message

def fail (error : Error) : Traced α :=
  ⟨[], .error (.error error)⟩

theorem bind_ok {first : Traced α} {answer : α} (next : α → Traced β)
    (h : first.outcome = .ok answer)
    : first >>= next = ⟨first.events ++ (next answer).events, (next answer).outcome⟩ := by
  simp [bind, andThen, h]

theorem bind_error {first : Traced α} {failure : Failure} (next : α → Traced β)
    (h : first.outcome = .error failure)
    : first >>= next = ⟨first.events, .error failure⟩ := by
  simp [bind, andThen, h]

instance : LawfulMonad Traced :=
  LawfulMonad.mk' Traced
    (by
      rintro α ⟨events, _ | _⟩ <;> simp [Functor.map, andThen])
    (by
      intro α β answer next
      simp [pure, bind, andThen])
    (by
      rintro α β γ ⟨events, _ | answer⟩ second third
      · simp [bind, andThen]
      · simp only [bind, andThen]
        cases (second answer).outcome <;> simp)

end Traced

end GridTable
