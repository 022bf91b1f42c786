import PrependList.Log.Event

/-!
# Loggers

A logger listens while things happen and decides about each event when it comes, by the threshold
that is set at that moment. The threshold can be set between any two events. Some of that is done by
the program that the logger listens to, and the rest by others, a writer in the middle of a
demonstration among them; of those a logger knows the plan.
-/

namespace PrependList

structure Logger where
  threshold : Level
  /-- What others set the threshold to before the event with this number, if they do. -/
  others : Nat → Option Level
  /-- The number of events that came. -/
  heard : Nat
  /-- The events that were kept. -/
  kept : List Event

namespace Logger

/-- Nothing was heard yet. -/
def fresh (threshold : Level) (others : Nat → Option Level) : Logger := ⟨threshold, others, 0, []⟩

/-- Whatever is set in between, at each event the threshold is the highest there is. -/
def full : Logger := fresh .trace fun _ => some .trace

def set (logger : Logger) (threshold : Level) : Logger := { logger with threshold }

/-- The threshold for the next event. -/
def current (logger : Logger) : Level :=
  (logger.others logger.heard).getD logger.threshold

/-- One event comes. -/
def hear (logger : Logger) (event : Event) : Logger :=
  { logger with
    threshold := logger.current
    heard := logger.heard + 1
    kept := if logger.current.admits event.level then logger.kept ++ [event] else logger.kept }

/-- The events come one after another. -/
def hearAll (logger : Logger) (events : List Event) : Logger := events.foldl hear logger

@[simp] theorem kept_hear (logger : Logger) (event : Event) :
    (logger.hear event).kept = logger.kept ++ logger.current.keep [event] := by
  cases hadmits : logger.current.admits event.level <;> simp [hear, Level.keep, hadmits]

end Logger

end PrependList
