/-!
# Levels

How much of what happens is worth a line. The levels are ordered by rank, and a threshold admits
the events of its own rank and below.
-/

namespace PrependList

inductive Level where
  | off
  | error
  | warn
  | info
  | debug
  | trace
  deriving DecidableEq, Repr, Inhabited

namespace Level

def rank : Level → Nat
  | off => 0
  | error => 1
  | warn => 2
  | info => 3
  | debug => 4
  | trace => 5

/-- Whether an event of level `level` is kept under the threshold. -/
def admits (threshold level : Level) : Bool := level.rank ≤ threshold.rank

/-- The name of a level, right-aligned in five columns. -/
def label : Level → String
  | off => "  OFF"
  | error => "ERROR"
  | warn => " WARN"
  | info => " INFO"
  | debug => "DEBUG"
  | trace => "TRACE"

/-- The threshold for a number of verbose flags: three are as many as make a difference. -/
def ofVerbosity : Nat → Level
  | 0 => warn
  | 1 => info
  | 2 => debug
  | _ => trace

theorem admits_mono {s t l : Level} (h : s.rank ≤ t.rank) (hs : s.admits l = true) :
    t.admits l = true := by
  simp only [admits, decide_eq_true_eq] at hs ⊢
  omega

/-- Each of the first three flags raises the threshold by one rank, and later ones do not. -/
theorem rank_ofVerbosity (count : Nat) : (ofVerbosity count).rank = 2 + min 3 count := by
  match count with
  | 0 | 1 | 2 => rfl
  | count + 3 =>
    rw [Nat.min_eq_left (Nat.le_add_left 3 count)]
    rfl

end Level

end PrependList
