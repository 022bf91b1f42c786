import PrependList.Print
import PrependList.Writer.Script

/-!
# Observers

Ready-made visitors that use nothing of the host: each keeps what it has seen so far in a form of
its own.
-/

namespace PrependList

/-- What to keep of the values. -/
inductive Observer where
  | collect
  | count
  | sum
  | hash
  /-- Print each value on a scripted writer, whatever came of those before. -/
  | print (script : Script)
  deriving DecidableEq, Repr

/-- What has been seen. -/
inductive Observation where
  | values (values : Array Int32)
  | count (count : Nat)
  | sum (sum : Int)
  | hash (hash : UInt32)
  | prints (results : Array (Except IoError Unit)) (out : Outlet Script)

/-- Before the first value. -/
def Observer.start : Observer → Observation
  | collect => .values #[]
  | count => .count 0
  | sum => .sum 0
  | hash => .hash 0
  | print script => .prints #[] (Outlet.fresh script)

/-- After one more value. A hash is a polynomial in 31 over the values as unsigned words. -/
def Observation.see : Observation → Int32 → Observation
  | values seen, value => .values (seen.push value)
  | count seen, _ => .count (seen + 1)
  | sum seen, value => .sum (seen + value.toInt)
  | hash seen, value => .hash (seen * 31 + value.toUInt32)
  | prints results out, value =>
    let (result, out) := Print.int Script.writer out value
    .prints (results.push result) out

end PrependList
