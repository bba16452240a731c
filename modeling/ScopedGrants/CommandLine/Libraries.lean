import ScopedGrants.Files
import ScopedGrants.Text.Digits

/-!
What the program stands on: the runtime that it starts before anything else, and the library that
takes in the filters of its log. All that the program knows of them is what comes of a call.
-/

namespace ScopedGrants.CommandLine

/-- What comes of the filter for the log that is looked for in the variables. -/
inductive FilterOutcome where
  | accepted
  /-- There is none, or it is malformed. -/
  | refused
  | panicked
deriving DecidableEq, Repr

structure Libraries where
  /-- The runtime comes up under the variables. -/
  starts : Environment → Bool
  filterOfVariables : Environment → FilterOutcome
  /-- A level for the log is taken in as a filter, of which only the well-formed parts count. It is
  never refused, but the library may panic. -/
  acceptsLevel : String → Bool

def workersVariable : String := "TOKIO_WORKER_THREADS"

def filterVariable : String := "RUST_LOG"

/-- The runtime works on a positive number of threads. The number is one of 64 bits, which a plus
sign may precede. -/
def isWorkerCount (value : ByteArray) : Bool :=
  match String.fromUTF8? value with
  | none => false
  | some text =>
    let digits := match text.toList with
      | '+' :: digits => digits
      | digits => digits
    let count := Text.ofDigits 10 digits
    !digits.isEmpty && digits.all Char.isDigit && count ≠ 0 && count < UInt64.size

/-- Every filter is taken in, and the runtime minds nothing but the number of its threads. -/
def Libraries.lenient : Libraries where
  starts environment := (environment.lookup workersVariable).all isWorkerCount
  filterOfVariables environment :=
    if (environment.lookup filterVariable).isSome then .accepted else .refused
  acceptsLevel _ := true

end ScopedGrants.CommandLine
