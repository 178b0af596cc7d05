import BuildCapture.Failure.FileFault
import BuildCapture.Octets

/-!
# Sources of input

What reading a file or a stream to its end yields: some octets, and possibly a
fault after the last of them.
-/

namespace BuildCapture

/-- The octets that can be read, and the fault that ends them early. -/
structure Source where
  data : Octets
  fault : Option FileFault := none
deriving DecidableEq, Repr

namespace Source

/-- A source that yields all its octets. -/
def ofOctets
    (data : Octets) :
    Source where
  data := data

/-- All octets of a source, unless it breaks off. -/
def readAll
    (source : Source) :
    Except FileFault Octets :=
  match source.fault with
  | none => .ok source.data
  | some fault => .error fault

end Source

end BuildCapture
