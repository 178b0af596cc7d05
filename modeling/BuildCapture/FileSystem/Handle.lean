import BuildCapture.FileSystem

/-!
# Open files

A handle writes into one file, each time behind what it wrote before.  A file
can not become longer than `FileSystem.maximalFile`, so a write may leave
octets over; what did fit is in the file all the same.
-/

namespace BuildCapture.FileSystem

/-- A file that is open for writing, and the place where the next octets go. -/
structure Handle where
  files : FileSystem
  identity : Nat
  position : Nat
deriving DecidableEq, Repr

namespace Handle

/-- How many octets still fit into the file. -/
def room
    (handle : Handle) :
    Nat :=
  maximalFile - handle.position

/-- Writes as many octets as fit into the file and returns those that do not. -/
def write
    (handle : Handle)
    (data : Octets) :
    Handle × Octets :=
  let part := data.take handle.room
  ({ handle with
      files := handle.files.writeAt handle.identity handle.position part
      position := handle.position + part.length },
    data.drop handle.room)

/-- Cuts the file to a length, or fills it up, and goes to its end. -/
def cut
    (handle : Handle)
    (length : Nat) :
    Handle :=
  { handle with
    files := handle.files.resize handle.identity length
    position := length }

end Handle

end BuildCapture.FileSystem
