import BuildCapture.Digest.Crc32
import BuildCapture.FileSystem.Handle
import BuildCapture.Zstd.Packer

/-!
# Buffered output

Between a compressor and the file there is a buffer.  Octets are collected in
it and reach the file when the buffer is full, when it is flushed, and also
when the sink is given up.  So after a copy that broke off, the file may hold
any part of what was copied.  The sink counts the octets and computes their
checksum before they are in the file.
-/

namespace BuildCapture.Container

/-- A buffer in front of a file. -/
structure Sink where
  handle : FileSystem.Handle
  buffer : Octets := []
  /-- The register of the checksum of all octets taken in. -/
  register : UInt32 := 0xFFFFFFFF
  /-- The number of all octets taken in. -/
  written : Nat := 0
deriving DecidableEq, Repr

namespace Sink

/-- How many octets the buffer can hold. -/
def capacity : Nat := 8192

/-- What writing has led to, given the octets that did not fit into the file. -/
def outcome : Octets → Except FileFault Unit
  | [] => .ok ()
  | _ :: _ => .error .tooLarge

/-- Moves the octets of the buffer to the file; those that do not fit stay. -/
def flush
    (sink : Sink) :
    Sink × Except FileFault Unit :=
  match sink.handle.write sink.buffer with
  | (handle, left) => ({ sink with handle, buffer := left }, outcome left)

/-- The sink that has taken in more octets. -/
def count
    (sink : Sink)
    (data : Octets) :
    Sink :=
  { sink with
    register := data.foldl Crc32.absorb sink.register
    written := sink.written + data.length }

/-- Takes octets in behind an empty buffer; as many as a buffer holds go to the file at once. -/
def putBehind
    (sink : Sink)
    (data : Octets) :
    Sink × Except FileFault Unit :=
  if data.length < capacity then
    ({ sink.count data with buffer := sink.buffer ++ data }, .ok ())
  else
    match sink.handle.write data with
    | (handle, left) => ({ sink.count data with handle }, outcome left)

/-- Takes octets in; the buffer is flushed before it would get too full. -/
def put
    (sink : Sink)
    (data : Octets) :
    Sink × Except FileFault Unit :=
  if sink.buffer.length + data.length ≤ capacity then
    sink.putBehind data
  else
    match sink.flush with
    | (sink, .error fault) => (sink, .error fault)
    | (sink, .ok ()) => sink.putBehind data

/-- The file after the sink has been given up, with as much of the buffer as fits. -/
def close
    (sink : Sink) :
    FileSystem.Handle :=
  sink.flush.1.handle

/--
Copies pieces through a compressor into a sink and flushes it.  A fault of the
reader comes behind its last piece; whatever was handed out before a failure has
been taken in.
-/
def copy
    (packing : Zstd.Packing)
    (fault : Option FileFault)
    (sink : Sink)
    (taken : List Octets) :
    List Octets → Sink × Except FileFault Unit
  | [] =>
    match fault with
    | some fault => (sink, .error fault)
    | none =>
      match packing.last? taken with
      | none => (sink, .error .uncompressed)
      | some out =>
        match sink.put out with
        | (sink, .error fault) => (sink, .error fault)
        | (sink, .ok ()) => sink.flush
  | piece :: pieces =>
    match packing.next? taken piece with
    | none => (sink, .error .uncompressed)
    | some out =>
      match sink.put out with
      | (sink, .error fault) => (sink, .error fault)
      | (sink, .ok ()) => copy packing fault sink (taken ++ [piece]) pieces

end Sink

end BuildCapture.Container
