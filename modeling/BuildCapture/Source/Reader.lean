import BuildCapture.Source

/-!
# Reading in pieces

A reader hands the octets of a source out piece by piece, each time at least
one octet, and meets the fault of the source behind the last piece.  Where the
pieces are cut is up to the reader: two readers of one source may cut it
differently.
-/

namespace BuildCapture

/-- The pieces in which octets are handed out, and the fault that ends them early. -/
structure Reader where
  pieces : List Octets
  fault : Option FileFault := none
  /-- An empty piece would be the end. -/
  filled : [] ∉ pieces
deriving DecidableEq, Repr

/-- No block of data is empty. -/
theorem Octets.nil_notMem_blocks
    (size : Nat)
    (data : Octets) :
    [] ∉ blocks size data := by
  fun_induction blocks size data with
  | case1 => exact List.not_mem_nil
  | case2 octet rest ih =>
    intro member
    rcases List.mem_cons.1 member with first | later
    · cases first
    · exact ih later

namespace Reader

/-- What a reader yields, however it is cut. -/
def source
    (reader : Reader) :
    Source where
  data := reader.pieces.flatten
  fault := reader.fault

/-- The greatest length of a piece that is asked of a source at once. -/
def pieceLength : Nat := 8192

/-- A reader that hands the octets of a source out in pieces of the greatest length. -/
def ofSource
    (source : Source) :
    Reader where
  pieces := Octets.blocks pieceLength source.data
  fault := source.fault
  filled := Octets.nil_notMem_blocks pieceLength source.data

/-- A reader of a source yields what the source yields. -/
@[simp]
theorem source_ofSource
    (source : Source) :
    (ofSource source).source = source := by
  rw [Reader.source, ofSource, Octets.flatten_blocks]

/-- A reader without a fault yields all its octets. -/
theorem readAll_source
    {reader : Reader}
    (faultless : reader.fault = none) :
    reader.source.readAll = .ok reader.pieces.flatten := by
  rw [Source.readAll, source, faultless]

end Reader

end BuildCapture
