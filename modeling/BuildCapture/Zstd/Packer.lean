import BuildCapture.Zstd.Encoder

/-!
# Compressing in pieces

A compressor that is fed piece by piece hands something out after each piece
and the rest at the end.  It may keep octets back for as long as it likes, and
it may fail at any piece.  Only what it hands out altogether has to be a frame
for the data.
-/

namespace BuildCapture.Zstd

/-- What a compressor hands out for a piece behind the ones it has taken, and at the end. -/
structure Packing where
  next? : (taken : List Octets) → (piece : Octets) → Option Octets
  last? : (taken : List Octets) → Option Octets

namespace Packing

/-- All that is handed out from now on, if nothing fails. -/
def rest?
    (packing : Packing)
    (taken : List Octets) : List Octets → Option Octets
  | [] => packing.last? taken
  | piece :: pieces =>
    match packing.next? taken piece with
    | none => none
    | some out => (packing.rest? (taken ++ [piece]) pieces).map (out ++ ·)

/-- All that is handed out for some pieces, if nothing fails. -/
def whole?
    (packing : Packing)
    (pieces : List Octets) :
    Option Octets :=
  packing.rest? [] pieces

/-- Hands every piece out as it is. -/
def plain : Packing where
  next? _ piece := some piece
  last? _ := some []

/-- Keeps everything back until the end. -/
def deferred
    (compress? : Octets → Option Octets) :
    Packing where
  next? _ _ := some []
  last? taken := compress? taken.flatten

theorem rest?_plain
    (taken pieces : List Octets) :
    plain.rest? taken pieces = some pieces.flatten := by
  induction pieces generalizing taken with
  | nil => rfl
  | cons piece pieces ih =>
    show (plain.rest? (taken ++ [piece]) pieces).map (piece ++ ·) = _
    rw [ih]
    rfl

/-- Nothing is lost or added where pieces are handed out as they are. -/
@[simp]
theorem whole?_plain
    (pieces : List Octets) :
    plain.whole? pieces = some pieces.flatten :=
  rest?_plain [] pieces

theorem rest?_deferred
    (compress? : Octets → Option Octets)
    (taken pieces : List Octets) :
    (deferred compress?).rest? taken pieces = compress? (taken ++ pieces).flatten := by
  induction pieces generalizing taken with
  | nil =>
    rw [List.append_nil]
    rfl
  | cons piece pieces ih =>
    show ((deferred compress?).rest? (taken ++ [piece]) pieces).map ([] ++ ·) = _
    rw [ih, List.append_assoc]
    exact Option.map_id_apply

/-- What is kept back until the end is compressed as a whole. -/
@[simp]
theorem whole?_deferred
    (compress? : Octets → Option Octets)
    (pieces : List Octets) :
    (deferred compress?).whole? pieces = compress? pieces.flatten :=
  rest?_deferred compress? [] pieces

end Packing

/-- A way of compressing piece by piece that decompression undoes. -/
class Packer where
  packing : (level : Int) → Packing
  encodes :
    ∀ {level : Int} {pieces : List Octets} {packed : Octets},
      (packing level).whole? pieces = some packed → Encodes packed pieces.flatten

/-- An encoder can be fed piece by piece if the pieces are kept back until the end. -/
instance [Encoder] : Packer where
  packing level := .deferred (Encoder.stream? level)
  encodes packs := Encoder.stream?_encodes (Packing.whole?_deferred _ _ ▸ packs)

/-- However data is cut, what is handed out for its pieces is what an encoder makes of it. -/
def Packer.Agrees
    [Encoder]
    [Packer] :
    Prop :=
  ∀ level pieces, (Packer.packing level).whole? pieces = Encoder.stream? level pieces.flatten

/-- An encoder agrees with the packer that keeps all pieces back. -/
theorem Packer.agrees_deferred
    [Encoder] :
    Packer.Agrees :=
  fun level => Packing.whole?_deferred (Encoder.stream? level)

end BuildCapture.Zstd
