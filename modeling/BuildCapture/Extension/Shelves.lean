import BuildCapture.Extension.Resolution
import BuildCapture.Record.OrderedMap

/-!
# Shelves

The modules of a session can be kept on shelves, one for each simple name and
each in ascending order.  A further module is put at the end of the shelf of its
name, which is then sorted again.  A request is met by going through a shelf from
its end, up to the first module that is new enough.
-/

namespace BuildCapture

/-- Whether an offer may stand before another on a shelf. -/
def Offer.mayPrecede
    (left right : Offer) :
    Bool :=
  !right.yieldsTo left

/-- What a session can resolve modules from, kept on shelves. -/
structure Shelves where
  host : HostModules
  byName : OrderedMap (List Offer) := .empty
deriving DecidableEq, Repr

namespace Shelves

/-- The shelf of a name. -/
def shelf
    (shelves : Shelves)
    (name : String) :
    List Offer :=
  (shelves.byName.get? name).getD []

/-- Offers a module, unless the same identity is already on the shelf of its name. -/
def offer
    (shelves : Shelves)
    (info : ModuleInfo) :
    Shelves :=
  if (shelves.shelf info.name).any fun known => known.id == info.id then
    shelves
  else
    { shelves with
      byName := shelves.byName.insert info.name
        ((shelves.shelf info.name ++ [info.offer]).mergeSort Offer.mayPrecede) }

/-- The last offer on the shelf of a name that is in at least some version. -/
def offered?
    (shelves : Shelves)
    (name : String)
    (requested : ModuleVersion) :
    Option Offer :=
  (shelves.shelf name).reverse.find? fun offer => offer.version.covers requested

/-- Where a module of this name in at least this version comes from. -/
def resolve
    (shelves : Shelves)
    (name : String)
    (requested : ModuleVersion) :
    Except Failure Resolution :=
  match shelves.host.get? name with
  | some available =>
    if available.covers requested then
      .ok (.host available)
    else
      .error (.versionConflict name requested available)
  | none =>
    match shelves.offered? name requested with
    | some offer => .ok (.session offer.id)
    | none => .error (.notFound (name ++ " >= " ++ requested.text))

end Shelves

end BuildCapture
