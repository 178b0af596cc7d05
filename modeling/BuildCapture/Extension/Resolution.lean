import BuildCapture.Configuration

/-!
# Resolving modules in two tiers

An isolated session first asks the host toolchain for a module: a fixed set of
names, each with one version.  Only a name that the host lacks is looked up
among the session's own modules, where the newest wins.  A request for a
version that the host has only in an older one is a conflict, never a silent
downgrade.
-/

namespace BuildCapture

/-- Where a requested module comes from. -/
inductive Resolution where
  /-- The host serves it in this version. -/
  | host (version : ModuleVersion)
  /-- The session serves it from this module. -/
  | session (id : ModuleId)
deriving DecidableEq, Repr

/-- A module that a session offers under its simple name. -/
structure Offer where
  name : String
  version : ModuleVersion
  id : ModuleId
deriving DecidableEq, Repr

namespace Offer

/-- Whether an offer gives way to another: it is older, or equally old with the smaller identity. -/
def yieldsTo
    (left right : Offer) :
    Bool :=
  left.version.precedes right.version ||
    (left.version == right.version && decide (left.id.octets < right.id.octets))

/-- The better of two offers. -/
def better
    (left right : Offer) :
    Offer :=
  if left.yieldsTo right then right else left

/-- The best of several offers. -/
def best? : List Offer → Option Offer
  | [] => none
  | first :: rest => some (rest.foldl better first)

end Offer

/-- What a module offers under its simple name. -/
def ModuleInfo.offer
    (info : ModuleInfo) :
    Offer :=
  ⟨info.name, info.version, info.id⟩

/-- What a session can resolve modules from. -/
structure LoadContext where
  host : HostModules
  offers : List Offer := []
deriving DecidableEq, Repr

namespace LoadContext

/-- Offers a module, unless the same identity is already offered under its name. -/
def offer
    (context : LoadContext)
    (info : ModuleInfo) :
    LoadContext :=
  if context.offers.any fun known => known.name == info.name && known.id == info.id then
    context
  else
    { context with offers := context.offers ++ [⟨info.name, info.version, info.id⟩] }

/-- The best offer under a name in at least some version. -/
def offered?
    (context : LoadContext)
    (name : String)
    (requested : ModuleVersion) :
    Option Offer :=
  Offer.best? (context.offers.filter fun offer =>
    offer.name == name && offer.version.covers requested)

/-- Where a module of this name in at least this version comes from. -/
def resolve
    (context : LoadContext)
    (name : String)
    (requested : ModuleVersion) :
    Except Failure Resolution :=
  match context.host.get? name with
  | some available =>
    if available.covers requested then
      .ok (.host available)
    else
      .error (.versionConflict name requested available)
  | none =>
    match context.offered? name requested with
    | some offer => .ok (.session offer.id)
    | none => .error (.notFound (name ++ " >= " ++ requested.text))

/-- Where each of several modules comes from, or the first failure. -/
def resolveAll
    (context : LoadContext) : List ModuleRef → Except Failure (List Resolution)
  | [] => .ok []
  | reference :: rest =>
    match context.resolve reference.name reference.version with
    | .error failure => .error failure
    | .ok first =>
      match context.resolveAll rest with
      | .error failure => .error failure
      | .ok others => .ok (first :: others)

/-- Where each dependency of a module comes from, or the first failure. -/
def resolveDependencies
    (context : LoadContext)
    (info : ModuleInfo) :
    Except Failure (List Resolution) :=
  context.resolveAll info.dependencies

end LoadContext

end BuildCapture
