import BuildCapture.Digest.Blake3
import BuildCapture.Hash.View

/-!
# Invocation hashes

The content hash and the identity hash of an invocation are the BLAKE3 digests
of the JSON documents of its two views.
-/

namespace BuildCapture.InvocationRecord

/-- The digest of the literal inputs; every module has to have a digest. -/
def contentHash
    (record : InvocationRecord)
    (digest : ModuleId → Except Failure Digest) :
    Except Failure Digest :=
  match moduleDigests digest (record.references.map ReferenceEntry.module) with
  | .error failure => .error failure
  | .ok references =>
    match moduleDigests digest (record.analyzers.map AnalyzerEntry.module) with
    | .error failure => .error failure
    | .ok analyzers => .ok (blake3 (ContentView.ofRecord record references analyzers).toTree.render)

/-- The digest of the view that does not depend on the machine. -/
def identityHash
    (record : InvocationRecord) :
    Digest :=
  blake3 (IdentityView.ofRecord record).toTree.render

end BuildCapture.InvocationRecord
