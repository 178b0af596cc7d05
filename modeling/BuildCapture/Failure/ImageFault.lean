import BuildCapture.Failure.FileFault
import BuildCapture.Failure.Malformation

/-!
# Image faults

Why octets are not a well-formed module image.
-/

namespace BuildCapture

/-- What is wrong with a module image. -/
inductive ImageFault where
  | badMagic (magic : UInt32)
  | unsupportedVersion (version : UInt16)
  | truncated
  | metadataTooLarge (length : UInt32)
  | checksumMismatch
  | malformedMetadata
  | unreadable (fault : FileFault)
deriving DecidableEq, Repr

/-- What an image fault is reported as. -/
def ImageFault.message : ImageFault → String
  | .badMagic magic => "not a module image (magic " ++ Malformation.hexWord magic ++ ")"
  | .unsupportedVersion version =>
    "unsupported module header version " ++ Decimal.text version.toNat
  | .truncated => "module image truncated"
  | .metadataTooLarge length =>
    "module metadata too large (" ++ Decimal.text length.toNat ++ " bytes)"
  | .checksumMismatch => "module metadata crc mismatch"
  | .malformedMetadata => "module metadata malformed"
  | .unreadable fault => "io error: " ++ fault.message

end BuildCapture
