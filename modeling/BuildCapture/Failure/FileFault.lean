/-!
# File faults

Why the file system, or a source of input, refused an operation.
-/

namespace BuildCapture

/-- What went wrong with a file. -/
inductive FileFault where
  | notFound
  | busy
  | exists
  | noDevice
  | notDirectory
  | isDirectory
  /-- A file would become longer than files can be. -/
  | tooLarge
  | nameTooLong
  | notEmpty
  | strayNul
  /-- A compressed stream broke off or was damaged. -/
  | brokenStream
  /-- Octets could not be compressed. -/
  | uncompressed
  /-- A source of input failed with its own text. -/
  | source (text : String)
deriving DecidableEq, Repr

/-- What a file fault is reported as. -/
def FileFault.message : FileFault → String
  | .notFound => "No such file or directory (os error 2)"
  | .busy => "Device or resource busy (os error 16)"
  | .exists => "File exists (os error 17)"
  | .noDevice => "No such device (os error 19)"
  | .notDirectory => "Not a directory (os error 20)"
  | .isDirectory => "Is a directory (os error 21)"
  | .tooLarge => "File too large (os error 27)"
  | .nameTooLong => "File name too long (os error 36)"
  | .notEmpty => "Directory not empty (os error 39)"
  | .strayNul => "file name contained an unexpected NUL byte"
  | .brokenStream => "Data corruption detected"
  | .uncompressed => "Allocation error : not enough memory"
  | .source text => text

end BuildCapture
