import BuildCapture.Module.Id

/-!
# Corruption

Which promise of a container or an archive its octets break.
-/

namespace BuildCapture

/-- The JSON documents of an archive. -/
inductive Document where
  | record
  | manifest
  | moduleIndex
  | diagnostics
deriving DecidableEq, Repr

/-- What a document is called in a report. -/
def Document.name : Document → String
  | .record => "record"
  | .manifest => "manifest"
  | .moduleIndex => "module index"
  | .diagnostics => "diagnostics"

/-- What is damaged in a container or an archive. -/
inductive Corruption where
  | shortContainer
  | unsealed
  | directoryOverflow
  | directoryMisplaced
  | directoryChecksum
  | shortDirectoryEntry
  | shortEntryName
  | entryNameNotText
  | trailingDirectory
  | entryOverflow
  | entryOutOfBounds (name : String)
  | duplicateEntry
  | entryChecksum (name : String)
  | entryLength (name : String)
  | compression
  | undecodable (document : Document)
  | malformed (document : Document)
  | unversionedRecord
  | unversionedManifest
  | missingEntry (name : String)
  | unstoredModule (id : ModuleId)
deriving DecidableEq, Repr

/-- What a corruption is reported as. -/
def Corruption.message : Corruption → String
  | .shortContainer => "container truncated"
  | .unsealed => "container trailer missing (archive was not sealed)"
  | .directoryOverflow => "directory range overflow"
  | .directoryMisplaced => "directory range does not match file size"
  | .directoryChecksum => "directory crc mismatch"
  | .shortDirectoryEntry => "directory entry truncated"
  | .shortEntryName => "directory entry name truncated"
  | .entryNameNotText => "directory entry name is not utf-8"
  | .trailingDirectory => "trailing bytes after directory"
  | .entryOverflow => "entry range overflow"
  | .entryOutOfBounds name => "entry " ++ name ++ " out of bounds"
  | .duplicateEntry => "duplicate directory entry"
  | .entryChecksum name => "entry " ++ name ++ " crc mismatch"
  | .entryLength name => "entry " ++ name ++ " length mismatch"
  | .compression => "zstd"
  | .undecodable document => document.name ++ " undecodable"
  | .malformed document => document.name ++ " malformed"
  | .unversionedRecord => "record has no version"
  | .unversionedManifest => "manifest has no format version"
  | .missingEntry name => "missing " ++ name
  | .unstoredModule id => "module " ++ id.hex ++ " listed but not stored"

end BuildCapture
