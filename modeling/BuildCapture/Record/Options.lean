import BuildCapture.Record.OrderedMap

/-!
# Compiler options

The option bundle of an invocation.  Its schema belongs to the compiler; the
numeric fields are small enumerations that are stored without interpreting
them.  Every field has a default, so a stored bundle only has to mention what
differs.
-/

namespace BuildCapture

open Json

/-! ## Compilation -/

/-- Options of the compilation itself. -/
structure CompilationOptions where
  outputKind : UInt8 := 0
  optimizationLevel : UInt8 := 0
  platform : UInt8 := 0
  moduleName : Option String := none
  mainTypeName : Option String := none
  scriptClassName : Option String := none
  allowUnsafe : Bool := false
  checkOverflow : Bool := false
  concurrentBuild : Bool := false
  deterministic : Bool := false
  nullableContext : UInt8 := 0
  warningLevel : UInt8 := 0
  generalDiagnosticOption : UInt8 := 0
  specificDiagnosticOptions : OrderedMap UInt8 := .empty
  cryptoKeyContainer : Option String := none
  cryptoKeyFile : Option String := none
  delaySign : Option Bool := none
  publicSign : Bool := false
  usings : List String := []
deriving DecidableEq, Repr

namespace CompilationOptions

/-- The stored names of the fields, in order. -/
def fieldNames : List String := [
  "output_kind", "optimization_level", "platform", "module_name", "main_type_name",
  "script_class_name", "allow_unsafe", "check_overflow", "concurrent_build", "deterministic",
  "nullable_context", "warning_level", "general_diagnostic_option",
  "specific_diagnostic_options", "crypto_key_container", "crypto_key_file", "delay_sign",
  "public_sign", "usings"]

/-- The options as a tree. -/
def toTree
    (options : CompilationOptions) :
    Tree :=
  .ofFields [
    ("output_kind", .ofNat options.outputKind.toNat),
    ("optimization_level", .ofNat options.optimizationLevel.toNat),
    ("platform", .ofNat options.platform.toNat),
    ("module_name", .ofOption .ofText options.moduleName),
    ("main_type_name", .ofOption .ofText options.mainTypeName),
    ("script_class_name", .ofOption .ofText options.scriptClassName),
    ("allow_unsafe", .bool options.allowUnsafe),
    ("check_overflow", .bool options.checkOverflow),
    ("concurrent_build", .bool options.concurrentBuild),
    ("deterministic", .bool options.deterministic),
    ("nullable_context", .ofNat options.nullableContext.toNat),
    ("warning_level", .ofNat options.warningLevel.toNat),
    ("general_diagnostic_option", .ofNat options.generalDiagnosticOption.toNat),
    ("specific_diagnostic_options",
      options.specificDiagnosticOptions.toTree fun severity => .ofNat severity.toNat),
    ("crypto_key_container", .ofOption .ofText options.cryptoKeyContainer),
    ("crypto_key_file", .ofOption .ofText options.cryptoKeyFile),
    ("delay_sign", .ofOption .bool options.delaySign),
    ("public_sign", .bool options.publicSign),
    ("usings", .ofList .ofText options.usings)]

/-- The options a tree holds. -/
def ofTree?
    (tree : Tree) :
    Option CompilationOptions := do
  let fields ← tree.fields? fieldNames
  return {
    outputKind := ← fields.defaulted "output_kind" Tree.uint8? 0
    optimizationLevel := ← fields.defaulted "optimization_level" Tree.uint8? 0
    platform := ← fields.defaulted "platform" Tree.uint8? 0
    moduleName := ← fields.defaulted "module_name" (Tree.option? Tree.text?) none
    mainTypeName := ← fields.defaulted "main_type_name" (Tree.option? Tree.text?) none
    scriptClassName := ← fields.defaulted "script_class_name" (Tree.option? Tree.text?) none
    allowUnsafe := ← fields.defaulted "allow_unsafe" Tree.bool? false
    checkOverflow := ← fields.defaulted "check_overflow" Tree.bool? false
    concurrentBuild := ← fields.defaulted "concurrent_build" Tree.bool? false
    deterministic := ← fields.defaulted "deterministic" Tree.bool? false
    nullableContext := ← fields.defaulted "nullable_context" Tree.uint8? 0
    warningLevel := ← fields.defaulted "warning_level" Tree.uint8? 0
    generalDiagnosticOption := ← fields.defaulted "general_diagnostic_option" Tree.uint8? 0
    specificDiagnosticOptions := ←
      fields.defaulted "specific_diagnostic_options" (OrderedMap.ofTree? Tree.uint8?) .empty
    cryptoKeyContainer := ← fields.defaulted "crypto_key_container" (Tree.option? Tree.text?) none
    cryptoKeyFile := ← fields.defaulted "crypto_key_file" (Tree.option? Tree.text?) none
    delaySign := ← fields.defaulted "delay_sign" (Tree.option? Tree.bool?) none
    publicSign := ← fields.defaulted "public_sign" Tree.bool? false
    usings := ← fields.defaulted "usings" (Tree.list? Tree.text?) [] }

end CompilationOptions

/-! ## Parsing -/

/-- Options of the parser. -/
structure ParseOptions where
  languageVersion : UInt16 := 0
  documentationMode : UInt8 := 0
  sourceKind : UInt8 := 0
  preprocessorSymbols : List String := []
  features : OrderedMap String := .empty
deriving DecidableEq, Repr

namespace ParseOptions

/-- The stored names of the fields, in order. -/
def fieldNames : List String :=
  ["language_version", "documentation_mode", "source_kind", "preprocessor_symbols", "features"]

/-- The options as a tree. -/
def toTree
    (options : ParseOptions) :
    Tree :=
  .ofFields [
    ("language_version", .ofNat options.languageVersion.toNat),
    ("documentation_mode", .ofNat options.documentationMode.toNat),
    ("source_kind", .ofNat options.sourceKind.toNat),
    ("preprocessor_symbols", .ofList .ofText options.preprocessorSymbols),
    ("features", options.features.toTree .ofText)]

/-- The options a tree holds. -/
def ofTree?
    (tree : Tree) :
    Option ParseOptions := do
  let fields ← tree.fields? fieldNames
  return {
    languageVersion := ← fields.defaulted "language_version" Tree.uint16? 0
    documentationMode := ← fields.defaulted "documentation_mode" Tree.uint8? 0
    sourceKind := ← fields.defaulted "source_kind" Tree.uint8? 0
    preprocessorSymbols := ← fields.defaulted "preprocessor_symbols" (Tree.list? Tree.text?) []
    features := ← fields.defaulted "features" (OrderedMap.ofTree? Tree.text?) .empty }

end ParseOptions

/-! ## Emission -/

/-- Options of the emitted module. -/
structure EmitOptions where
  debugInformationFormat : UInt8 := 0
  checksumAlgorithm : UInt8 := 0
  emitMetadataOnly : Bool := false
  includePrivateMembers : Bool := false
  highEntropyVirtualAddressSpace : Bool := false
  fileAlignment : UInt32 := 0
  baseAddress : UInt64 := 0
  pdbFilePath : Option String := none
  outputNameOverride : Option String := none
  subsystemVersion : Option String := none
  runtimeMetadataVersion : Option String := none
  defaultSourceFileEncoding : Option String := none
  instrumentationKinds : List UInt8 := []
deriving DecidableEq, Repr

namespace EmitOptions

/-- The stored names of the fields, in order. -/
def fieldNames : List String := [
  "debug_information_format", "checksum_algorithm", "emit_metadata_only",
  "include_private_members", "high_entropy_virtual_address_space", "file_alignment",
  "base_address", "pdb_file_path", "output_name_override", "subsystem_version",
  "runtime_metadata_version", "default_source_file_encoding", "instrumentation_kinds"]

/-- The options as a tree. -/
def toTree
    (options : EmitOptions) :
    Tree :=
  .ofFields [
    ("debug_information_format", .ofNat options.debugInformationFormat.toNat),
    ("checksum_algorithm", .ofNat options.checksumAlgorithm.toNat),
    ("emit_metadata_only", .bool options.emitMetadataOnly),
    ("include_private_members", .bool options.includePrivateMembers),
    ("high_entropy_virtual_address_space", .bool options.highEntropyVirtualAddressSpace),
    ("file_alignment", .ofNat options.fileAlignment.toNat),
    ("base_address", .ofNat options.baseAddress.toNat),
    ("pdb_file_path", .ofOption .ofText options.pdbFilePath),
    ("output_name_override", .ofOption .ofText options.outputNameOverride),
    ("subsystem_version", .ofOption .ofText options.subsystemVersion),
    ("runtime_metadata_version", .ofOption .ofText options.runtimeMetadataVersion),
    ("default_source_file_encoding", .ofOption .ofText options.defaultSourceFileEncoding),
    ("instrumentation_kinds",
      .ofList (fun kind => .ofNat kind.toNat) options.instrumentationKinds)]

/-- The options a tree holds. -/
def ofTree?
    (tree : Tree) :
    Option EmitOptions := do
  let fields ← tree.fields? fieldNames
  return {
    debugInformationFormat := ← fields.defaulted "debug_information_format" Tree.uint8? 0
    checksumAlgorithm := ← fields.defaulted "checksum_algorithm" Tree.uint8? 0
    emitMetadataOnly := ← fields.defaulted "emit_metadata_only" Tree.bool? false
    includePrivateMembers := ← fields.defaulted "include_private_members" Tree.bool? false
    highEntropyVirtualAddressSpace := ←
      fields.defaulted "high_entropy_virtual_address_space" Tree.bool? false
    fileAlignment := ← fields.defaulted "file_alignment" Tree.uint32? 0
    baseAddress := ← fields.defaulted "base_address" Tree.uint64? 0
    pdbFilePath := ← fields.defaulted "pdb_file_path" (Tree.option? Tree.text?) none
    outputNameOverride := ← fields.defaulted "output_name_override" (Tree.option? Tree.text?) none
    subsystemVersion := ← fields.defaulted "subsystem_version" (Tree.option? Tree.text?) none
    runtimeMetadataVersion := ←
      fields.defaulted "runtime_metadata_version" (Tree.option? Tree.text?) none
    defaultSourceFileEncoding := ←
      fields.defaulted "default_source_file_encoding" (Tree.option? Tree.text?) none
    instrumentationKinds := ←
      fields.defaulted "instrumentation_kinds" (Tree.list? Tree.uint8?) [] }

end EmitOptions

/-! ## Bundle -/

/-- All options of an invocation. -/
structure OptionsBundle where
  compilation : CompilationOptions := {}
  parse : ParseOptions := {}
  emit : EmitOptions := {}
deriving DecidableEq, Repr

namespace OptionsBundle

/-- The stored names of the fields, in order. -/
def fieldNames : List String :=
  ["compilation", "parse", "emit"]

/-- The bundle as a tree. -/
def toTree
    (options : OptionsBundle) :
    Tree :=
  .ofFields [
    ("compilation", options.compilation.toTree),
    ("parse", options.parse.toTree),
    ("emit", options.emit.toTree)]

/-- The bundle a tree holds. -/
def ofTree?
    (tree : Tree) :
    Option OptionsBundle := do
  let fields ← tree.fields? fieldNames
  return {
    compilation := ← fields.defaulted "compilation" CompilationOptions.ofTree? {}
    parse := ← fields.defaulted "parse" ParseOptions.ofTree? {}
    emit := ← fields.defaulted "emit" EmitOptions.ofTree? {} }

end OptionsBundle

end BuildCapture
