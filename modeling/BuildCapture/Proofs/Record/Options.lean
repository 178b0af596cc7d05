import BuildCapture.Proofs.Record.OrderedMap
import BuildCapture.Record.Options

/-!
# Reading back compiler options

The option structures leave no field out, so each of them is read back field by
field.
-/

namespace BuildCapture

open Json Json.Tree

theorem CompilationOptions.roundTrips :
    RoundTrips 3 CompilationOptions.toTree CompilationOptions.ofTree? := by
  refine roundTrips_fields (by decide) (fun _ => by rfl) ?_ ?_
  · intro options
    simp only [List.forall_mem_cons]
    exact ⟨roundTrips_uint8.within _, roundTrips_uint8.within _, roundTrips_uint8.within _,
      roundTrips_text.optionWithin _, roundTrips_text.optionWithin _,
      roundTrips_text.optionWithin _, roundTrips_bool.within _, roundTrips_bool.within _,
      roundTrips_bool.within _, roundTrips_bool.within _, roundTrips_uint8.within _,
      roundTrips_uint8.within _, roundTrips_uint8.within _,
      (OrderedMap.roundTrips roundTrips_uint8).within _, roundTrips_text.optionWithin _,
      roundTrips_text.optionWithin _, roundTrips_bool.optionWithin _, roundTrips_bool.within _,
      roundTrips_text.list.within _, List.forall_mem_nil _⟩
  · intro options found lookups
    simp only [List.forall_mem_cons] at lookups
    obtain ⟨outputKind, optimizationLevel, platform, moduleName, mainTypeName, scriptClassName,
      allowUnsafe, checkOverflow, concurrentBuild, deterministic, nullableContext, warningLevel,
      generalDiagnosticOption, specificDiagnosticOptions, cryptoKeyContainer, cryptoKeyFile,
      delaySign, publicSign, usings, -⟩ := lookups
    simp only [Fields.defaulted, outputKind, optimizationLevel, platform, moduleName,
      mainTypeName, scriptClassName, allowUnsafe, checkOverflow, concurrentBuild, deterministic,
      nullableContext, warningLevel, generalDiagnosticOption, specificDiagnosticOptions,
      cryptoKeyContainer, cryptoKeyFile, delaySign, publicSign, usings, roundTrips_uint8.reads,
      roundTrips_text.ofOption, roundTrips_bool.reads, (OrderedMap.roundTrips
      roundTrips_uint8).reads, roundTrips_bool.ofOption, roundTrips_text.list.reads]
    rfl

theorem ParseOptions.roundTrips :
    RoundTrips 3 ParseOptions.toTree ParseOptions.ofTree? := by
  refine roundTrips_fields (by decide) (fun _ => by rfl) ?_ ?_
  · intro options
    simp only [List.forall_mem_cons]
    exact ⟨roundTrips_uint16.within _, roundTrips_uint8.within _, roundTrips_uint8.within _,
      roundTrips_text.list.within _, (OrderedMap.roundTrips roundTrips_text).within _,
      List.forall_mem_nil _⟩
  · intro options found lookups
    simp only [List.forall_mem_cons] at lookups
    rcases lookups with
      ⟨languageVersion, documentationMode, sourceKind, preprocessorSymbols, features, -⟩
    simp only [Fields.defaulted, languageVersion, documentationMode, sourceKind,
      preprocessorSymbols, features, roundTrips_uint16.reads, roundTrips_uint8.reads,
      roundTrips_text.list.reads, (OrderedMap.roundTrips roundTrips_text).reads]
    rfl

theorem EmitOptions.roundTrips :
    RoundTrips 2 EmitOptions.toTree EmitOptions.ofTree? := by
  refine roundTrips_fields (by decide) (fun _ => by rfl) ?_ ?_
  · intro options
    simp only [List.forall_mem_cons]
    exact ⟨roundTrips_uint8.within _, roundTrips_uint8.within _, roundTrips_bool.within _,
      roundTrips_bool.within _, roundTrips_bool.within _, roundTrips_uint32.within _,
      roundTrips_uint64.within _, roundTrips_text.optionWithin _, roundTrips_text.optionWithin _,
      roundTrips_text.optionWithin _, roundTrips_text.optionWithin _,
      roundTrips_text.optionWithin _, roundTrips_uint8.list.within _, List.forall_mem_nil _⟩
  · intro options found lookups
    simp only [List.forall_mem_cons] at lookups
    obtain ⟨debugInformationFormat, checksumAlgorithm, emitMetadataOnly, includePrivateMembers,
      highEntropyVirtualAddressSpace, fileAlignment, baseAddress, pdbFilePath, outputNameOverride,
      subsystemVersion, runtimeMetadataVersion, defaultSourceFileEncoding, instrumentationKinds,
      -⟩ := lookups
    simp only [Fields.defaulted, debugInformationFormat, checksumAlgorithm, emitMetadataOnly,
      includePrivateMembers, highEntropyVirtualAddressSpace, fileAlignment, baseAddress,
      pdbFilePath, outputNameOverride, subsystemVersion, runtimeMetadataVersion,
      defaultSourceFileEncoding, instrumentationKinds, roundTrips_uint8.reads,
      roundTrips_bool.reads, roundTrips_uint32.reads, roundTrips_uint64.reads,
      roundTrips_text.ofOption, roundTrips_uint8.list.reads]
    rfl

theorem OptionsBundle.roundTrips :
    RoundTrips 4 OptionsBundle.toTree OptionsBundle.ofTree? := by
  refine roundTrips_fields (by decide) (fun _ => by rfl) ?_ ?_
  · intro options
    simp only [List.forall_mem_cons]
    exact ⟨CompilationOptions.roundTrips.within _, ParseOptions.roundTrips.within _,
      EmitOptions.roundTrips.within _, List.forall_mem_nil _⟩
  · intro options found lookups
    simp only [List.forall_mem_cons] at lookups
    rcases lookups with ⟨compilation, parse, emit, -⟩
    simp only [Fields.defaulted, compilation, parse, emit, CompilationOptions.roundTrips.reads,
      ParseOptions.roundTrips.reads, EmitOptions.roundTrips.reads]
    rfl

end BuildCapture
