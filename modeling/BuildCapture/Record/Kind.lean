import BuildCapture.Json.Schema

/-!
# Kinds of invocations and inputs

The closed choices that records are made of, each with its stored name.
-/

namespace BuildCapture

open Json

/-! ## Language -/

/-- The source language of an invocation. -/
inductive Language where
  | csharp
  | visualBasic
deriving DecidableEq, Repr

namespace Language

/-- The stored name of a language. -/
def name : Language → String
  | .csharp => "csharp"
  | .visualBasic => "visualbasic"

/-- The name by which extension markers refer to a language. -/
def markerName : Language → String
  | .csharp => "C#"
  | .visualBasic => "Visual Basic"

/-- Every language by its stored name. -/
def named : List (String × Language) :=
  [("csharp", .csharp), ("visualbasic", .visualBasic)]

end Language

/-! ## Invocation -/

/-- What an invocation of the compiler is for. -/
inductive InvocationKind where
  | regular
  | satellite
  | wpfTemporaryCompile
  | xamlPreCompile
  | unknown
deriving DecidableEq, Repr

namespace InvocationKind

/-- The stored name of an invocation kind. -/
def name : InvocationKind → String
  | .regular => "regular"
  | .satellite => "satellite"
  | .wpfTemporaryCompile => "wpf-temporary-compile"
  | .xamlPreCompile => "xaml-pre-compile"
  | .unknown => "unknown"

/-- Every invocation kind by its stored name. -/
def named : List (String × InvocationKind) := [
  ("regular", .regular), ("satellite", .satellite),
  ("wpf-temporary-compile", .wpfTemporaryCompile), ("xaml-pre-compile", .xamlPreCompile),
  ("unknown", .unknown)]

end InvocationKind

/-! ## Content -/

/-- What a content input is used as. -/
inductive ContentKind where
  | source
  | additionalText
  | analyzerConfig
  | embed
  | sourceLink
  | ruleSet
  | appConfig
  | win32Manifest
  | win32Resource
  | win32Icon
  | cryptoKeyFile
deriving DecidableEq, Repr

namespace ContentKind

/-- The stored name of a content kind. -/
def name : ContentKind → String
  | .source => "source"
  | .additionalText => "additional-text"
  | .analyzerConfig => "analyzer-config"
  | .embed => "embed"
  | .sourceLink => "source-link"
  | .ruleSet => "rule-set"
  | .appConfig => "app-config"
  | .win32Manifest => "win32-manifest"
  | .win32Resource => "win32-resource"
  | .win32Icon => "win32-icon"
  | .cryptoKeyFile => "crypto-key-file"

/-- The place of a content kind among all kinds. -/
def rank : ContentKind → Nat
  | .source => 0
  | .additionalText => 1
  | .analyzerConfig => 2
  | .embed => 3
  | .sourceLink => 4
  | .ruleSet => 5
  | .appConfig => 6
  | .win32Manifest => 7
  | .win32Resource => 8
  | .win32Icon => 9
  | .cryptoKeyFile => 10

/-- Every content kind by its stored name. -/
def named : List (String × ContentKind) := [
  ("source", .source), ("additional-text", .additionalText),
  ("analyzer-config", .analyzerConfig), ("embed", .embed), ("source-link", .sourceLink),
  ("rule-set", .ruleSet), ("app-config", .appConfig), ("win32-manifest", .win32Manifest),
  ("win32-resource", .win32Resource), ("win32-icon", .win32Icon),
  ("crypto-key-file", .cryptoKeyFile)]

/-- Whether the order among inputs of this kind affects the build: only that of sources does. -/
def isOrderSensitive
    (kind : ContentKind) :
    Bool :=
  kind == .source

/-- The kind a tree names. -/
def ofTree?
    (tree : Tree) :
    Option ContentKind :=
  tree.choice? named

end ContentKind

/-! ## Reference -/

/-- How a referenced module takes part in the compilation. -/
inductive ReferenceKind where
  | assembly
  | module
deriving DecidableEq, Repr

namespace ReferenceKind

/-- The stored name of a reference kind. -/
def name : ReferenceKind → String
  | .assembly => "assembly"
  | .module => "module"

/-- Every reference kind by its stored name. -/
def named : List (String × ReferenceKind) :=
  [("assembly", .assembly), ("module", .module)]

end ReferenceKind

end BuildCapture
