import BuildCapture.Extension.Session
import BuildCapture.Proofs.Archive.Isolation

/-!
# Captured generator output

A session that runs nothing offers one generator, which stands in for all the
generators of an invocation: it tells apart whether their output was captured, be
it empty, and has every text that was captured, in the order of the calls, with
the octets that were taken for the text when it was added.
-/

namespace BuildCapture

/-! ## What calls capture -/

/-- How a record points at a captured text. -/
def GeneratedFile.entry
    (file : GeneratedFile) :
    GeneratedEntry where
  key := .of file.text
  path := file.path

/-! ## What records keep of it -/

variable {archive : Archive}

namespace ThreeOutputs

open RewrittenFile LeftOut

/-- Two equal texts and a file between them, and then a call that adds nothing. -/
def calls : List Call :=
  [.generatedText "g" [98], .generatedFile "a", .generatedText "g" [98], .markGenerated]

/-- The run up to the invocation that captures texts. -/
def first : Recording × Journal := (calls.foldl Transcript.call begun).commit

/-- The run up to an invocation of which the output is empty. -/
def second : Recording × Journal := ((begin first).call .markGenerated).commit

/-- The whole run, with an invocation of which no output was captured. -/
def third : Recording × Journal := (begin second).commit

/-- What the stand-in for all generators produces for each invocation. -/
def outcomes : List GeneratedOutcome :=
  [.captured [⟨"g", [98]⟩, ⟨"a", [97]⟩, ⟨"g", [98]⟩], .captured [], .notCaptured]

/-- The call that captures the file. -/
def capturing : Call := .generatedFile "a"

/-- A run in which the file is captured before and after it gets another content unnoticed. -/
def swapped : Recording × Journal :=
  ((changing swap (begun.call capturing)).call capturing).commit

/-- A run in which the temporary file is replaced after a text was captured. -/
def overwritten : Recording × Journal :=
  (changing (·.placeFile ["out.tmp"] [97, 97, 97, 97])
    (begun.call (.generatedText "t" [98]))).commit

end ThreeOutputs

end BuildCapture
