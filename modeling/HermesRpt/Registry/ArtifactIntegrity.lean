import HermesRpt.Common.Python
import Mathlib.Data.List.Sort

/-!
# HermesRpt.Registry.ArtifactIntegrity

The checksum of a model artifact, over the bytes that a download of it gives.

* `Downloaded`              : what `mlflow.artifacts.download_artifacts` gives.
* `computeArtifactChecksum` : SHA-256 of the file, or of the paths and bytes of all files.
-/

namespace HermesRpt

namespace Registry

abbrev Bytes := List UInt8

/-- A file of a downloaded directory: its path in it, part by part, and its bytes. -/
structure ArtifactFile where
  parts : List String
  bytes : Bytes
  deriving DecidableEq

/-- A single-file artifact, or the files of a directory in the order in which it lists them. -/
inductive Content where
  | file (bytes : Bytes)
  | directory (files : List ArtifactFile)
  deriving DecidableEq

/-- The local path of a download, and what is there. -/
structure Downloaded where
  localPath : String
  content : Content
  deriving DecidableEq

/-- `str(path.relative_to(local_path))` -/
def ArtifactFile.relativePath (file : ArtifactFile) : String := "/".intercalate file.parts

/-- `s.encode("utf-8")` -/
def encodeUtf8 (s : String) : Bytes := s.toUTF8.data.toList

/-- `sorted(...)` of the paths, which compare part by part. -/
def sortedFiles (files : List ArtifactFile) : List ArtifactFile :=
  files.insertionSort fun f g => ¬g.parts < f.parts

/-- `compute_artifact_checksum`, of what was downloaded; `sha256` is `hashlib.sha256(...).hexdigest()`.
A hasher that is updated piece by piece digests the pieces in a row. -/
def computeArtifactChecksum (sha256 : Bytes → String) : Content → String
  | .file bytes => sha256 bytes
  | .directory files =>
    sha256 ((sortedFiles files).flatMap fun f => encodeUtf8 f.relativePath ++ f.bytes)

/-- `s[:12]` -/
def firstTwelve (s : String) : String := String.ofList (s.toList.take 12)

/-- `ArtifactIntegrityError(model_version_id, expected, actual)` -/
def artifactIntegrityError (modelVersionId : Uuid) (expected actual : String) : PyError :=
  ⟨.ArtifactIntegrityError, "Artifact checksum mismatch for model version " ++
    uuidStr modelVersionId ++ ": expected " ++ firstTwelve expected ++ "..., got " ++
    firstTwelve actual ++ "... — refusing to serve"⟩

end Registry

end HermesRpt
