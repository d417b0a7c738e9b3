import HermesRpt.Inference.Resilience
import HermesRpt.Lib.Dict
import HermesRpt.Registry.ArtifactIntegrity
import HermesRpt.Registry.Models
import Mathlib.Logic.Function.Basic

/-!
# HermesRpt.Inference.ModelLoading

`ModelLoader.load`: a model version's artifact is verified and deserialised, each from a download of
its own, through the circuit breaker and with retries, and the result is cached. The lock makes loads
run one after the other, so a load is one coroutine; the artifact store changes while it waits.

* `Libraries`    : what MLflow, PyTorch and `hashlib` compute.
* `ModelLoader`  : the cache and the breaker.
* `Surroundings` : what happens around a load: writes to the store, timeouts, the clock.
* `handle`       : what an effect of the load does.
* `load`         : the method.
-/

namespace HermesRpt

namespace Inference

open Keyed (Dict)
open Registry
open Async Code

/-- Third-party code that works on downloaded content. -/
structure Libraries where
  /-- A fitted scikit-learn estimator or pipeline. -/
  Estimator : Type
  Checkpoint : Type
  HermesRPTConfig : Type
  HermesRPT01 : Type
  /-- `hashlib.sha256(...).hexdigest()` -/
  sha256 : Bytes → String
  /-- `str(x)` of a float. -/
  floatStr : ℚ → String
  /-- `mlflow.sklearn.load_model`, of what it has downloaded. -/
  sklearnLoadModel : Content → Except PyError Estimator
  /-- `torch.load(..., weights_only=False)`, of the bytes of a file. -/
  torchLoad : Bytes → Except PyError Checkpoint
  /-- `HermesRPT01(checkpoint["config"])` with its state dict, in evaluation mode. -/
  buildModel : Checkpoint → Except PyError HermesRPT01
  /-- `checkpoint["config"]` -/
  config : Checkpoint → HermesRPTConfig

variable (libs : Libraries)

structure LoadedModel where
  modelVersionId : Uuid
  estimator : libs.Estimator

structure LoadedHermesRPTModel where
  modelVersionId : Uuid
  model : libs.HermesRPT01
  config : libs.HermesRPTConfig

inductive AnyLoadedModel where
  | sklearn (loaded : LoadedModel libs)
  | hermesRpt (loaded : LoadedHermesRPTModel libs)

structure ModelLoader where
  loadTimeoutSeconds : ℚ := 60
  retryConfig : RetryConfig := {}
  circuitBreaker : CircuitBreaker := {}
  cache : Dict Uuid (AnyLoadedModel libs) := Keyed.Table.empty

/-- The artifact store: what a download of a URI gives, or raises. -/
abbrev ArtifactStore := String → Except PyError Downloaded

structure Shared where
  artifacts : ArtifactStore
  loader : ModelLoader libs

/-- What happens around a load, counted by its effects. -/
structure Surroundings where
  /-- The writes of others after the load's effect before `n` and before its effect `n`. -/
  writes : Nat → List (String × Except PyError Downloaded) := fun _ => []
  /-- The effect `n` is not done when the load's timeout strikes. -/
  late : Nat → Bool := fun _ => false
  /-- `time.monotonic()` at the effect `n`. -/
  clock : Nat → ℚ

/-- The store after the writes. -/
def ArtifactStore.after (artifacts : ArtifactStore)
    (writes : List (String × Except PyError Downloaded)) : ArtifactStore :=
  writes.foldl (fun store w => Function.update store w.1 w.2) artifacts

/-! ## Effects -/

/-- A `*.pt` entry: a file, or a directory of that name. -/
inductive CheckpointFile where
  | file (bytes : Bytes)
  | directory (path : String)
  deriving DecidableEq

inductive Await where
  /-- `self._cache.get(...)` -/
  | cached (modelVersionId : Uuid)
  /-- `self._cache[...] = loaded` -/
  | store (modelVersionId : Uuid) (loaded : AnyLoadedModel libs)
  | circuitState
  | onSuccess
  | onFailure
  | sleep (delay : ℚ)
  /-- A thread that downloads an artifact. -/
  | download (artifactUri : String)
  /-- A thread that runs `torch.load`. -/
  | torchLoad (file : CheckpointFile)

variable {libs}

/-- A thread is answered with what it returned, or with what ended the attempt. -/
@[reducible] def Reply (libs : Libraries) : Await libs → Type
  | .cached _ => Option (AnyLoadedModel libs)
  | .circuitState => CircuitState
  | .download _ => Except PyError Downloaded
  | .torchLoad _ => Except PyError libs.Checkpoint
  | _ => Unit

/-- The text of `TimeoutExceededError`. -/
def timeoutExceeded (libs : Libraries) (seconds : ℚ) : PyError :=
  ⟨.TimeoutExceededError, "Operation exceeded " ++ libs.floatStr seconds ++ "s timeout"⟩

def runTorchLoad (libs : Libraries) : CheckpointFile → Except PyError libs.Checkpoint
  | .file bytes => libs.torchLoad bytes
  | .directory path =>
    .error ⟨.IsADirectoryError, "[Errno 21] Is a directory: " ++ reprStr path⟩

/-- The breaker of the loader, replaced. -/
def Shared.setBreaker (s : Shared libs) (circuitBreaker : CircuitBreaker) : Shared libs :=
  { s with loader := { s.loader with circuitBreaker } }

def perform (late : Bool) (now : ℚ) : (e : Await libs) → Shared libs → Reply libs e × Shared libs
  | .cached id, s => (s.loader.cache.get? id, s)
  | .store id loaded, s => ((), { s with loader.cache := s.loader.cache.set id loaded })
  | .circuitState, s =>
    ((s.loader.circuitBreaker.observe now).state, s.setBreaker (s.loader.circuitBreaker.observe now))
  | .onSuccess, s => ((), s.setBreaker s.loader.circuitBreaker.onSuccess)
  | .onFailure, s => ((), s.setBreaker (s.loader.circuitBreaker.onFailure now))
  | .sleep _, s => ((), s)
  | .download uri, s =>
    (if late then .error (timeoutExceeded libs s.loader.loadTimeoutSeconds) else s.artifacts uri, s)
  | .torchLoad file, s =>
    (if late then .error (timeoutExceeded libs s.loader.loadTimeoutSeconds)
      else runTorchLoad libs file, s)

/-- The writes that came before the effect, then the effect. -/
def handle (around : Surroundings) (tr : Trace (Reply libs)) (e : Await libs)
    (s : Shared libs) : Except PyError (Reply libs e × Shared libs) :=
  .ok (perform (around.late tr.length) (around.clock tr.length) e
    { s with artifacts := s.artifacts.after (around.writes tr.length) })

/-! ## The method -/

/-- A coroutine of the loader. -/
abbrev Loading (libs : Libraries) (α : Type) := Code (Reply libs) PyError α

/-- Awaits an effect; others write to the store before it is performed. -/
abbrev suspend (e : Await libs) : Loading libs (Reply libs e) := ofEffect e

/-- Awaits a thread and raises what it raised. -/
def download (artifactUri : String) : Loading libs Downloaded :=
  suspend (.download artifactUri) >>= ofExcept

def torchLoad (file : CheckpointFile) : Loading libs libs.Checkpoint :=
  suspend (.torchLoad file) >>= ofExcept

def checksumOf (libs : Libraries) (downloaded : Downloaded) : String :=
  computeArtifactChecksum libs.sha256 downloaded.content

/-- `_verify_checksum` -/
def verifyChecksum (modelVersion : ModelVersion) : Loading libs Unit := do
  let downloaded ← download modelVersion.artifactUri
  if checksumOf libs downloaded ≠ modelVersion.artifactChecksum then
    raise (artifactIntegrityError modelVersion.id modelVersion.artifactChecksum
      (checksumOf libs downloaded))
  else pure ()

/-- `_load_sklearn` -/
def loadSklearn (modelVersion : ModelVersion) : Loading libs (AnyLoadedModel libs) := do
  verifyChecksum modelVersion
  let downloaded ← download modelVersion.artifactUri
  let estimator ← ofExcept (libs.sklearnLoadModel downloaded.content)
  pure (.sklearn { modelVersionId := modelVersion.id, estimator })

/-- The name ends in `.pt`, as `glob("*.pt")` matches it. -/
def MatchesPt (name : String) : Prop := ".pt".toList <:+ name.toList

instance (name : String) : Decidable (MatchesPt name) :=
  inferInstanceAs (Decidable (".pt".toList <:+ name.toList))

/-- `downloaded_path.suffix == ".pt"`: something stands before the suffix. -/
def HasPtSuffix (path : String) : Prop :=
  MatchesPt ((path.splitOn "/").getLastD "") ∧ 3 < ((path.splitOn "/").getLastD "").length

instance (path : String) : Decidable (HasPtSuffix path) :=
  inferInstanceAs (Decidable (_ ∧ _))

/-- The file or the top-level directory that an entry of a listing stands for, if `*.pt` matches it. -/
def ptEntry (localPath : String) (entry : ArtifactFile) : Option CheckpointFile :=
  match entry.parts with
  | [] => none
  | [name] => if MatchesPt name then some (.file entry.bytes) else none
  | name :: _ => if MatchesPt name then some (.directory (localPath ++ "/" ++ name)) else none

def checkpointFile (downloaded : Downloaded) : Option CheckpointFile :=
  match downloaded.content with
  | .file bytes => if HasPtSuffix downloaded.localPath then some (.file bytes) else none
  | .directory files => files.findSome? (ptEntry downloaded.localPath)

/-- `NoCheckpointArtifactError(model_version_id, local_dir)` -/
def noCheckpointArtifact (modelVersionId : Uuid) (localDir : String) : PyError :=
  ⟨.NoCheckpointArtifactError, "Model version " ++ uuidStr modelVersionId ++
    "'s artifact directory " ++ reprStr localDir ++ " contains no '*.pt' checkpoint file — a " ++
    "hermes-rpt-named ModelVersion with no matching torch checkpoint artifact is a " ++
    "data-integrity problem, not a transient load failure"⟩

/-- The model of a checkpoint. -/
def fromCheckpoint (modelVersion : ModelVersion) (checkpoint : libs.Checkpoint) :
    Except PyError (AnyLoadedModel libs) := do
  let model ← libs.buildModel checkpoint
  return .hermesRpt { modelVersionId := modelVersion.id, model, config := libs.config checkpoint }

/-- `_load_hermes_rpt` -/
def loadHermesRpt (modelVersion : ModelVersion) : Loading libs (AnyLoadedModel libs) := do
  verifyChecksum modelVersion
  let downloaded ← download modelVersion.artifactUri
  match checkpointFile downloaded with
  | none => raise (noCheckpointArtifact modelVersion.id downloaded.localPath)
  | some file =>
    let checkpoint ← torchLoad file
    ofExcept (fromCheckpoint modelVersion checkpoint)

/-- `_HERMES_RPT_NAME_MARKER in model_version.name` -/
def IsHermesRpt (modelVersion : ModelVersion) : Prop :=
  "hermes-rpt".toList <:+: modelVersion.name.toList

instance (modelVersion : ModelVersion) : Decidable (IsHermesRpt modelVersion) :=
  inferInstanceAs (Decidable (_ <:+: _))

/-- `_load` -/
def loadOnce (modelVersion : ModelVersion) : Loading libs (AnyLoadedModel libs) :=
  if IsHermesRpt modelVersion then loadHermesRpt modelVersion else loadSklearn modelVersion

/-- `_load_with_circuit_breaker` -/
def loadWithCircuitBreaker (modelVersion : ModelVersion) : Loading libs (AnyLoadedModel libs) :=
  callThroughBreaker (suspend .circuitState) (suspend .onSuccess) (suspend .onFailure)
    (loadOnce modelVersion)

/-- `load`; `config` is the loader's retry configuration. -/
def load (config : RetryConfig) (modelVersion : ModelVersion) :
    Loading libs (AnyLoadedModel libs) :=
  suspend (.cached modelVersion.id) >>= fun
    | some cached => pure cached
    | none => do
      let loaded ← retryWithBackoff (fun delay => suspend (.sleep delay)) config
        (loadWithCircuitBreaker modelVersion)
      suspend (.store modelVersion.id loaded)
      pure loaded

/-- A load of the loader, its effects, and the state it leaves. -/
def respond (around : Surroundings) (modelVersion : ModelVersion) (s : Shared libs) :
    Except PyError (AnyLoadedModel libs) × Trace (Reply libs) × Shared libs :=
  serve (handle around) (fun _ => none) [] (load s.loader.retryConfig modelVersion) s

end Inference

end HermesRpt
