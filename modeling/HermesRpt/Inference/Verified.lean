import HermesRpt.Inference.ModelLoading

/-!
# HermesRpt.Inference.Verified

Which bytes a loaded model comes from. The checksum is computed of one download, and the model is
deserialised from the next one.

* `storeAt`        : the artifact store at an effect of the load.
* `deserialise`    : the model that the code makes of downloaded content.
* `TwoDownloads`   : the last two downloads of a load that returns: one verified, one deserialised.
* `serves_verified_bytes_iff` : when the deserialised bytes are verified ones.
-/

namespace HermesRpt

namespace Inference

open Registry
open Async Code

variable {libs : Libraries} {modelVersion : ModelVersion}

/-- The artifact store as the load finds it before its effect `n`, and the writes before that. -/
def storeBefore (start : ArtifactStore) (around : Surroundings) : Nat → ArtifactStore
  | 0 => start
  | n + 1 => (storeBefore start around n).after (around.writes n)

/-- The artifact store at the effect `n`. -/
def storeAt (start : ArtifactStore) (around : Surroundings) (n : Nat) : ArtifactStore :=
  storeBefore start around (n + 1)

/-- What the code makes of a download. -/
def deserialise (libs : Libraries) (modelVersion : ModelVersion) (downloaded : Downloaded) :
    Except PyError (AnyLoadedModel libs) :=
  if IsHermesRpt modelVersion then
    match checkpointFile downloaded with
    | none => .error (noCheckpointArtifact modelVersion.id downloaded.localPath)
    | some file => runTorchLoad libs file >>= fromCheckpoint modelVersion
  else do
    let estimator ← libs.sklearnLoadModel downloaded.content
    return .sklearn { modelVersionId := modelVersion.id, estimator }

/-- The effect is no download. -/
def NoDownload (entry : Σ e, Reply libs e) : Prop := ∀ uri, entry.1 ≠ .download uri

/-- The model was deserialised in this part of the trace, from the download before it. -/
def Deserialised (modelVersion : ModelVersion) (downloaded : Downloaded)
    (loaded : AnyLoadedModel libs) (tr : Trace (Reply libs)) : Prop :=
  if IsHermesRpt modelVersion then
    ∃ file checkpoint, checkpointFile downloaded = some file ∧
      ⟨.torchLoad file, .ok checkpoint⟩ ∈ tr ∧ fromCheckpoint modelVersion checkpoint = .ok loaded
  else ∃ estimator, libs.sklearnLoadModel downloaded.content = .ok estimator ∧
    loaded = .sklearn { modelVersionId := modelVersion.id, estimator }

/-- The last two downloads: the first has the checksum of the model version, the second is the one
the model comes from. -/
structure TwoDownloads (modelVersion : ModelVersion) (tr : Trace (Reply libs))
    (loaded : AnyLoadedModel libs) (before : Trace (Reply libs)) (verified served : Downloaded)
    (rest : Trace (Reply libs)) : Prop where
  trace : tr = before ++ ⟨.download modelVersion.artifactUri, .ok verified⟩ ::
    ⟨.download modelVersion.artifactUri, .ok served⟩ :: rest
  last : ∀ entry ∈ rest, NoDownload entry
  checked : checksumOf libs verified = modelVersion.artifactChecksum
  deserialised : Deserialised modelVersion served loaded rest

def ServedFromDownload (modelVersion : ModelVersion) (tr : Trace (Reply libs))
    (loaded : AnyLoadedModel libs) : Prop :=
  ∃ before verified served rest, TwoDownloads modelVersion tr loaded before verified served rest

theorem ServedFromDownload.snoc {tr : Trace (Reply libs)} {loaded : AnyLoadedModel libs}
    (h : ServedFromDownload modelVersion tr loaded) {entry : Σ e, Reply libs e}
    (hentry : NoDownload entry) : ServedFromDownload modelVersion (tr ++ [entry]) loaded := by
  obtain ⟨before, verified, served, rest, h⟩ := h
  refine ⟨before, verified, served, rest ++ [entry], by rw [h.trace]; simp, ?_, h.checked, ?_⟩
  · intro e he
    rcases List.mem_append.1 he with he | he
    · exact h.last e he
    · cases List.mem_singleton.1 he
      exact hentry
  · have hd := h.deserialised
    unfold Deserialised at hd ⊢
    split
    · rename_i hname
      rw [if_pos hname] at hd
      obtain ⟨file, checkpoint, hfile, hmem, hc⟩ := hd
      exact ⟨file, checkpoint, hfile, List.mem_append_left _ hmem, hc⟩
    · rename_i hname
      rwa [if_neg hname] at hd

/-! ## Along the code -/

/-- A result meets `T`; of a raise nothing is asserted. -/
def Yields {α : Type} (T : Trace (Reply libs) → α → Prop) (tr : Trace (Reply libs))
    (r : Except PyError α) : Prop := ∀ a, r = .ok a → T tr a

/-- What every run of the code yields, from the trace on. -/
abbrev Along {α : Type} (T : Trace (Reply libs) → α → Prop) (tr : Trace (Reply libs))
    (code : Loading libs α) : Prop :=
  Safe (fun _ _ => True) (Yields T) tr code

section

variable {α β : Type} {T : Trace (Reply libs) → α → Prop} {U : Trace (Reply libs) → β → Prop}
  {tr : Trace (Reply libs)}

theorem along_raise (e : PyError) : Along T tr (raise e) := by
  intro a h
  cases h

theorem along_bind {code : Loading libs α} {f : α → Loading libs β} (h : Along T tr code)
    (hf : ∀ tr a, T tr a → Along U tr (f a)) : Along U tr (code >>= f) := by
  refine Safe.bind (h.mono fun tr r hr => ?_)
  cases r with
  | ok a => exact hf tr a (hr a rfl)
  | error e =>
    intro a ha
    cases ha

theorem along_caught {code : Loading libs α} (h : Along T tr code) :
    Along (fun tr r => Yields T tr r) tr code.caught := by
  refine Safe.caught (h.mono fun tr r hr => ?_)
  intro a ha
  cases ha
  exact hr

theorem along_attempts {sleep : ℚ → Loading libs Unit} {m : ℚ} {retryable : PyError → Bool}
    {operation : Loading libs α} (hop : ∀ tr, Along T tr operation)
    (hsleep : ∀ delay tr, Along (fun _ _ => True) tr (sleep delay)) (n : Nat) (delay : ℚ) :
    ∀ tr, Along T tr (attempts sleep m retryable operation n delay) := by
  induction n generalizing delay with
  | zero => exact fun tr => along_raise _
  | succ n ih =>
    intro tr
    refine along_bind (along_caught (hop tr)) fun tr r hr => ?_
    cases r with
    | ok a => exact hr
    | error exc =>
      simp only
      split
      · exact along_raise exc
      · exact along_bind (hsleep delay tr) fun tr _ _ => ih (delay * m) tr

end

theorem along_suspend (e : Await libs) (tr : Trace (Reply libs)) :
    Along (fun tr' r => tr' = tr ++ [⟨e, r⟩]) tr (suspend e) := by
  refine ⟨trivial, fun r a ha => ?_⟩
  cases ha
  rfl

/-- A thread that returns adds its answer to the trace. -/
theorem along_download (uri : String) (tr : Trace (Reply libs)) :
    Along (fun tr' d => tr' = tr ++ [⟨.download uri, .ok d⟩]) tr (download uri) := by
  refine ⟨trivial, fun r a ha => ?_⟩
  cases ha
  rfl

theorem along_torchLoad (file : CheckpointFile) (tr : Trace (Reply libs)) :
    Along (fun tr' c => tr' = tr ++ [⟨.torchLoad file, .ok c⟩]) tr (torchLoad file) := by
  refine ⟨trivial, fun r a ha => ?_⟩
  cases ha
  rfl

theorem along_verifyChecksum (modelVersion : ModelVersion) (tr : Trace (Reply libs)) :
    Along (fun tr' _ => ∃ verified, checksumOf libs verified = modelVersion.artifactChecksum ∧
      tr' = tr ++ [⟨.download modelVersion.artifactUri, .ok verified⟩]) tr
      (verifyChecksum modelVersion) := by
  refine along_bind (along_download _ tr) fun tr' d htr => ?_
  subst htr
  split
  · exact along_raise _
  · rename_i hsum
    intro a ha
    exact ⟨d, not_not.1 hsum, rfl⟩

theorem along_loadSklearn (hname : ¬IsHermesRpt modelVersion) (tr : Trace (Reply libs)) :
    Along (ServedFromDownload modelVersion) tr (loadSklearn modelVersion) := by
  refine along_bind (along_verifyChecksum modelVersion tr) fun tr₁ _ ⟨verified, hsum, htr₁⟩ => ?_
  refine along_bind (along_download _ tr₁) fun tr₂ served htr₂ => ?_
  cases hest : libs.sklearnLoadModel served.content with
  | error e => exact along_raise e
  | ok estimator =>
    intro loaded hloaded
    cases hloaded
    refine ⟨tr, verified, served, [], by rw [htr₂, htr₁]; simp, by simp, hsum, ?_⟩
    rw [Deserialised, if_neg hname]
    exact ⟨estimator, hest, rfl⟩

theorem along_loadHermesRpt (hname : IsHermesRpt modelVersion) (tr : Trace (Reply libs)) :
    Along (ServedFromDownload modelVersion) tr (loadHermesRpt modelVersion) := by
  refine along_bind (along_verifyChecksum modelVersion tr) fun tr₁ _ ⟨verified, hsum, htr₁⟩ => ?_
  refine along_bind (along_download _ tr₁) fun tr₂ served htr₂ => ?_
  cases hfile : checkpointFile served with
  | none => exact along_raise _
  | some file =>
    refine along_bind (along_torchLoad file tr₂) fun tr₃ checkpoint htr₃ => ?_
    intro loaded hloaded
    refine ⟨tr, verified, served, [⟨.torchLoad file, .ok checkpoint⟩],
      by rw [htr₃, htr₂, htr₁]; simp, ?_, hsum, ?_⟩
    · intro entry hentry
      cases List.mem_singleton.1 hentry
      intro uri h
      cases h
    · rw [Deserialised, if_pos hname]
      exact ⟨file, checkpoint, hfile, by simp, hloaded⟩

theorem along_loadOnce (modelVersion : ModelVersion) (tr : Trace (Reply libs)) :
    Along (ServedFromDownload modelVersion) tr (loadOnce modelVersion) := by
  unfold loadOnce
  split
  · exact along_loadHermesRpt ‹_› tr
  · exact along_loadSklearn ‹_› tr

theorem along_loadWithCircuitBreaker (modelVersion : ModelVersion) (tr : Trace (Reply libs)) :
    Along (ServedFromDownload modelVersion) tr (loadWithCircuitBreaker modelVersion) := by
  refine along_bind (along_suspend .circuitState tr) fun tr₁ currentState _ => ?_
  split
  · exact along_raise _
  · refine along_bind (along_caught (along_loadOnce modelVersion tr₁)) fun tr₂ r hr => ?_
    cases r with
    | error e => exact along_bind (along_suspend .onFailure tr₂) fun tr₃ _ _ => along_raise e
    | ok loaded =>
      refine along_bind (along_suspend .onSuccess tr₂) fun tr₃ _ htr a ha => ?_
      cases ha
      subst htr
      refine (hr loaded rfl).snoc fun uri h => ?_
      cases h

/-- A load returns what was cached, or what the last of its downloads was deserialised to. -/
theorem along_load (config : RetryConfig) (modelVersion : ModelVersion) :
    Along (fun (tr : Trace (Reply libs)) loaded =>
      tr = [⟨.cached modelVersion.id, some loaded⟩] ∨ ServedFromDownload modelVersion tr loaded ∧
        ∃ tr', tr = tr' ++ [⟨.store modelVersion.id loaded, ()⟩]) []
      (load config modelVersion) := by
  refine along_bind (along_suspend (.cached modelVersion.id) []) fun tr₁ found htr₁ => ?_
  cases found with
  | some cached =>
    intro loaded hloaded
    cases hloaded
    exact .inl htr₁
  | none =>
    have hsleep : ∀ delay tr, Along (fun _ _ => True) tr
        (suspend (.sleep delay) : Loading libs Unit) :=
      fun delay tr => (along_suspend (.sleep delay) tr).mono fun _ _ _ _ _ => trivial
    refine along_bind (along_attempts (along_loadWithCircuitBreaker modelVersion) hsleep _ _ tr₁)
      fun tr₂ loaded h => ?_
    refine along_bind (along_suspend (.store modelVersion.id loaded) tr₂) fun tr₃ _ htr a ha => ?_
    cases ha
    subst htr
    refine .inr ⟨h.snoc fun uri h => ?_, tr₂, rfl⟩
    cases h

/-! ## A load and its surroundings -/

/-- What the replies of a run say, when it starts with the store `start` and the cache `found`. -/
structure Answered (start : Shared libs) (around : Surroundings) (tr : Trace (Reply libs))
    (s : Shared libs) : Prop where
  artifacts : s.artifacts = storeBefore start.artifacts around tr.length
  downloads : ∀ n uri d, tr[n]? = some ⟨.download uri, .ok d⟩ →
    storeAt start.artifacts around n uri = .ok d
  checkpoints : ∀ file c, ⟨.torchLoad file, .ok c⟩ ∈ tr → runTorchLoad libs file = .ok c
  stored : ∀ tr' id loaded, tr = tr' ++ [⟨.store id loaded, ()⟩] →
    s.loader.cache.get? id = some loaded
  found : ∀ id r, tr = [⟨.cached id, r⟩] → start.loader.cache.get? id = r
  untouched : tr = [] → s.loader = start.loader

theorem artifacts_perform {late : Bool} {now : ℚ} {e : Await libs} {s : Shared libs} :
    (perform late now e s).2.artifacts = s.artifacts := by
  cases e <;> rfl

theorem answered_step {start : Shared libs} {around : Surroundings} {tr : Trace (Reply libs)}
    {e : Await libs} {s s' : Shared libs} {r : Reply libs e} (h : Answered start around tr s)
    (hr : handle around tr e s = .ok (r, s')) : Answered start around (tr ++ [⟨e, r⟩]) s' := by
  have hp : perform (around.late tr.length) (around.clock tr.length) e
      { s with artifacts := storeAt start.artifacts around tr.length } = (r, s') := by
    rw [handle, Except.ok.injEq, h.artifacts] at hr
    exact hr
  have hlast : ∀ {entry : Σ e, Reply libs e} {n : Nat}, (tr ++ [⟨e, r⟩])[n]? = some entry →
      tr[n]? = some entry ∨ n = tr.length ∧ entry = ⟨e, r⟩ := by
    intro entry n hn
    by_cases hlt : n < tr.length
    · rw [List.getElem?_append_left hlt] at hn
      exact .inl hn
    · rw [List.getElem?_append_right (by omega)] at hn
      have hzero : n - tr.length = 0 := by
        by_contra hne
        rw [List.getElem?_eq_none (by simp; omega)] at hn
        cases hn
      rw [hzero] at hn
      exact .inr ⟨by omega, (Option.some.inj hn).symm⟩
  refine ⟨?_, fun n uri d hn => ?_, fun file c hm => ?_, fun tr' id loaded heq => ?_,
    fun id r' heq => ?_, fun heq => by simp at heq⟩
  · have ha := congrArg (fun p => p.2.artifacts) hp
    simp only [artifacts_perform] at ha
    rw [← ha, List.length_append, List.length_singleton]
    rfl
  · rcases hlast hn with hn | ⟨rfl, he⟩
    · exact h.downloads n uri d hn
    · cases he
      have hd := congrArg Prod.fst hp
      simp only [perform] at hd
      split at hd
      · cases hd
      · exact hd
  · rcases List.mem_append.1 hm with hm | hm
    · exact h.checkpoints file c hm
    · cases List.mem_singleton.1 hm
      have hc := congrArg Prod.fst hp
      simp only [perform] at hc
      split at hc
      · cases hc
      · exact hc
  · obtain ⟨-, he⟩ := List.append_inj' heq rfl
    cases he
    have hs := congrArg (fun p => p.2.loader.cache.get? id) hp
    simp only [perform] at hs
    rw [← hs, Keyed.Dict.get?_set, if_pos rfl]
  · have htr : tr = [] := by
      have hlength := congrArg List.length heq
      simp at hlength
      exact hlength
    subst htr
    cases List.cons.inj heq |>.1
    have hc := congrArg Prod.fst hp
    simp only [perform, h.untouched rfl] at hc
    exact hc

theorem answered_respond (around : Surroundings) (modelVersion : ModelVersion) (s : Shared libs) :
    Answered s around (respond around modelVersion s).2.1 (respond around modelVersion s).2.2 := by
  refine serve_invariant (I := Answered s around) (fun tr e s₁ r s₂ hI _ _ hr => answered_step hI hr)
    (along_load s.loader.retryConfig modelVersion) ?_
  refine ⟨rfl, ?_, ?_, ?_, ?_, fun _ => rfl⟩
  · intro n uri d h
    simp at h
  · intro file c h
    cases h
  · intro tr' id loaded h
    simp at h
  · intro id r h
    cases h

/-- What was deserialised in the trace is what the code makes of the download. -/
theorem deserialise_of_trace {downloaded : Downloaded} {loaded : AnyLoadedModel libs}
    {tr rest : Trace (Reply libs)} {start s : Shared libs} {around : Surroundings}
    (ha : Answered start around tr s) (hrest : ∀ entry ∈ rest, entry ∈ tr)
    (h : Deserialised modelVersion downloaded loaded rest) :
    deserialise libs modelVersion downloaded = .ok loaded := by
  unfold Deserialised at h
  unfold deserialise
  split at h
  · rename_i hname
    obtain ⟨file, checkpoint, hfile, hmem, hc⟩ := h
    rw [if_pos hname, hfile]
    simp only [ha.checkpoints file checkpoint (hrest _ hmem)]
    exact hc
  · rename_i hname
    obtain ⟨estimator, hest, rfl⟩ := h
    rw [if_neg hname, hest]
    rfl

/-- A load that does not find the model in the cache: the model it returns and caches was deserialised
from verified bytes if and only if the store still held content of that checksum at the download after
the one that was verified, whatever was written in between. -/
theorem serves_verified_bytes_iff {around : Surroundings} {s s' : Shared libs}
    {loaded : AnyLoadedModel libs} {tr : Trace (Reply libs)}
    (h : respond around modelVersion s = (.ok loaded, tr, s'))
    (huncached : s.loader.cache.get? modelVersion.id = none) :
    ∃ n verified served,
      tr[n]? = some ⟨.download modelVersion.artifactUri, .ok verified⟩ ∧
      tr[n + 1]? = some ⟨.download modelVersion.artifactUri, .ok served⟩ ∧
      (∀ entry ∈ tr.drop (n + 2), NoDownload entry) ∧
      storeAt s.artifacts around n modelVersion.artifactUri = .ok verified ∧
      storeAt s.artifacts around (n + 1) modelVersion.artifactUri = .ok served ∧
      deserialise libs modelVersion served = .ok loaded ∧
      s'.loader.cache.get? modelVersion.id = some loaded ∧
      (checksumOf libs served = modelVersion.artifactChecksum ↔
        checksumOf libs served = checksumOf libs verified) := by
  have ha : Answered s around tr s' := by
    have ha := answered_respond around modelVersion s
    rwa [h] at ha
  have hend : tr = [⟨.cached modelVersion.id, some loaded⟩] ∨
      ServedFromDownload modelVersion tr loaded ∧
        ∃ tr', tr = tr' ++ [⟨.store modelVersion.id loaded, ()⟩] := by
    rcases serve_ends (along_load s.loader.retryConfig modelVersion) h with hfin | ⟨err, he, -⟩
    · exact hfin loaded rfl
    · cases he
  rcases hend with hcached | ⟨⟨before, verified, served, rest, htwo⟩, tr', hstored⟩
  · have hfound := ha.found _ _ hcached
    rw [huncached] at hfound
    cases hfound
  · have hverified : tr[before.length]? =
        some ⟨.download modelVersion.artifactUri, .ok verified⟩ := by
      rw [htwo.trace]
      simp
    have hserved : tr[before.length + 1]? =
        some ⟨.download modelVersion.artifactUri, .ok served⟩ := by
      rw [htwo.trace, List.getElem?_append_right (by omega)]
      simp
    have hrest : tr.drop (before.length + 2) = rest := by
      rw [htwo.trace, List.drop_append]
      simp
    refine ⟨before.length, verified, served, hverified, hserved, by rw [hrest]; exact htwo.last,
      ha.downloads _ _ _ hverified, ha.downloads _ _ _ hserved,
      deserialise_of_trace ha (fun entry he => ?_) htwo.deserialised,
      ha.stored _ _ _ hstored, by rw [htwo.checked]⟩
    rw [htwo.trace]
    simp [he]

namespace Sample

/-- Content stands for itself as an estimator; the digests are those of no byte and of "a". -/
def libraries : Libraries where
  Estimator := Content
  Checkpoint := Bytes
  HermesRPTConfig := Unit
  HermesRPT01 := Bytes
  sha256 bytes :=
    if bytes = [] then "e3b0c44298fc1c149afbf4c8996fb92427ae41e4649b934ca495991b7852b855"
    else "ca978112ca1bbdcafac231b39a23dc4da786eff8147c4e72b9807785afee48bb"
  floatStr _ := "60.0"
  sklearnLoadModel := .ok
  torchLoad := .ok
  buildModel := .ok
  config _ := ()

def delayModel : ModelVersion :=
  { id := 20, tenantId := none, name := "delay", versionLabel := "1", taskDefinitionId := 10,
    stage := .PRODUCTION, artifactUri := "runs:/20/model",
    artifactChecksum := "e3b0c44298fc1c149afbf4c8996fb92427ae41e4649b934ca495991b7852b855",
    ontologyVersion := "1", featureContractVersion := "1" }

def registered : Downloaded := ⟨"/tmp/20/model", .file []⟩

def tampered : Downloaded := ⟨"/tmp/20/model", .file [97]⟩

def start : Shared libraries := { artifacts := fun _ => .ok registered, loader := {} }

/-- The artifact is overwritten between the two downloads of the load. -/
def overwriting : Surroundings where
  writes n := if n = 3 then [("runs:/20/model", .ok tampered)] else []
  clock _ := 0

end Sample

theorem serves_verified_bytes_iff_sample :
    ∃ n verified served,
      storeAt Sample.start.artifacts Sample.overwriting n "runs:/20/model" = .ok verified ∧
      storeAt Sample.start.artifacts Sample.overwriting (n + 1) "runs:/20/model" = .ok served ∧
      (checksumOf Sample.libraries served = Sample.delayModel.artifactChecksum ↔
        checksumOf Sample.libraries served = checksumOf Sample.libraries verified) := by
  have h : respond Sample.overwriting Sample.delayModel Sample.start =
      (.ok (.sklearn ⟨20, Sample.tampered.content⟩),
        (respond Sample.overwriting Sample.delayModel Sample.start).2.1,
        (respond Sample.overwriting Sample.delayModel Sample.start).2.2) := rfl
  obtain ⟨n, verified, served, -, -, -, hn, hn', -, -, hiff⟩ := serves_verified_bytes_iff h rfl
  exact ⟨n, verified, served, hn, hn', hiff⟩

/-- The load returns, and caches, a model of other bytes than those it has verified. -/
theorem serves_tampered_bytes :
    (respond Sample.overwriting Sample.delayModel Sample.start).1 =
      .ok (.sklearn ⟨20, Sample.tampered.content⟩) ∧
    (respond Sample.overwriting Sample.delayModel Sample.start).2.2.loader.cache.get? 20 =
      some (.sklearn ⟨20, Sample.tampered.content⟩) ∧
    checksumOf Sample.libraries Sample.tampered ≠ Sample.delayModel.artifactChecksum := by
  refine ⟨rfl, rfl, ?_⟩
  decide +kernel

end Inference

end HermesRpt
