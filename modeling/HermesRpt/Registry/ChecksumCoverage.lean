import HermesRpt.Lib.Pieces
import HermesRpt.Registry.ArtifactIntegrity

/-!
# HermesRpt.Registry.ChecksumCoverage

What the artifact checksum tells apart. The hasher is fed the paths and the contents of the files
one after the other, with nothing between them, so bytes can move between a path, its content and
the next path.

* `fed`                 : the bytes that the hasher gets.
* `pieces`              : the paths and contents that they are made of.
* `checksum_covers_iff` : two artifacts are told apart unless shifts between their pieces make the
  one of the other.
-/

namespace HermesRpt

namespace Registry

open Pieces

/-- What `compute_artifact_checksum` feeds to the hasher. -/
def fed : Content → Bytes
  | .file bytes => bytes
  | .directory files => (sortedFiles files).flatMap fun f => encodeUtf8 f.relativePath ++ f.bytes

def pieces : Content → List Bytes
  | .file bytes => [bytes]
  | .directory files => (sortedFiles files).flatMap fun f => [encodeUtf8 f.relativePath, f.bytes]

/-- The same file, or the same files in the same places, however the directory lists them. -/
def SameArtifact : Content → Content → Prop
  | .file bytes, .file bytes' => bytes = bytes'
  | .directory files, .directory files' => files.Perm files'
  | _, _ => False

/-- Different artifacts feed different bytes and get different checksums. -/
def Covered (sha256 : Bytes → String) (c c' : Content) : Prop :=
  ¬SameArtifact c c' → fed c ≠ fed c' ∧
    computeArtifactChecksum sha256 c ≠ computeArtifactChecksum sha256 c'

theorem computeArtifactChecksum_eq (sha256 : Bytes → String) (c : Content) :
    computeArtifactChecksum sha256 c = sha256 (fed c) := by
  cases c <;> rfl

theorem flatten_pieces (c : Content) : (pieces c).flatten = fed c := by
  cases c with
  | file bytes => simp [pieces, fed]
  | directory files =>
    show ((sortedFiles files).flatMap fun f => [encodeUtf8 f.relativePath, f.bytes]).flatten =
      (sortedFiles files).flatMap fun f => encodeUtf8 f.relativePath ++ f.bytes
    induction sortedFiles files with
    | nil => rfl
    | cons f files ih => simp [ih]

/-- Two artifacts are told apart exactly when they are the same one, or no shifting of bytes
between neighbouring paths and contents makes the one of the other. -/
theorem checksum_covers_iff (sha256 : Bytes → String) (hsha : Function.Injective sha256)
    (c c' : Content) :
    Covered sha256 c c' ↔ SameArtifact c c' ∨ ¬Recut (pieces c) (pieces c') := by
  rw [recut_iff, flatten_pieces, flatten_pieces]
  unfold Covered
  rw [computeArtifactChecksum_eq, computeArtifactChecksum_eq]
  constructor
  · intro h
    by_cases hsame : SameArtifact c c'
    · exact .inl hsame
    · exact .inr (h hsame).1
  · rintro (hsame | hfed) hdifferent
    · exact absurd hsame hdifferent
    · exact ⟨hfed, fun heq => hfed (hsha heq)⟩

namespace Sample

/-- `a`, with two bytes in it. -/
def shortName : Content := .directory [⟨["a"], [98, 99]⟩]

/-- `ab`, with the second of them. -/
def longName : Content := .directory [⟨["ab"], [99]⟩]

def codePoints (bytes : Bytes) : String := String.ofList (bytes.map fun b => Char.ofNat b.toNat)

theorem codePoints_injective : Function.Injective codePoints := by
  intro bytes bytes' h
  have hmap := String.ofList_injective h
  refine List.map_injective_iff.2 ?_ hmap
  intro a b hab
  have hvalid : ∀ c : UInt8, (Char.ofNat c.toNat).toNat = c.toNat := by
    intro c
    have hc : c.toNat < 256 := c.toNat_lt
    have hchar : c.toNat.isValidChar := .inl (by omega)
    rw [Char.ofNat, dif_pos hchar]
    rfl
  have hnat : a.toNat = b.toNat := by
    rw [← hvalid a, ← hvalid b]
    exact congrArg Char.toNat hab
  exact UInt8.toNat_inj.1 hnat

end Sample

theorem checksum_covers_iff_sample :
    Covered Sample.codePoints Sample.shortName Sample.longName ↔
      SameArtifact Sample.shortName Sample.longName ∨
        ¬Recut (pieces Sample.shortName) (pieces Sample.longName) :=
  checksum_covers_iff Sample.codePoints Sample.codePoints_injective _ _

/-- A byte of the content of `a` moves to its name, and the hasher gets the same bytes. -/
theorem moved_byte_unseen :
    fed Sample.shortName = fed Sample.longName ∧
      ¬Covered Sample.codePoints Sample.shortName Sample.longName := by
  have hfed : fed Sample.shortName = fed Sample.longName := by decide +kernel
  have hdifferent : ¬SameArtifact Sample.shortName Sample.longName := by
    intro h
    have hmem : (⟨["a"], [98, 99]⟩ : ArtifactFile) ∈ [⟨["ab"], [99]⟩] := h.mem_iff.1 (by simp)
    simp at hmem
  exact ⟨hfed, fun hcovered => (hcovered hdifferent).1 hfed⟩

end Registry

end HermesRpt
