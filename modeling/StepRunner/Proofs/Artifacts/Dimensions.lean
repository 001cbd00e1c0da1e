import StepRunner.Proofs.Artifacts.Previews
import StepRunner.Proofs.Image.Headers
import StepRunner.Proofs.Image.Sizes

/-!
This file says how large the thumbnails of screenshots are.
A thumbnail fits into a box of a fixed width, and keeps the proportions of its picture as well as
whole numbers can.
-/

namespace StepRunner.Artifacts

variable {width height : Nat} {picture : Bytes} {raster : Raster}

/-- The size of the thumbnail of a picture. -/
structure Sized (width height : Nat) (size : Nat × Nat) : Prop where
  kept : width ≤ Raster.thumbnailWidth → size = (width, height)
  shrinks : Raster.thumbnailWidth < width → Raster.Shrinks width height size
  /-- The computation of the box in words of 64 bits and of 32 bits cuts nothing off. -/
  box : Raster.thumbnailWidth < width →
    (Raster.boxHeight (.ofNat width) (.ofNat height)).toNat =
      max 1 (height * Raster.thumbnailWidth / width)
  word : size.1 < 2 ^ 32 ∧ size.2 < 2 ^ 32

/-- A picture of the given size has a thumbnail, and its header gives the size of the thumbnail. -/
structure Renders (picture : Bytes) (size : Nat × Nat) (thumbnail : Bytes) : Prop where
  preview : preview? picture = some thumbnail
  size : Png.size? thumbnail = some size
  /-- Such a thumbnail is made of the screenshot of a step. -/
  made : ∀ (artifacts : Artifacts) (runId stepId : String), isKey stepId = true →
    artifacts.disk.node? (artifacts.location runId stepId) = some (.file picture) →
      rendition artifacts.disk (artifacts.location runId stepId) = .ok thumbnail

theorem sized_thumbnailSize (widthPos : 0 < width) (widthWord : width < 2 ^ 32)
    (heightPos : 0 < height) (heightWord : height < 2 ^ 32) :
    Sized width height (Raster.thumbnailSize width height) := by
  have widthSame : (UInt32.ofNat width).toNat = width := UInt32.toNat_ofNat_of_lt' widthWord
  have heightSame : (UInt32.ofNat height).toNat = height := UInt32.toNat_ofNat_of_lt' heightWord
  have sides := Raster.sides_thumbnailSize widthPos widthWord heightPos heightWord
  refine ⟨fun narrow => ?_, fun wide => ?_, fun wide => ?_, ?_, ?_⟩
  · rw [Raster.thumbnailSize, if_neg (Nat.not_lt.2 narrow)]
  · exact Raster.shrinks_thumbnailSize wide widthWord heightPos heightWord
  · rw [Raster.toNat_boxHeight (by rwa [widthSame]), widthSame, heightSame]
  · exact lt_of_le_of_lt sides.1.2 widthWord
  · exact lt_of_le_of_lt sides.2.2 heightWord

theorem size_thumbnail (raster : Raster) :
    (raster.thumbnail.width, raster.thumbnail.height) =
      Raster.thumbnailSize raster.width raster.height := by
  unfold Raster.thumbnail
  split
  · rfl
  · next narrow => rw [Raster.thumbnailSize, if_neg narrow]

/-- The thumbnail of a picture that can be decoded is encoded with its size in the header. -/
theorem renders_of_decode? (decoded : Png.decode? picture = some raster) :
    ∃ thumbnail, Renders picture (Raster.thumbnailSize raster.width raster.height) thumbnail := by
  obtain ⟨⟨widthPos, widthFits⟩, heightPos, heightFits⟩ := Png.sides_of_decode? decoded
  have made : preview? picture = some (Png.encode raster.thumbnail) := by
    rw [preview?, decoded, Option.map_some]
  have limit : Png.largestSide < 2 ^ 32 := by decide
  obtain ⟨⟨someWidth, shortWidth⟩, someHeight, shortHeight⟩ := Raster.sides_thumbnailSize widthPos
    (widthFits.trans_lt limit) heightPos (heightFits.trans_lt limit)
  rw [← size_thumbnail] at someWidth shortWidth someHeight shortHeight
  refine ⟨_, made, ?_, fun artifacts runId stepId key file => ?_⟩
  · rw [Png.size?_encode someWidth (shortWidth.trans widthFits) someHeight
      (shortHeight.trans heightFits), size_thumbnail]
  · rw [rendition_picture key file, made]
    rfl

/-- Every picture has a thumbnail of a size that fits it, and every file of a picture has one. -/
theorem sized_and_renders (widthPos : 0 < width) (widthWord : width < 2 ^ 32)
    (heightPos : 0 < height) (heightWord : height < 2 ^ 32) :
    Sized width height (Raster.thumbnailSize width height) ∧
      ∀ picture raster, Png.decode? picture = some raster → raster.width = width →
        raster.height = height →
          ∃ thumbnail, Renders picture (Raster.thumbnailSize width height) thumbnail := by
  refine ⟨sized_thumbnailSize widthPos widthWord heightPos heightWord, ?_⟩
  rintro picture raster decoded rfl rfl
  exact renders_of_decode? decoded

/-- A black picture with 321 places in each of two rows. -/
def stripPicture : Bytes :=
  [137, 80, 78, 71, 13, 10, 26, 10, 0, 0, 0, 13, 73, 72, 68, 82, 0, 0, 1, 65, 0, 0, 0, 2, 1, 0, 0,
    0, 0, 238, 206, 83, 234, 0, 0, 0, 12, 73, 68, 65, 84, 120, 218, 99, 96, 160, 62, 0, 0, 0, 84, 0,
    1, 173, 26, 16, 148, 0, 0, 0, 0, 73, 69, 78, 68, 174, 66, 96, 130]

theorem thumbnailSize_strip : Raster.thumbnailSize 321 2 = (161, 1) := by decide +kernel

/-- The thumbnail of two rows has one row, and about half the width of the box. -/
theorem sized_and_renders_stripPicture :
    Sized 321 2 (161, 1) ∧ ∃ thumbnail, Renders stripPicture (161, 1) thumbnail := by
  obtain ⟨raster, decoded, size⟩ : ∃ raster, Png.decode? stripPicture = some raster ∧
      (raster.width, raster.height) = (321, 2) := Option.map_eq_some_iff.1 (by decide +kernel)
  obtain ⟨wide, high⟩ := Prod.mk.inj size
  rw [← thumbnailSize_strip]
  have law := sized_and_renders (by decide : 0 < 321) (by decide) (by decide : 0 < 2) (by decide)
  exact ⟨law.1, law.2 stripPicture raster decoded wide high⟩

/-- The thumbnail of a picture that is too wide need not be as wide as the box. -/
theorem not_thumbnailWidth_strip :
    ¬∀ width height, 0 < width → width < 2 ^ 32 → 0 < height → height < 2 ^ 32 →
      Raster.thumbnailWidth < width → Raster.thumbnailSize width height =
        (Raster.thumbnailWidth, max 1 (height * Raster.thumbnailWidth / width)) := by
  intro law
  have full := law 321 2 (by decide) (by decide) (by decide) (by decide) (by decide)
  rw [thumbnailSize_strip] at full
  cases full

end StepRunner.Artifacts
