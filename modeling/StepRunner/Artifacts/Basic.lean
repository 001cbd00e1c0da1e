import StepRunner.Bytes.Base64
import StepRunner.Bytes.Sha256
import StepRunner.Catalog.Event
import StepRunner.Disk.Basic
import StepRunner.Image.Png.Reader
import StepRunner.Image.Png.Writer

/-!
This file keeps the screenshots of runs below one directory of a disk.
A screenshot is named by its run and its step, and a thumbnail of it is made on the first request.
Every read first resolves the path it is given and refuses one that leads out of the directory.
-/

namespace StepRunner

open StepRunner.Path (Location)

/-- A disk together with the directory of the screenshots on it. -/
structure Artifacts where
  root : Location
  disk : Disk
  deriving Inhabited

namespace Artifacts

/-- A failure of the disk as a failure of the screenshots. -/
def onDisk {α : Type} (result : Except IoError α) : Except ArtifactError α :=
  result.mapError ArtifactError.io

/-- Sets up the directory of the screenshots at a path. -/
def create (disk : Disk) (path : String) : Except ArtifactError Artifacts := do
  let disk ← onDisk (disk.makeDirectories (Path.join path "runs"))
  let disk ← onDisk (disk.makeDirectories (Path.join path "tmp"))
  let root ← onDisk (disk.resolve path)
  return { root, disk }

/-- The text of the path of the directory. -/
def rootText (artifacts : Artifacts) : String := Path.render artifacts.root

/-- A letter or digit of ASCII, a hyphen or an underscore. -/
def isKeyChar (char : Char) : Bool :=
  char.isAlphanum || char == '-' || char == '_'

/-- A key names a run or a step. -/
def isKey (key : String) : Bool :=
  !key.isEmpty && key.toList.all isKeyChar

/-- Refuses a text that is no key. -/
def checkKey (key : String) : Except ArtifactError Unit :=
  if isKey key then .ok () else .error (.invalidKey key)

/-- The directory of the screenshots of a run. -/
def runDirectory (artifacts : Artifacts) (runId : String) : Location :=
  artifacts.root ++ ["runs", runId]

/-- The location of a screenshot. -/
def location (artifacts : Artifacts) (runId stepId : String) : Location :=
  artifacts.runDirectory runId ++ [stepId ++ ".png"]

/-- Puts a finished file at a location in one piece; it is first written beside the runs. -/
def install (artifacts : Artifacts) (location : Location) (content : Bytes) :
    Except ArtifactError Artifacts := do
  let staging ← onDisk (artifacts.disk.resolve (Path.render (artifacts.root ++ ["tmp"])))
  if !artifacts.disk.isDirectory staging then throw (.io .notDirectory)
  let disk ← onDisk (artifacts.disk.replace (Path.render location) content)
  return { artifacts with disk }

/-- Refuses a screenshot without keys or content. -/
def checkCapture (runId stepId : String) (content : Bytes) : Except ArtifactError Unit := do
  checkKey runId
  checkKey stepId
  if content.isEmpty then throw (.invalidKey "empty screenshot")

/--
Stores the screenshot of a step and gives its path.
The directory of the run is created first, and it stays when the file cannot be stored.
-/
def capture (artifacts : Artifacts) (runId stepId : String) (content : Bytes) :
    Except ArtifactError String × Artifacts :=
  match checkCapture runId stepId content with
  | .error error => (.error error, artifacts)
  | .ok _ =>
    match artifacts.disk.makeDirectories (Path.render (artifacts.runDirectory runId)) with
    | .error error => (.error (.io error), artifacts)
    | .ok disk =>
      let location := artifacts.location runId stepId
      match install { artifacts with disk } location content with
      | .error error => (.error error, { artifacts with disk })
      | .ok artifacts => (.ok (Path.render location), artifacts)

/-- The full path that a request means. -/
def requested (artifacts : Artifacts) (path : String) : String :=
  Path.join artifacts.rootText path

/-- Resolves a requested path and keeps it within the directory. -/
def contain (artifacts : Artifacts) (path : String) : Except ArtifactError Location :=
  match artifacts.disk.resolve (artifacts.requested path) with
  | .ok location =>
    if Path.isBelow artifacts.root location then .ok location else .error (.outsideRoot path)
  | .error _ =>
    if Path.climbs (artifacts.requested path) ||
        !Path.isBelow artifacts.root (Path.names (artifacts.requested path)) then
      .error (.outsideRoot path)
    else .error (.notFound path)

/-- The end of the name of a thumbnail. -/
def thumbnailEnding : String := ".thumb.png"

/-- The name of the thumbnail of a file. -/
def thumbnailName (name : String) : String :=
  if (Text.dropSuffix? thumbnailEnding.toList name.toList).isSome then name
  else Path.stem name ++ thumbnailEnding

/-- The location of the thumbnail of a file. -/
def thumbnailLocation (full : Location) : Location :=
  match full.getLast? with
  | some name => full.dropLast ++ [thumbnailName name]
  | none => [thumbnailEnding]

/-- The content of a thumbnail; only files named as PNG pictures have one. -/
def rendition (disk : Disk) (full : Location) : Except ArtifactError Bytes :=
  let isPicture : Bool :=
    match full.getLast?.bind Path.extension? with
    | some ending => Browser.lowerAscii ending == "png"
    | none => false
  if isPicture then
    match disk.readAt full with
    | .error _ => .error .image
    | .ok content =>
      match Png.decode? content with
      | some raster => .ok (Png.encode raster.thumbnail)
      | none => .error .image
  else .error .image

/-- The location of the thumbnail of a file, which is made unless it is there. -/
def thumbnailAt (artifacts : Artifacts) (full : Location) :
    Except ArtifactError (Location × Artifacts) := do
  let thumbnail := thumbnailLocation full
  if full = thumbnail || artifacts.disk.isThere (Path.render thumbnail) then
    return (thumbnail, artifacts)
  let content ← rendition artifacts.disk full
  let artifacts ← artifacts.install thumbnail content
  return (thumbnail, artifacts)

/-- The path of the thumbnail of a requested file. -/
def thumbnail (artifacts : Artifacts) (path : String) :
    Except ArtifactError (String × Artifacts) := do
  let full ← artifacts.contain path
  let (thumbnail, artifacts) ← artifacts.thumbnailAt full
  return (Path.render thumbnail, artifacts)

/-- The location that a rendition of a file is read from; without a thumbnail it is the file. -/
def target (artifacts : Artifacts) (full : Location) (variant : Variant) : Location × Artifacts :=
  match variant with
  | .full => (full, artifacts)
  | .thumbnail =>
    match artifacts.thumbnailAt full with
    | .ok found => found
    | .error _ => (full, artifacts)

/-- Reads a rendition of a requested file. -/
def read (artifacts : Artifacts) (path : String) (variant : Variant) :
    Except ArtifactError Bytes × Artifacts :=
  match artifacts.contain path with
  | .error error => (.error error, artifacts)
  | .ok full =>
    let (location, artifacts) := artifacts.target full variant
    (onDisk (artifacts.disk.read (Path.render location)), artifacts)

/-- The beginning of the text that carries a picture. -/
def dataUrlHead : String := "data:image/png;base64,"

/-- The text that carries bytes as a picture. -/
def dataUrl (content : Bytes) : String := dataUrlHead ++ Base64.text content

/-- Reads a rendition of a requested file as a text. -/
def readDataUrl (artifacts : Artifacts) (path : String) (variant : Variant) :
    Except ArtifactError String × Artifacts :=
  let (content, artifacts) := artifacts.read path variant
  (content.map dataUrl, artifacts)

/-- The fingerprint of a requested file. -/
def digest (artifacts : Artifacts) (path : String) : Except ArtifactError String := do
  let full ← artifacts.contain path
  let content ← onDisk (artifacts.disk.readAt full)
  return Sha256.hex content

/-- Removes the screenshots of a run, if there are any. -/
def removeRun (artifacts : Artifacts) (runId : String) : Except ArtifactError Artifacts := do
  checkKey runId
  let directory := Path.render (artifacts.runDirectory runId)
  if artifacts.disk.isThere directory then
    let disk ← onDisk (artifacts.disk.removeDirectory directory)
    return { artifacts with disk }
  else return artifacts

end Artifacts

end StepRunner
