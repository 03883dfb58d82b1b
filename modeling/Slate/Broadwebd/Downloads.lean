import Mathlib.Data.List.Nodup
import Mathlib.Data.List.Sort
import Slate.Broadwebd.Http
import Slate.Browser.Navigation

/-!
# The downloads of the profiles

All profiles store their downloads in one directory. Which of the files are a profile's is
written in an index of its own, by their paths, and never taken back; the files may be deleted
by others.
-/

namespace Slate.Broadwebd

open Foundation

section Filenames

def isFilenameChar (char : Char) : Bool :=
  char.isAlphanum || char = '.' || char = '-' || char = '_'

def trimMatches (edge : Char) (text : List Char) : List Char :=
  Text.trimEndMatches edge (text.dropWhile (· == edge))

def sanitizedFilename (filename : List Char) : List Char :=
  let output := (filename.take 160).map fun char => if isFilenameChar char then char else '_'
  let output := trimMatches '.' output
  if output = [] then "download".toList else output

/-- The text before the last separator and the text after it. -/
def rsplitOnce (separator : Char) (text : List Char) : Option (List Char × List Char) :=
  (Text.splitOnce [separator] text.reverse).map fun parts => (parts.2.reverse, parts.1.reverse)

/-- The stem of a file name, and its extension with the dot. -/
def stemAndExtension (filename : List Char) : List Char × List Char :=
  match rsplitOnce '.' filename with
  | some (stem, extension) =>
    if stem ≠ [] ∧ extension ≠ [] then (stem, '.' :: extension) else (filename, [])
  | none => (filename, [])

def downloadFilenameCandidate (filename : List Char) : Nat → List Char
  | 0 => filename
  | suffix + 1 =>
    let (stem, extension) := stemAndExtension filename
    stem ++ '-' :: (Nat.toDigits 10 (suffix + 1) ++ extension)

def downloadFilenameCandidates (filename : List Char) : List (List Char) :=
  (List.range 1000).map (downloadFilenameCandidate filename)

end Filenames

structure DownloadIndexRecord where
  filename : String
  path : String
  sizeBytes : Nat
  deriving DecidableEq, Repr

structure TemporaryDownloadRecord where
  profile : String
  filename : String
  path : String
  sizeBytes : Nat
  deriving DecidableEq, Repr

/-- What stands at a path. -/
inductive DirectoryEntry where
  | file (body : List UInt8)
  | directory
  deriving DecidableEq, Repr

/-- The files of the downloads directory, by their paths, and the lines of the indexes. -/
structure DownloadsState where
  entries : String → Option DirectoryEntry
  indexes : String → List DownloadIndexRecord

def validateProfileId (profile : String) : Except BroadwebdError Unit :=
  if profile ≠ "" ∧ profile.toList.all fun char => char.isAlphanum || char = '-' || char = '_' then
    .ok ()
  else .error (.invalidProfile profile)

section Store

variable (downloadsRoot : String)

def downloadPath (candidate : List Char) : String :=
  String.ofList (Browser.joinPath downloadsRoot.toList candidate)

/-- The first of the names tried at whose path nothing stands. -/
def freeCandidate (state : DownloadsState) (filename : String) : Option (List Char) :=
  (downloadFilenameCandidates (sanitizedFilename filename.toList)).find? fun candidate =>
    (state.entries (downloadPath downloadsRoot candidate)).isNone

/-- The name in the record is that of the path, which is the candidate. -/
def appendDownloadRecord (profile : String) (candidate : List Char) (sizeBytes : Nat)
    (state : DownloadsState) : DownloadsState :=
  let record : DownloadIndexRecord := {
    filename := String.ofList candidate
    path := downloadPath downloadsRoot candidate
    sizeBytes }
  { state with
    indexes := Function.update state.indexes profile (state.indexes profile ++ [record]) }

def storeDownload (profile filename : String) (body : List UInt8) (state : DownloadsState) :
    Except BroadwebdError (String × DownloadsState) := do
  validateProfileId profile
  match freeCandidate downloadsRoot state filename with
  | some candidate =>
    let path := downloadPath downloadsRoot candidate
    let state := { state with entries := Function.update state.entries path (some (.file body)) }
    pure (path, appendDownloadRecord downloadsRoot profile candidate body.length state)
  | none =>
    throw (.unsupportedRequest ("could not allocate a download filename for " ++
      String.ofList (sanitizedFilename filename.toList)))

end Store

def existingDownload (profile : String) (state : DownloadsState) (record : DownloadIndexRecord) :
    Option TemporaryDownloadRecord :=
  match state.entries record.path with
  | some (.file body) =>
    some { profile, filename := record.filename, path := record.path, sizeBytes := body.length }
  | _ => none

def downloads (profile : String) (state : DownloadsState) :
    Except BroadwebdError (List TemporaryDownloadRecord) := do
  validateProfileId profile
  pure (((state.indexes profile).filterMap (existingDownload profile state)).mergeSort
    fun first second => decide (first.filename ≤ second.filename))

/-- A file is deleted from outside. -/
def deleteDownload (path : String) (state : DownloadsState) : DownloadsState :=
  match state.entries path with
  | some (.file _) => { state with entries := Function.update state.entries path none }
  | _ => state

end Slate.Broadwebd
