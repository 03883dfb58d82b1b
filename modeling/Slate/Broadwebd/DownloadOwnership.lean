import Slate.Broadwebd.Downloads
import Slate.Foundation.SharedTable
import Slate.Foundation.Transaction

/-!
# Whose a download is

A file is the profile's that stored it, until it is deleted. A profile's downloads are its
files as long as no path is used twice: a path whose file was deleted is free for the next
download, of any profile, and still in the index of the first.
-/

namespace Slate.Broadwebd

open Foundation

section Names

variable {filename text : List Char} {char : Char}

/-- A name that stands for an entry of the directory itself. -/
structure IsPlainName (name : List Char) : Prop where
  nonempty : name ≠ []
  notDots : name ≠ ".".toList ∧ name ≠ "..".toList
  chars : ∀ char ∈ name, isFilenameChar char

theorem trimMatches_subset (edge : Char) : trimMatches edge text ⊆ text := by
  intro char isMember
  exact (List.dropWhile_suffix _).subset (Text.trimEndMatches_isPrefix.subset isMember)

theorem isFilenameChar_sanitized (isMember : char ∈ sanitizedFilename filename) :
    isFilenameChar char := by
  unfold sanitizedFilename at isMember
  simp only at isMember
  split at isMember
  · exact List.all_eq_true.mp (by decide : "download".toList.all isFilenameChar = true) char isMember
  · obtain ⟨original, -, rfl⟩ := List.mem_map.mp (trimMatches_subset '.' isMember)
    split
    · assumption
    · decide

theorem sanitized_ne_nil : sanitizedFilename filename ≠ [] := by
  unfold sanitizedFilename
  simp only
  split
  · decide
  · assumption

theorem head_trimMatches (edge : Char) : (trimMatches edge text).head? ≠ some edge := by
  unfold trimMatches Text.trimEndMatches
  generalize isStart : text.dropWhile (· == edge) = start
  intro isEdge
  have atStart : start.head? = some edge := by
    obtain ⟨behind, isText⟩ := List.rdropWhile_prefix (· == edge) start
    rw [← isText, List.head?_append, isEdge]
    rfl
  cases start with
  | nil => cases atStart
  | cons first rest =>
      obtain rfl : first = edge := by simpa using atStart
      have dropped := @List.head?_dropWhile_not _ (· == first) text
      rw [isStart] at dropped
      simp at dropped

theorem head_sanitized : (sanitizedFilename filename).head? ≠ some '.' := by
  unfold sanitizedFilename
  simp only
  split
  · decide
  · exact head_trimMatches '.'

theorem stemAndExtension_subset :
    (stemAndExtension filename).1 ⊆ filename ∧
      ∀ char ∈ (stemAndExtension filename).2, char ∈ filename := by
  unfold stemAndExtension rsplitOnce
  cases found : Text.splitOnce ['.'] filename.reverse with
  | none => simp
  | some parts =>
      have isName := congrArg List.reverse (Text.splitOnce_char_eq_some_iff.mp found).1
      simp only [List.reverse_reverse, List.reverse_append, List.reverse_cons,
        List.append_assoc] at isName
      simp only [Option.map_some]
      split
      · rw [isName]
        exact ⟨List.subset_append_left _ _, fun char isMember =>
          List.mem_append_right _ isMember⟩
      · simp

theorem isPlainName_candidate {candidate : List Char}
    (isCandidate : candidate ∈ downloadFilenameCandidates (sanitizedFilename filename)) :
    IsPlainName candidate := by
  obtain ⟨number, -, rfl⟩ := List.mem_map.mp isCandidate
  cases number with
  | zero =>
      refine ⟨sanitized_ne_nil, ⟨?_, ?_⟩, fun _ => isFilenameChar_sanitized⟩ <;>
        intro same <;> exact head_sanitized (congrArg List.head? same)
  | succ suffix =>
      obtain ⟨stem, extension⟩ := @stemAndExtension_subset (sanitizedFilename filename)
      have dash : '-' ∈ downloadFilenameCandidate (sanitizedFilename filename) (suffix + 1) := by
        simp [downloadFilenameCandidate]
      refine ⟨List.ne_nil_of_mem dash, ⟨?_, ?_⟩, ?_⟩
      · intro same
        rw [same] at dash
        revert dash
        decide
      · intro same
        rw [same] at dash
        revert dash
        decide
      · intro char isMember
        simp only [downloadFilenameCandidate, List.mem_append, List.mem_cons] at isMember
        rcases isMember with inStem | rfl | inDigits | inExtension
        · exact isFilenameChar_sanitized (stem inStem)
        · decide
        · have isDigit := Nat.isDigit_of_mem_toDigits (by decide) (by decide) inDigits
          simp [isFilenameChar, Char.isAlphanum, isDigit]
        · exact isFilenameChar_sanitized (extension _ inExtension)

end Names

inductive DownloadEvent where
  | store (profile filename : String) (body : List UInt8)
  | delete (path : String)
  deriving DecidableEq

/-- The downloads, and whose every file is. -/
structure OwnedDownloads where
  state : DownloadsState
  owner : String → Option String

namespace OwnedDownloads

/-- Before the first download there are no indexes; in the directory there may be any files. -/
def start (entries : String → Option DirectoryEntry) : OwnedDownloads where
  state := { entries, indexes := fun _ => [] }
  owner := fun _ => none

def next (downloadsRoot : String) (owned : OwnedDownloads) (event : DownloadEvent) :
    OwnedDownloads :=
  match event with
  | .store profile filename body =>
    match storeDownload downloadsRoot profile filename body owned.state with
    | .ok (path, state) => { state, owner := Function.update owned.owner path (some profile) }
    | .error _ => owned
  | .delete path => {
      state := deleteDownload path owned.state
      owner := Function.update owned.owner path none }

end OwnedDownloads

section Steps

variable {downloadsRoot profile filename path : String} {body : List UInt8}
  {state after : DownloadsState} {owned : OwnedDownloads} {event : DownloadEvent}

def stored (downloadsRoot profile : String) (candidate : List Char) (body : List UInt8)
    (state : DownloadsState) : DownloadsState :=
  appendDownloadRecord downloadsRoot profile candidate body.length { state with
    entries := Function.update state.entries (downloadPath downloadsRoot candidate)
      (some (.file body)) }

theorem storeDownload_eq_ok_iff :
    storeDownload downloadsRoot profile filename body state = .ok (path, after) ↔
      validateProfileId profile = .ok () ∧ ∃ candidate,
        freeCandidate downloadsRoot state filename = some candidate ∧
          path = downloadPath downloadsRoot candidate ∧
          after = stored downloadsRoot profile candidate body state := by
  unfold storeDownload
  rw [unit_bind_eq_ok_iff]
  apply and_congr_right
  intro _
  cases freeCandidate downloadsRoot state filename with
  | none =>
      apply iff_of_false
      · intro made
        cases made
      · rintro ⟨candidate, isCandidate, -⟩
        cases isCandidate
  | some candidate =>
      constructor
      · intro made
        obtain ⟨rfl, rfl⟩ := Prod.mk.inj (Except.ok.inj made)
        exact ⟨candidate, rfl, rfl, rfl⟩
      · rintro ⟨candidate, isCandidate, rfl, rfl⟩
        obtain rfl := Option.some.inj isCandidate
        rfl

theorem plain_of_freeCandidate {candidate : List Char}
    (free : freeCandidate downloadsRoot state filename = some candidate) :
    IsPlainName candidate ∧ state.entries (downloadPath downloadsRoot candidate) = none := by
  unfold freeCandidate at free
  exact ⟨isPlainName_candidate (List.mem_of_find?_eq_some free), by simpa using List.find?_some free⟩

/-- A call stores at a path right in the downloads directory where nothing stood, and leaves all
other paths as they are. -/
structure StoresSafely (downloadsRoot path : String) (state after : DownloadsState) : Prop where
  fresh : state.entries path = none
  inside : ∃ name, IsPlainName name ∧ path = downloadPath downloadsRoot name
  others : ∀ other ≠ path, after.entries other = state.entries other

theorem storesSafely (made : storeDownload downloadsRoot profile filename body state =
    .ok (path, after)) : StoresSafely downloadsRoot path state after := by
  obtain ⟨-, candidate, free, rfl, rfl⟩ := storeDownload_eq_ok_iff.mp made
  obtain ⟨plain, fresh⟩ := plain_of_freeCandidate free
  refine ⟨fresh, ⟨candidate, plain, rfl⟩, ?_⟩
  intro other isOther
  exact Function.update_of_ne isOther _ _

/-- The profile's downloads are its files, each of them once. -/
def ListsOwn (owned : OwnedDownloads) : Prop :=
  ∀ profile records, downloads profile owned.state = .ok records →
    (records.map (·.path)).Nodup ∧
      ∀ path, path ∈ records.map (·.path) ↔ owned.owner path = some profile

/-- A store takes no path that stands in an index. -/
def TakesUnlistedPath (downloadsRoot : String) (owned : OwnedDownloads) (event : DownloadEvent) :
    Prop :=
  ∀ profile filename body, event = .store profile filename body →
    validateProfileId profile = .ok () →
    ∀ candidate ∈ freeCandidate downloadsRoot owned.state filename, ∀ other,
      ∀ record ∈ owned.state.indexes other, record.path ≠ downloadPath downloadsRoot candidate

def recordedPaths (profile : String) (state : DownloadsState) : List String :=
  (state.indexes profile).map (·.path)

def isFile (state : DownloadsState) (path : String) : Bool :=
  match state.entries path with
  | some (.file _) => true
  | _ => false

theorem isFile_iff : isFile state path ↔ ∃ body, state.entries path = some (.file body) := by
  unfold isFile
  split
  · simp [*]
  · rename_i noFile
    simpa using noFile

theorem paths_filterMap (records : List DownloadIndexRecord) :
    (records.filterMap (existingDownload profile state)).map (·.path) =
      (records.map (·.path)).filter (isFile state) := by
  induction records with
  | nil => rfl
  | cons record rest inductionHypothesis =>
      by_cases isListed : isFile state record.path
      · obtain ⟨body, found⟩ := isFile_iff.mp isListed
        have listed : existingDownload profile state record = some
            { profile, filename := record.filename, path := record.path, sizeBytes := body.length } := by
          simp [existingDownload, found]
        simp [listed, isListed, inductionHypothesis]
      · have skipped : existingDownload profile state record = none := by
          unfold existingDownload
          split
          · rename_i body found
            exact absurd (isFile_iff.mpr ⟨body, found⟩) isListed
          · rfl
        simp [skipped, isListed, inductionHypothesis]

/-- The paths of the downloads are the recorded ones at which a file stands. -/
theorem paths_downloads {records : List TemporaryDownloadRecord}
    (listed : downloads profile state = .ok records) :
    (records.map (·.path)).Perm ((recordedPaths profile state).filter (isFile state)) := by
  obtain ⟨-, isList⟩ := unit_bind_eq_ok_iff.mp listed
  obtain rfl := Except.ok.inj isList
  rw [recordedPaths, ← paths_filterMap]
  exact (List.mergeSort_perm _ _).map _

theorem recordedPaths_stored (other : String) (candidate : List Char) :
    recordedPaths other (stored downloadsRoot profile candidate body state) =
      if other = profile then recordedPaths profile state ++ [downloadPath downloadsRoot candidate]
      else recordedPaths other state := by
  unfold recordedPaths stored appendDownloadRecord
  by_cases same : other = profile
  · subst same
    simp
  · simp [same]

theorem isFile_stored (candidate : List Char) :
    isFile (stored downloadsRoot profile candidate body state) path =
      if path = downloadPath downloadsRoot candidate then true else isFile state path := by
  unfold isFile stored appendDownloadRecord
  by_cases same : path = downloadPath downloadsRoot candidate
  · subst same
    simp
  · simp [same]

theorem isFile_deleteDownload {other : String} :
    isFile (deleteDownload other state) path = (path ≠ other && isFile state path) := by
  unfold deleteDownload
  split
  · by_cases same : path = other
    · subst same
      simp [isFile]
    · simp [isFile, same]
  · rename_i noFile
    by_cases same : path = other
    · subst same
      have gone : isFile state path = false := by
        rw [← Bool.not_eq_true, isFile_iff]
        rintro ⟨body, found⟩
        exact noFile body found
      simp [gone]
    · simp [same]

theorem recordedPaths_deleteDownload {other : String} :
    recordedPaths profile (deleteDownload other state) = recordedPaths profile state := by
  unfold deleteDownload
  split <;> rfl

/-- Every path stands in one index, once, and the files are those of the profiles. -/
structure DownloadsInvariant (owned : OwnedDownloads) : Prop where
  distinct : ∀ profile, (recordedPaths profile owned.state).Nodup
  separate : ∀ profile other path, path ∈ recordedPaths profile owned.state →
    path ∈ recordedPaths other owned.state → profile = other
  owner_iff : ∀ profile path, owned.owner path = some profile ↔
    path ∈ recordedPaths profile owned.state ∧ isFile owned.state path
  valid : ∀ profile path, path ∈ recordedPaths profile owned.state →
    validateProfileId profile = .ok ()

theorem DownloadsInvariant.listsOwn (invariant : DownloadsInvariant owned) : ListsOwn owned := by
  intro profile records listed
  have perm := paths_downloads listed
  refine ⟨perm.nodup_iff.mpr ((invariant.distinct profile).filter _), fun path => ?_⟩
  rw [perm.mem_iff, List.mem_filter, invariant.owner_iff]

theorem DownloadsInvariant.after_store {candidate : List Char}
    (invariant : DownloadsInvariant owned) (valid : validateProfileId profile = .ok ())
    (unlisted : ∀ other, downloadPath downloadsRoot candidate ∉ recordedPaths other owned.state) :
    DownloadsInvariant {
      state := stored downloadsRoot profile candidate body owned.state
      owner := Function.update owned.owner (downloadPath downloadsRoot candidate) (some profile) } := by
  generalize isPath : downloadPath downloadsRoot candidate = path at unlisted
  have recorded (other : String) :
      recordedPaths other (stored downloadsRoot profile candidate body owned.state) =
        if other = profile then recordedPaths profile owned.state ++ [path]
        else recordedPaths other owned.state := by
    rw [recordedPaths_stored, isPath]
  have mem_iff (other wanted : String) :
      wanted ∈ recordedPaths other (stored downloadsRoot profile candidate body owned.state) ↔
        wanted ∈ recordedPaths other owned.state ∨ other = profile ∧ wanted = path := by
    rw [recorded]
    split
    · rename_i same
      simp [same]
    · simp [*]
  constructor
  · intro other
    rw [recorded]
    split
    · rw [List.nodup_append]
      refine ⟨invariant.distinct profile, List.nodup_singleton path, ?_⟩
      rintro old isOld same isSame rfl
      obtain rfl := List.mem_singleton.mp isSame
      exact unlisted profile isOld
    · exact invariant.distinct other
  · intro first second wanted inFirst inSecond
    rcases (mem_iff first wanted).mp inFirst with oldFirst | ⟨rfl, rfl⟩
    · rcases (mem_iff second wanted).mp inSecond with oldSecond | ⟨rfl, rfl⟩
      · exact invariant.separate first second wanted oldFirst oldSecond
      · exact absurd oldFirst (unlisted first)
    · rcases (mem_iff second wanted).mp inSecond with oldSecond | ⟨rfl, -⟩
      · exact absurd oldSecond (unlisted second)
      · rfl
  · intro other wanted
    rw [mem_iff, isFile_stored, isPath]
    by_cases same : wanted = path
    · subst same
      simp [unlisted, eq_comm]
    · simp [same, invariant.owner_iff]
  · intro other wanted isRecorded
    rcases (mem_iff other wanted).mp isRecorded with old | ⟨rfl, -⟩
    · exact invariant.valid other wanted old
    · exact valid

theorem DownloadsInvariant.after_delete (invariant : DownloadsInvariant owned) (path : String) :
    DownloadsInvariant {
      state := deleteDownload path owned.state
      owner := Function.update owned.owner path none } := by
  constructor
  · intro profile
    rw [recordedPaths_deleteDownload]
    exact invariant.distinct profile
  · intro first second wanted
    rw [recordedPaths_deleteDownload, recordedPaths_deleteDownload]
    exact invariant.separate first second wanted
  · intro profile wanted
    rw [recordedPaths_deleteDownload, isFile_deleteDownload]
    by_cases same : wanted = path
    · subst same
      simp
    · simp [same, invariant.owner_iff]
  · intro profile wanted
    rw [recordedPaths_deleteDownload]
    exact invariant.valid profile wanted

theorem DownloadsInvariant.next (invariant : DownloadsInvariant owned)
    (unlisted : TakesUnlistedPath downloadsRoot owned event) :
    DownloadsInvariant (owned.next downloadsRoot event) := by
  unfold OwnedDownloads.next
  split
  · rename_i profile filename body
    split
    · rename_i path after made
      obtain ⟨valid, candidate, free, rfl, rfl⟩ := storeDownload_eq_ok_iff.mp made
      apply invariant.after_store valid
      intro other isRecorded
      obtain ⟨record, isRecord, same⟩ := List.mem_map.mp isRecorded
      exact unlisted profile filename body rfl valid candidate free other record isRecord same
    · exact invariant
  · exact invariant.after_delete _

/-- A path that stands in an index already is listed for two profiles, or twice. -/
theorem unlisted_of_listsOwn (invariant : DownloadsInvariant owned)
    (lists : ListsOwn (owned.next downloadsRoot event)) :
    TakesUnlistedPath downloadsRoot owned event := by
  rintro profile filename body rfl valid candidate free other record isRecord samePath
  have made : storeDownload downloadsRoot profile filename body owned.state =
      .ok (downloadPath downloadsRoot candidate,
        stored downloadsRoot profile candidate body owned.state) :=
    storeDownload_eq_ok_iff.mpr ⟨valid, candidate, free, rfl, rfl⟩
  have isNext : owned.next downloadsRoot (.store profile filename body) = {
      state := stored downloadsRoot profile candidate body owned.state
      owner := Function.update owned.owner (downloadPath downloadsRoot candidate)
        (some profile) } := by
    simp [OwnedDownloads.next, made]
  rw [isNext] at lists
  have isOld : downloadPath downloadsRoot candidate ∈ recordedPaths other owned.state := by
    rw [← samePath]
    exact List.mem_map_of_mem isRecord
  have isStored := @isFile_stored downloadsRoot profile (downloadPath downloadsRoot candidate) body
    owned.state candidate
  rw [if_pos rfl] at isStored
  have listed : downloads other (stored downloadsRoot profile candidate body owned.state) =
      .ok _ := unit_bind_eq_ok_iff.mpr ⟨invariant.valid other _ isOld, rfl⟩
  obtain ⟨once, own⟩ := lists other _ listed
  have perm := paths_downloads listed
  by_cases same : other = profile
  · rw [perm.nodup_iff, recordedPaths_stored, if_pos same, List.filter_append] at once
    subst same
    apply (List.nodup_append.mp once).2.2 (downloadPath downloadsRoot candidate) _
      (downloadPath downloadsRoot candidate) _ rfl
    · exact List.mem_filter.mpr ⟨isOld, isStored⟩
    · simp [isStored]
  · have isOwn := own (downloadPath downloadsRoot candidate)
    rw [perm.mem_iff, List.mem_filter, recordedPaths_stored, if_neg same] at isOwn
    dsimp only at isOwn
    rw [Function.update_self] at isOwn
    exact same (Option.some.inj (isOwn.mp ⟨isOld, isStored⟩)).symm

end Steps

section Runs

variable {downloadsRoot : String}

/-- In every state the downloads of the profiles are their files, and no call stores outside of
the directory or over what stands there. -/
structure DownloadsBelong (downloadsRoot : String) (events : List DownloadEvent)
    (owned : OwnedDownloads) : Prop where
  listsOwn : Throughout (OwnedDownloads.next downloadsRoot) ListsOwn events owned
  storesSafely : AllTaken (OwnedDownloads.next downloadsRoot) (fun owned event =>
    ∀ profile filename body path after, event = .store profile filename body →
      storeDownload downloadsRoot profile filename body owned.state = .ok (path, after) →
        StoresSafely downloadsRoot path owned.state after) events owned

theorem downloadsInvariant_start (entries : String → Option DirectoryEntry) :
    DownloadsInvariant (.start entries) where
  distinct := fun _ => List.nodup_nil
  separate := fun _ _ _ isRecorded => by cases isRecorded
  owner_iff := by simp [OwnedDownloads.start, recordedPaths]
  valid := fun _ _ isRecorded => by cases isRecorded

/-- The downloads belong to the profiles in exactly the runs in which no store takes a path that
an index still has. -/
theorem downloadsBelong_iff (downloadsRoot : String) (entries : String → Option DirectoryEntry)
    (events : List DownloadEvent) :
    DownloadsBelong downloadsRoot events (.start entries) ↔
      AllTaken (OwnedDownloads.next downloadsRoot) (TakesUnlistedPath downloadsRoot) events
        (.start entries) := by
  have lists_iff : Throughout (OwnedDownloads.next downloadsRoot) ListsOwn events (.start entries) ↔
      AllTaken (OwnedDownloads.next downloadsRoot) (TakesUnlistedPath downloadsRoot) events
        (.start entries) := by
    apply @throughout_iff_of_reveals _ _ _ _ DownloadsInvariant
    · intro owned event invariant unlisted
      exact invariant.next unlisted
    · exact fun owned invariant => invariant.listsOwn
    · intro owned event invariant lists
      exact unlisted_of_listsOwn invariant lists
    · exact downloadsInvariant_start entries
  constructor
  · exact fun belong => lists_iff.mp belong.listsOwn
  · intro unlisted
    exact ⟨lists_iff.mpr unlisted, fun _ _ _ _ _ _ _ _ _ made => storesSafely made⟩

/-- The file of one profile is listed for another, whose own file of that name was deleted. -/
theorem deleted_name_is_listed :
    ¬∀ downloadsRoot entries events,
      DownloadsBelong downloadsRoot events (.start entries) := by
  intro belong
  have lists := (belong "/downloads" (fun _ => none)
    [.store "home" "report.pdf" [1], .delete "/downloads/report.pdf",
      .store "work" "report.pdf" [2]]).listsOwn _ (List.prefix_refl _)
  have isOwn := (lists "home" _ rfl).2 "/downloads/report.pdf"
  revert isOwn
  decide +kernel

end Runs

end Slate.Broadwebd
