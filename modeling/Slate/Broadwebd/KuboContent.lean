import Slate.Foundation.PercentCoding
import Slate.Broadwebd.GatewayPlaces

/-!
# Content from a Kubo node

A gateway gets the content path as a part of its URL's path, a Kubo node as the value of a query.
The node reads what was written; the gateway reads what the parser of URLs has left of it, with
escapes decoded. That is the same exactly where the parser and the decoder leave it as it is.
-/

namespace Slate.Broadwebd

open Foundation UrlStandard

section CatUrls

/-- The URL of an endpoint, of a node whose base was parsed and validated. -/
def kuboRpcApiUrlFromValidatedBase (apiBase : UrlStandard.Url) (endpoint : List Char) :
    UrlStandard.Url :=
  let apiPath := Text.trimEndMatches '/' apiBase.path.write ++ "/api/v0/".toList ++
    endpoint.dropWhile (· = '/')
  { apiBase with
    path := .segments (parsePath (isSpecial apiBase.scheme) apiPath)
    query := none }

def kuboCatUrlForValidatedBase (contentPath : List Char) (apiBase : UrlStandard.Url) :
    UrlStandard.Url :=
  let url := kuboRpcApiUrlFromValidatedBase apiBase "cat".toList
  { url with query := some (appendPair url.query "arg".toList contentPath) }

/-- What a node is asked for. -/
def catArgument (url : UrlStandard.Url) : Option (List UInt8) :=
  url.query.bind (formArgument "arg".toList)

theorem catArgument_kuboCatUrl (contentPath : List Char) (apiBase : UrlStandard.Url) :
    catArgument (kuboCatUrlForValidatedBase contentPath apiBase) =
      some (Utf8.encode contentPath) :=
  formArgument_appendPair "arg".toList contentPath

end CatUrls

section Contents

/-- What the gateway reads behind its base is what the node is asked for. -/
def SameContent (base url catUrl : UrlStandard.Url) : Prop :=
  ∃ rest, url.path.write = Text.trimEndMatches '/' base.path.write ++ rest ∧
    catArgument catUrl = some (decoded rest)

/-- The segments of the path of an address: it is not yet that of an HTTP URL, in which
backslashes separate segments too. -/
def IpfsUrlParts.pathSegments (parts : IpfsUrlParts) : List (List Char) :=
  (parts.path.filter fun char => !isTabOrNewline char).splitOn '/'

/-- A content path that neither the parser of URLs nor the decoder changes. -/
structure ReadAsWritten (parts : IpfsUrlParts) : Prop where
  name : isDots parts.name = false
  unescaped : Unescaped parts.contentPath
  noBackslash : '\\' ∉ parts.contentPath
  noTab : ∀ char ∈ parts.contentPath, isTabOrNewline char = false
  end_visible : parts.query = none → ∀ char ∈ parts.contentPath.getLast?, isEdge char = false

end Contents

section Paths

variable {parts : IpfsUrlParts}

theorem contentPath_eq (parts : IpfsUrlParts) :
    parts.contentPath = '/' :: parts.contentPath.tail := rfl

theorem sent_sublist (path : List Char) : (parts.sent path).Sublist path := by
  unfold IpfsUrlParts.sent
  split
  · exact List.filter_sublist
  · exact List.filter_sublist.trans (List.rdropWhile_prefix _ _).sublist

theorem sent_eq_self_iff {path : List Char} : parts.sent path = path ↔
    (∀ char ∈ path, isTabOrNewline char = false) ∧
      (parts.query = none → ∀ char ∈ path.getLast?, isEdge char = false) := by
  have kept (text : List Char) : (text.filter fun char => !isTabOrNewline char) = text ↔
      ∀ char ∈ text, isTabOrNewline char = false := by
    rw [List.filter_eq_self]
    simp
  unfold IpfsUrlParts.sent
  cases parts.query with
  | some query => simp [kept]
  | none =>
      simp only [Option.isSome_none, Bool.false_eq_true, if_false, forall_const]
      have untrimmed : path.rdropWhile isEdge = path ↔
          ∀ char ∈ path.getLast?, isEdge char = false := by
        rw [List.rdropWhile_eq_self_iff]
        constructor
        · intro isVisible char isLast
          obtain ⟨nonempty, rfl⟩ := List.mem_getLast?_eq_getLast isLast
          simpa using isVisible nonempty
        · intro isVisible nonempty
          simpa using isVisible _ (List.getLast?_eq_some_getLast nonempty)
      constructor
      · intro same
        have whole : path.rdropWhile isEdge = path := by
          have isPrefix := List.rdropWhile_prefix isEdge path
          apply isPrefix.eq_of_length_le
          have length := congrArg List.length same
          have shorter := List.length_filter_le (fun char => !isTabOrNewline char)
            (path.rdropWhile isEdge)
          omega
        rw [whole] at same
        exact ⟨(kept path).mp same, untrimmed.mp whole⟩
      · rintro ⟨noTab, isVisible⟩
        rw [untrimmed.mpr isVisible]
        exact (kept path).mpr noTab

/-- The segments that the content path has in the gateway's URL. -/
theorem writeSegments_sent (parts : IpfsUrlParts) :
    writeSegments (splitSegments true (parts.sent parts.contentPath.tail)) =
      encode inPathSet (withSlashes (parts.sent parts.contentPath)) := by
  rw [writeSegments_splitSegments, contentPath_eq, sent_cons_slash, withSlashes_cons]
  rfl

theorem weight_sent_le (parts : IpfsUrlParts) :
    weight (splitSegments true (parts.sent parts.contentPath.tail)) ≤
      (Utf8.encode parts.contentPath).length := by
  rw [← length_decoded_writeSegments, writeSegments_sent, decoded_encode spares_inPathSet]
  calc (decoded (withSlashes (parts.sent parts.contentPath))).length
      ≤ (Utf8.encode (withSlashes (parts.sent parts.contentPath))).length := length_decoded_le
    _ = (Utf8.encode (parts.sent parts.contentPath)).length := length_utf8_withSlashes _
    _ ≤ (Utf8.encode parts.contentPath).length := length_utf8_le_of_sublist (sent_sublist _)

/-- A content path that keeps its length is read as it was written. -/
theorem sent_of_weight (same : weight (splitSegments true (parts.sent parts.contentPath.tail)) =
    (Utf8.encode parts.contentPath).length) :
    parts.sent parts.contentPath = parts.contentPath ∧
      decoded (withSlashes parts.contentPath) = Utf8.encode (withSlashes parts.contentPath) := by
  rw [← length_decoded_writeSegments, writeSegments_sent, decoded_encode spares_inPathSet] at same
  have atMost := @length_decoded_le (withSlashes (parts.sent parts.contentPath))
  have sameLength := length_utf8_withSlashes (parts.sent parts.contentPath)
  have isSent : parts.sent parts.contentPath = parts.contentPath :=
    eq_of_sublist_of_length (sent_sublist _) (by omega)
  rw [isSent] at same sameLength
  exact ⟨isSent, decoded_eq_of_length (by omega)⟩

theorem splitOnP_congr {separates other : Char → Bool} {text : List Char}
    (same : ∀ char ∈ text, separates char = other char) :
    text.splitOnP separates = text.splitOnP other := by
  induction text with
  | nil => rfl
  | cons char text inductionHypothesis =>
      obtain ⟨first, rest⟩ := List.forall_mem_cons.mp same
      rw [List.splitOnP_cons_eq_if_modifyHead, List.splitOnP_cons_eq_if_modifyHead, first,
        inductionHypothesis rest]

theorem splitSegments_of_noBackslash {text : List Char} (noBackslash : '\\' ∉ text) :
    splitSegments true text = (text.splitOn '/').map (encode inPathSet) := by
  unfold splitSegments
  rw [List.splitOn_eq_splitOnP]
  congr 1
  apply splitOnP_congr
  intro char isMember
  have other : char ≠ '\\' := by
    rintro rfl
    exact noBackslash isMember
  simp [isSeparator, other, beq_eq_decide]

/-- Without backslashes the segments are the namespace, the name and those of the path. -/
theorem exists_splitSegments_contentPath (cut : CutFromAddress parts)
    (noBackslash : '\\' ∉ parts.contentPath) : ∃ others,
      splitSegments true parts.contentPath.tail =
        encode inPathSet parts.namespace.toList :: encode inPathSet parts.name :: others ∧
      ∀ segment ∈ others, ∃ part ∈ parts.path.splitOn '/', segment = encode inPathSet part := by
  have isContent : parts.contentPath.tail =
      parts.namespace.toList ++ '/' :: (parts.name ++ parts.pathBehindName) := by
    simp [IpfsUrlParts.contentPath]
  have noBackslashBehind : '\\' ∉ parts.contentPath.tail := fun isMember =>
    noBackslash (List.mem_of_mem_tail isMember)
  have noSlash : '/' ∉ parts.namespace.toList := noSlash_of_isWritten cut.isWritten_namespace
  rw [splitSegments_of_noBackslash noBackslashBehind, isContent,
    List.splitOn_append_cons_self_of_not_mem noSlash, List.map_cons]
  obtain ⟨rest, isPath⟩ := List.head?_eq_some_iff.mp cut.path_head
  unfold IpfsUrlParts.pathBehindName
  by_cases isRoot : parts.path = ['/']
  · rw [if_neg (not_not.mpr isRoot), List.append_nil, List.splitOn_eq_singleton cut.noSlash]
    exact ⟨[], rfl, by simp⟩
  · rw [if_pos isRoot, isPath, List.splitOn_append_cons_self_of_not_mem cut.noSlash, List.map_cons]
    refine ⟨(rest.splitOn '/').map (encode inPathSet), rfl, fun segment isMember => ?_⟩
    obtain ⟨part, isPart, rfl⟩ := List.mem_map.mp isMember
    have parts := @List.splitOn_append_cons_self_of_not_mem Char [] _ _ '/' (by simp) rest
    rw [List.nil_append] at parts
    exact ⟨part, by rw [parts]; exact List.mem_cons_of_mem _ isPart, rfl⟩

theorem noDots_contentPath (cut : CutFromAddress parts)
    (pathNoDots : ∀ segment ∈ parts.pathSegments, isDots segment = false)
    (asWritten : ReadAsWritten parts) :
    ∀ segment ∈ splitSegments true parts.contentPath.tail, isDots segment = false := by
  obtain ⟨others, isSplit, areOthers⟩ := exists_splitSegments_contentPath cut asWritten.noBackslash
  have noTab : ∀ char ∈ parts.path, isTabOrNewline char = false := by
    by_cases isRoot : parts.path = ['/']
    · rw [isRoot]
      exact List.forall_mem_singleton.mpr (by decide)
    · intro char isMember
      apply asWritten.noTab
      simp [IpfsUrlParts.contentPath, IpfsUrlParts.pathBehindName, isRoot, isMember]
  have isPath : (parts.path.filter fun char => !isTabOrNewline char) = parts.path := by
    rw [List.filter_eq_self]
    simpa using noTab
  rw [IpfsUrlParts.pathSegments, isPath] at pathNoDots
  rw [isSplit]
  intro segment isMember
  rcases List.mem_cons.mp isMember with rfl | isMember
  · rw [isDots_encode, cut.isWritten_namespace.noDots]
  · rcases List.mem_cons.mp isMember with rfl | inOthers
    · rw [isDots_encode, asWritten.name]
    · obtain ⟨part, isPart, rfl⟩ := areOthers segment inOthers
      rw [isDots_encode, pathNoDots part isPart]

end Paths

section Strays

variable {parts : IpfsUrlParts} {gatewayBase : String} {base : UrlStandard.Url}
  {behind joined slashes edges rest : List Char} {more : List (List Char)} {stray : List Char}
  {tail : List UInt8}

theorem contentPath_starts (cut : CutFromAddress parts) :
    ∃ tail, Utf8.encode parts.contentPath = 0x2F :: 0x69 :: tail := by
  have starts : ∃ text, parts.contentPath = '/' :: 'i' :: text := by
    unfold IpfsUrlParts.contentPath
    rcases cut.namespaceOf with isNamespace | isNamespace <;>
    · rw [isNamespace]
      exact ⟨_, rfl⟩
  obtain ⟨text, isContent⟩ := starts
  rw [isContent, utf8_of_ascii (by decide), utf8_of_ascii (by decide)]
  exact ⟨_, rfl⟩

/-- Edges stand for themselves at the front of what they are encoded in. -/
theorem exists_decoded_edges (areEdges : ∀ char ∈ edges, isEdge char = true)
    (nonempty : edges ≠ []) (more : List (List Char)) : ∃ byte tail,
      decoded (encode inPathSet edges ++ writeSegments more) = byte :: tail ∧
        byte.toNat ≤ 0x20 := by
  obtain ⟨first, others, rfl⟩ := List.exists_cons_of_ne_nil nonempty
  have small : first.toNat ≤ 0x20 := of_decide_eq_true (areEdges first List.mem_cons_self)
  have other : first ≠ '%' := by
    rintro rfl
    revert small
    decide
  rw [decoded_append_writeSegments, decoded_encode spares_inPathSet, decoded_cons_of_ne other,
    Utf8.utf8EncodeChar_ascii (by omega)]
  refine ⟨_, _, rfl, ?_⟩
  rw [UInt8.toNat_ofNat']
  omega

theorem ne_of_stray (isStray : IsStray stray) :
    decoded (writeSegments (stray :: more)) ≠ 0x2F :: 0x69 :: tail := by
  rw [writeSegments_cons, decoded_slash]
  intro same
  have sameRest := (List.cons.inj same).2
  rcases isStray with rfl | ⟨edges, someEdges, areEdges, rfl⟩
  · rw [List.nil_append] at sameRest
    cases more with
    | nil => cases sameRest
    | cons segment more =>
        rw [writeSegments_cons, decoded_slash] at sameRest
        exact absurd (List.cons.inj sameRest).1 (by decide)
  · obtain ⟨byte, others, isDecoded, small⟩ := exists_decoded_edges areEdges someEdges more
    rw [isDecoded] at sameRest
    rw [(List.cons.inj sameRest).1] at small
    exact absurd small (by decide)

theorem length_writeSegments_take_le (segments : List (List Char)) (count : Nat) :
    (writeSegments (segments.take count)).length ≤ (writeSegments segments).length := by
  have whole := congrArg writeSegments (List.take_append_drop count segments)
  rw [writeSegments_append] at whole
  rw [← whole, List.length_append]
  exact Nat.le_add_right _ _

/-- What is left of the base in front of the content, beyond the base's own path, is not what the
content path begins with. -/
theorem ReadsBase.ne_beyond_place
    (reads : ReadsBase gatewayBase base behind joined slashes edges)
    (withoutMarks : WithoutMarks gatewayBase) {count : Nat} {beyond : List Char}
    (nonempty : beyond ≠ []) (isPlace : writeSegments ((joinedPlace gatewayBase).take count) =
      writeSegments (basePlace gatewayBase) ++ beyond) :
    decoded (beyond ++ writeSegments more) ≠ 0x2F :: 0x69 :: tail := by
  have longer := congrArg List.length isPlace
  have positive := List.length_pos_iff.mpr nonempty
  rw [List.length_append] at longer
  rcases reads.basePlace_cases withoutMarks with
    ⟨strays, isJoined, areStray⟩ | ⟨others, last, edges, isBase, isJoined, someEdges, areEdges⟩
  · rw [isJoined, List.take_append] at isPlace longer
    cases isTaken : strays.take (count - (basePlace gatewayBase).length) with
    | nil =>
        rw [isTaken, List.append_nil] at longer
        have shorter := length_writeSegments_take_le (basePlace gatewayBase) count
        omega
    | cons stray others =>
        have inStrays : stray ∈ strays := by
          apply List.mem_of_mem_take
          rw [isTaken]
          exact List.mem_cons_self
        have beyondPlace : (basePlace gatewayBase).length ≤ count := by
          by_contra inside
          rw [Nat.sub_eq_zero_of_le (Nat.le_of_lt (not_le.mp inside)), List.take_zero] at isTaken
          cases isTaken
        rw [isTaken, List.take_of_length_le beyondPlace, writeSegments_append,
          List.append_right_inj] at isPlace
        rw [← isPlace, ← writeSegments_append]
        exact ne_of_stray (areStray stray inStrays)
  · by_cases whole : count ≤ others.length
    · rw [isJoined, List.take_append_of_le_length whole, isBase, writeSegments_append,
        List.length_append] at longer
      have shorter := length_writeSegments_take_le others count
      omega
    · have isWhole : (joinedPlace gatewayBase).take count = joinedPlace gatewayBase := by
        apply List.take_of_length_le
        rw [isJoined, List.length_append, List.length_singleton]
        omega
      have isBeyond : beyond = encode inPathSet edges := by
        rw [isWhole, isJoined, isBase, writeSegments_append, writeSegments_append,
          List.append_assoc, List.append_right_inj] at isPlace
        simpa [writeSegments] using isPlace.symm
      obtain ⟨byte, behindEdges, isDecoded, small⟩ := exists_decoded_edges areEdges someEdges more
      rw [isBeyond, isDecoded]
      intro same
      rw [(List.cons.inj same).1] at small
      exact absurd small (by decide)

end Strays

section Same

variable {parsers : UrlStandard.Parsers} {parseError : String → String}
  {source gatewayBase gatewayUrl : String} {parts : IpfsUrlParts}
  {base url apiBase : UrlStandard.Url} {candidate : IpfsContentPathCandidate}
  {others : List IpfsContentPathCandidate} {behind joined slashes edges rest : List Char}

theorem contentPath_of_candidate {library : UrlLibrary}
    (accepted : ipfsUrlParts library source = .ok parts)
    (candidates : ipfsContentPathCandidates library source = .ok (candidate :: others)) :
    candidate.contentPath = parts.contentPath := by
  unfold ipfsContentPathCandidates at candidates
  rw [accepted] at candidates
  have same := (List.cons.inj (Except.ok.inj candidates)).1
  rw [← same]
  rfl

theorem sameContent_iff_exists (reads : ReadsBase gatewayBase base behind joined slashes edges)
    (noDots : ∀ segment ∈ baseSegments gatewayBase, isDots segment = false) :
    SameContent base url (kuboCatUrlForValidatedBase parts.contentPath apiBase) ↔
      ∃ rest, url.path.write = writeSegments (basePlace gatewayBase) ++ rest ∧
        decoded rest = Utf8.encode parts.contentPath := by
  unfold SameContent
  rw [catArgument_kuboCatUrl, reads.trimmed_path noDots]
  simp only [Option.some.injEq, eq_comm]

/-- Behind a query or a fragment the gateway reads nothing of the content path. -/
theorem withoutMarks_of_read (reads : ReadsBase gatewayBase base behind joined slashes edges)
    (cut : CutFromAddress parts)
    (noDots : ∀ segment ∈ baseSegments gatewayBase, isDots segment = false)
    (isPath : url.path =
      .segments (parsePath true (pathText (joined ++ '/' :: parts.textBehindBase))))
    (isWritten : url.path.write = writeSegments (basePlace gatewayBase) ++ rest)
    (isRead : decoded rest = Utf8.encode parts.contentPath) : WithoutMarks gatewayBase := by
  by_contra marked
  rw [reads.pathText_of_marked marked] at isPath
  rw [reads.baseSegments_eq] at noDots
  obtain ⟨empties, isBase, areEmpty⟩ := exists_rdropWhile (parsePath true (pathText behind))
  rw [rdropWhile_parsePath noDots, ← reads.baseSegments_eq] at isBase
  change _ = basePlace gatewayBase ++ empties at isBase
  rw [isPath, isBase, Path.write, writeSegments_append, List.append_right_inj] at isWritten
  obtain ⟨tail, starts⟩ := contentPath_starts cut
  rw [← isRead, ← isWritten] at starts
  cases empties with
  | nil => cases starts
  | cons stray empties =>
      exact ne_of_stray (.inl (areEmpty stray List.mem_cons_self)) starts

theorem isHexDigit_of_starts {char : Char} {text : List Char} {tail : List UInt8}
    (starts : decoded (char :: text) = 0x2F :: tail) : isHexDigit char = false := by
  rw [Bool.eq_false_iff]
  intro isDigit
  have other : char ≠ '%' := by
    rintro rfl
    revert isDigit
    decide
  have noSlash : char ≠ '/' := by
    rintro rfl
    revert isDigit
    decide
  have ascii := isHexDigit_ascii isDigit
  rw [decoded_cons_of_ne other, Utf8.utf8EncodeChar_ascii ascii, List.singleton_append] at starts
  apply noSlash
  rw [← ofNat_toNat_of_ascii ascii, (List.cons.inj starts).1]
  rfl

theorem writeSegments_inj {segments others : List (List Char)}
    (noSlash : ∀ segment ∈ segments, '/' ∉ segment) (otherNoSlash : ∀ segment ∈ others, '/' ∉ segment)
    (same : writeSegments segments = writeSegments others) : segments = others := by
  have isPrefix := (writeSegments_isPrefix_iff noSlash otherNoSlash).mp
    ⟨[], by rw [same, List.append_nil], .inl rfl⟩
  obtain ⟨more, rfl⟩ := isPrefix
  rw [writeSegments_append, List.self_eq_append_right] at same
  cases more with
  | nil => exact (List.append_nil _).symm
  | cons segment more => cases same

/-- Where the gateway reads the content path, the parser of URLs has kept all of it. -/
theorem kept_of_read (reads : ReadsBase gatewayBase base behind joined slashes edges)
    (cut : CutFromAddress parts) (withoutMarks : WithoutMarks gatewayBase)
    (noDots : ∀ segment ∈ baseSegments gatewayBase, isDots segment = false)
    (isPath : url.path = .segments (addSegments [] (joinedPlace gatewayBase ++
      splitSegments true (parts.sent parts.contentPath.tail))))
    (isWritten : url.path.write = writeSegments (basePlace gatewayBase) ++ rest)
    (isRead : decoded rest = Utf8.encode parts.contentPath) :
    KeepsPlace gatewayBase ∧
      rest = writeSegments (splitSegments true (parts.sent parts.contentPath.tail)) ∧
      (∀ segment ∈ splitSegments true (parts.sent parts.contentPath.tail),
        isDots segment = false) ∧
      weight (splitSegments true (parts.sent parts.contentPath.tail)) =
        (Utf8.encode parts.contentPath).length := by
  obtain ⟨tail, starts⟩ := contentPath_starts cut
  have atMost := weight_sent_le parts
  have nonempty : splitSegments true (parts.sent parts.contentPath.tail) ≠ [] := splitSegments_ne_nil
  generalize splitSegments true (parts.sent parts.contentPath.tail) = segments at *
  have placeNoDots := reads.joinedPlace_noDots withoutMarks noDots
  rw [addSegments_append nonempty placeNoDots, List.nil_append, addSegments_eq_endsAt] at isPath
  rw [isPath, Path.write, Walk.endsAt, writeSegments_append] at isWritten
  obtain ⟨more, isBase, isDown⟩ : ∃ more,
      writeSegments (basePlace gatewayBase) = writeSegments ((joinedPlace gatewayBase).take
        ((joinedPlace gatewayBase).length - (walkOf segments).up)) ++ more ∧
      writeSegments (walkOf segments).down = more ++ rest := by
    rcases List.append_eq_append_iff.mp isWritten with found | ⟨beyond, isPlace, isRest⟩
    · exact found
    · by_cases atPlace : beyond = []
      · rw [atPlace, List.append_nil] at isPlace
        rw [atPlace, List.nil_append] at isRest
        exact ⟨[], by rw [isPlace, List.append_nil], by rw [isRest, List.nil_append]⟩
      · rw [← isRead, isRest] at starts
        exact absurd starts (reads.ne_beyond_place withoutMarks atPlace isPlace)
  have isWeight : weight (walkOf segments).down =
      (decoded more).length + (Utf8.encode parts.contentPath).length := by
    rw [← isRead] at starts
    cases rest with
    | nil => cases starts
    | cons char rest =>
        rw [← isRead, ← length_decoded_writeSegments, isDown,
          decoded_append (isHexDigit_of_starts starts), List.length_append]
  obtain ⟨lighter, lighterOfDots⟩ := @weight_along segments ⟨0, []⟩
  have none : weight (⟨0, []⟩ : Walk).down = 0 := rfl
  rw [none, Nat.zero_add] at lighter lighterOfDots
  change weight (walkOf segments).down ≤ weight segments at lighter
  change _ → weight (walkOf segments).down < weight segments at lighterOfDots
  have noMore : more = [] := decoded_eq_nil_iff.mp (List.length_eq_zero_iff.mp (by omega))
  have segmentsNoDots : ∀ segment ∈ segments, isDots segment = false := by
    intro segment isMember
    rw [Bool.eq_false_iff]
    intro areDots
    have less := lighterOfDots ⟨segment, isMember, areDots⟩
    omega
  have isWalk : walkOf segments = ⟨0, segments⟩ := along_of_noDots segmentsNoDots
  rw [noMore, isWalk, List.append_nil, Nat.sub_zero, List.take_length] at isBase
  rw [noMore, isWalk, List.nil_append] at isDown
  have noSlash : ∀ segment ∈ joinedPlace gatewayBase, '/' ∉ segment := by
    rw [reads.joinedPlace_eq]
    intro segment isMember isSlash
    have plain := isPathChar_of_mem_pathSegments isMember isSlash
    revert plain
    decide
  have baseNoSlash : ∀ segment ∈ basePlace gatewayBase, '/' ∉ segment := by
    intro segment isMember isSlash
    have inBase : segment ∈ baseSegments gatewayBase := (List.rdropWhile_prefix _ _).subset isMember
    rw [reads.baseSegments_eq] at inBase
    have plain := isPathChar_of_mem_pathSegments inBase isSlash
    revert plain
    decide
  exact ⟨writeSegments_inj noSlash baseNoSlash isBase.symm, isDown.symm, segmentsNoDots, by omega⟩

/-- The gateway and a Kubo node are asked for the same content exactly where the base has no query
and no fragment and keeps its path when slashes are trimmed off it, and the content path is one
that neither the parser of URLs nor the decoder changes. -/
theorem sameContent_iff
    (accepted : ipfsUrlParts (standardUrls parsers parseError) source = .ok parts)
    (pathNoDots : ∀ segment ∈ parts.pathSegments, isDots segment = false)
    (isBase : UrlStandard.parse parsers gatewayBase.toList = some base)
    (http : base.scheme = "http".toList ∨ base.scheme = "https".toList)
    (noDots : ∀ segment ∈ baseSegments gatewayBase, isDots segment = false)
    (requested : ipfsGatewayHttpUrl (standardUrls parsers parseError) source gatewayBase =
      .ok gatewayUrl)
    (sent : UrlStandard.parse parsers gatewayUrl.toList = some url)
    (candidates : ipfsContentPathCandidates (standardUrls parsers parseError) source =
      .ok (candidate :: others)) :
    SameContent base url (kuboCatUrlForValidatedBase candidate.contentPath apiBase) ↔
      WithoutMarks gatewayBase ∧ KeepsPlace gatewayBase ∧ ReadAsWritten parts := by
  have cut := cutFromAddress_of_accepted accepted
  obtain ⟨special, noFile⟩ := isSpecial_of_http http
  obtain ⟨behind, joined, slashes, edges, reads⟩ := exists_readsBase isBase special noFile
  rw [contentPath_of_candidate accepted candidates, sameContent_iff_exists reads noDots]
  rw [ipfsGatewayHttpUrl_eq, accepted] at requested
  obtain rfl := Except.ok.inj requested
  constructor
  · rintro ⟨rest, isWritten, isRead⟩
    have withoutMarks := withoutMarks_of_read reads cut noDots
      (parsedPath_gatewayHttpUrl reads special noFile sent) isWritten isRead
    obtain ⟨keeps, isRest, segmentsNoDots, same⟩ := kept_of_read reads cut withoutMarks noDots
      (path_gatewayHttpUrl cut reads withoutMarks special noFile sent) isWritten isRead
    obtain ⟨isSent, isDecoded⟩ := sent_of_weight same
    obtain ⟨noTab, endVisible⟩ := sent_eq_self_iff.mp isSent
    have isSlashed : withSlashes parts.contentPath = parts.contentPath := by
      rw [isRest, writeSegments_sent, decoded_encode spares_inPathSet, isSent, isDecoded] at isRead
      exact Option.some.inj ((Utf8.decode_eq_some_iff.mpr rfl).symm.trans
        (Utf8.decode_eq_some_iff.mpr isRead))
    have noBackslash := withSlashes_eq_self_iff.mp isSlashed
    rw [isSlashed] at isDecoded
    refine ⟨withoutMarks, keeps, ?_, decoded_eq_iff.mp isDecoded, noBackslash, noTab, endVisible⟩
    have sentTail : parts.sent parts.contentPath.tail = parts.contentPath.tail := by
      rw [contentPath_eq, sent_cons_slash] at isSent
      exact (List.cons.inj isSent).2
    obtain ⟨segments, isSplit, -⟩ := exists_splitSegments_contentPath cut noBackslash
    rw [sentTail, isSplit] at segmentsNoDots
    have nameNoDots := segmentsNoDots (encode inPathSet parts.name) (by simp)
    rwa [isDots_encode] at nameNoDots
  · rintro ⟨withoutMarks, keeps, asWritten⟩
    have isSent := sent_eq_self_iff.mpr ⟨asWritten.noTab, asWritten.end_visible⟩
    have sentTail : parts.sent parts.contentPath.tail = parts.contentPath.tail := by
      rw [contentPath_eq, sent_cons_slash] at isSent
      exact (List.cons.inj isSent).2
    have isWritten := writeSegments_sent parts
    rw [sentTail, isSent, withSlashes_eq_self_iff.mpr asWritten.noBackslash] at isWritten
    have placeNoDots := reads.joinedPlace_noDots withoutMarks noDots
    refine ⟨encode inPathSet parts.contentPath, ?_, ?_⟩
    · rw [path_gatewayHttpUrl cut reads withoutMarks special noFile sent, sentTail,
        addSegments_of_noDots, List.nil_append, Path.write, writeSegments_append, keeps, isWritten]
      intro segment isMember
      rcases List.mem_append.mp isMember with inPlace | inContent
      · exact placeNoDots segment inPlace
      · exact noDots_contentPath cut pathNoDots asWritten segment inContent
    · rw [decoded_encode spares_inPathSet, decoded_eq_iff.mpr asWritten.unescaped]

def sampleApiBase : UrlStandard.Url := { sampleBase with host := some "localhost".toList }

def samplePage : UrlStandard.Url :=
  { sampleBase with path := .segments ["ipfs".toList, "bafy".toList, "docs".toList] }

theorem page_same_content :
    SameContent sampleBase samplePage
        (kuboCatUrlForValidatedBase "/ipfs/bafy/docs".toList sampleApiBase) ↔
      WithoutMarks "https://gateway.example" ∧ KeepsPlace "https://gateway.example" ∧
        ReadAsWritten sampleParts :=
  @sameContent_iff UrlStandard.asciiParsers id "ipfs://bafy/docs" "https://gateway.example" _
    sampleParts sampleBase samplePage sampleApiBase ⟨"/ipfs/bafy/docs".toList, _⟩ _
    sampleParts_of_page (by decide) rfl (.inr rfl) (by decide) rfl rfl rfl

def escapedParts : IpfsUrlParts where
  «namespace» := "ipfs"
  name := "bafy".toList
  path := "/a%20b".toList
  query := none

/-- A gateway decodes an escape that a Kubo node takes for the name of a file. -/
theorem escape_read_apart :
    ipfsUrlParts (standardUrls UrlStandard.asciiParsers id) "ipfs://bafy/a%20b" =
        .ok escapedParts ∧
      (∀ segment ∈ escapedParts.pathSegments, isDots segment = false) ∧
      UrlStandard.parse UrlStandard.asciiParsers "https://gateway.example".toList =
        some sampleBase ∧
      (∀ segment ∈ baseSegments "https://gateway.example", isDots segment = false) ∧
      ∃ gatewayUrl url candidate others,
        ipfsGatewayHttpUrl (standardUrls UrlStandard.asciiParsers id) "ipfs://bafy/a%20b"
          "https://gateway.example" = .ok gatewayUrl ∧
        UrlStandard.parse UrlStandard.asciiParsers gatewayUrl.toList = some url ∧
        ipfsContentPathCandidates (standardUrls UrlStandard.asciiParsers id)
          "ipfs://bafy/a%20b" = .ok (candidate :: others) ∧
        ¬SameContent sampleBase url
          (kuboCatUrlForValidatedBase candidate.contentPath sampleApiBase) := by
  refine ⟨rfl, by decide, rfl, by decide, _,
    { sampleBase with path := .segments ["ipfs".toList, "bafy".toList, "a%20b".toList] }, _, _,
    rfl, rfl, rfl, ?_⟩
  rintro ⟨rest, isWritten, isRead⟩
  have isRest : rest = "/ipfs/bafy/a%20b".toList := isWritten.symm
  rw [catArgument_kuboCatUrl, isRest] at isRead
  have length := congrArg List.length (Option.some.inj isRead)
  revert length
  decide

end Same

end Slate.Broadwebd
