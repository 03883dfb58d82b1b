import Slate.Foundation.Transaction
import Slate.Foundation.UrlStandard
import Slate.Broadwebd.IpfsGateway

/-!
# IPFS addresses

An IPFS address names its content by the text behind its scheme. A gateway gets that text in a URL
of its own, a Kubo node in a content path, and neither of them should get the fragment.
-/

namespace Slate.Broadwebd

open Foundation

section StandardUrls

variable (parsers : UrlStandard.Parsers) (parseError : String → String)

/-- A URL library that follows the URL standard, with the texts of its errors. -/
def standardUrls : UrlLibrary where
  parse text :=
    match UrlStandard.parse parsers text.toList with
    | none => .error (parseError text)
    | some url => .ok {
        text := String.ofList url.write
        scheme := String.ofList url.scheme
        hostStr := url.hostStr.map String.ofList }

variable {parsers parseError} {source : String} {url : Url}

theorem parseHttpUrl_standardUrls_eq_ok_iff :
    parseHttpUrl (standardUrls parsers parseError) source = .ok url ↔
      ∃ parsed, UrlStandard.parse parsers source.toList = some parsed ∧
        url = {
          text := String.ofList parsed.write
          scheme := String.ofList parsed.scheme
          hostStr := parsed.hostStr.map String.ofList } := by
  unfold parseHttpUrl standardUrls
  rw [mapError_eq_ok_iff]
  dsimp only
  cases UrlStandard.parse parsers source.toList <;> simp [eq_comm]

end StandardUrls

section GatewayUrls

/-- The URL at which a gateway serves the content. -/
def IpfsUrlParts.gatewayHttpUrl (parts : IpfsUrlParts) (gatewayBase : String) : String :=
  let output := Text.trimEndMatches '/' gatewayBase.toList ++ '/' :: parts.namespace.toList ++
    '/' :: parts.name
  let output := if parts.path ≠ ['/'] then output ++ parts.path else output
  let output := match parts.query with
    | some query => output ++ '?' :: query
    | none => output
  String.ofList output

theorem ipfsGatewayHttpUrl_eq (library : UrlLibrary) (source gatewayBase : String) :
    ipfsGatewayHttpUrl library source gatewayBase =
      (ipfsUrlParts library source).map fun parts => parts.gatewayHttpUrl gatewayBase := by
  unfold ipfsGatewayHttpUrl IpfsUrlParts.gatewayHttpUrl
  cases ipfsUrlParts library source <;> rfl

end GatewayUrls

section Parts

def endsIpfsName (char : Char) : Bool := char = '/' || char = '?' || char = '#'

/-- The text behind the scheme. -/
def ipfsAuthority (source : String) : List Char :=
  ((Text.splitOnce "://".toList source.toList).map Prod.snd).getD []

def readPath (remainder : List Char) : List Char :=
  if remainder.head? = some '/' then
    Text.before (fun char => char = '?' || char = '#') remainder
  else ['/']

def readQuery (remainder : List Char) : Option (List Char) :=
  match Text.fromStop (· = '?') remainder with
  | [] => none
  | _ :: query => some (Text.before (· = '#') query)

/-- The parts that are cut from the text behind the scheme. -/
def authorityParts (namespaceOf : String) (authority : List Char) : IpfsUrlParts where
  «namespace» := namespaceOf
  name := Text.before endsIpfsName authority
  path := readPath (Text.fromStop endsIpfsName authority)
  query := readQuery (Text.fromStop endsIpfsName authority)

def IsContentName (name : List Char) : Prop := name ≠ [] ∧ '@' ∉ name ∧ ':' ∉ name

def partsBehindScheme (source namespaceOf : String) : Except BroadwebdError IpfsUrlParts :=
  match Text.splitOnce "://".toList source.toList with
  | none => .error (.invalidUrl s!"{source} is missing an authority")
  | some (_, authority) =>
    let parts := authorityParts namespaceOf authority
    if parts.name = [] then
      .error (.invalidUrl s!"{source} is missing a content name")
    else if '@' ∈ parts.name ∨ ':' ∈ parts.name then
      .error (.invalidUrl s!"{source} must not include userinfo or a port")
    else .ok parts

variable {library : UrlLibrary} {source : String} {parts : IpfsUrlParts}

theorem ipfsUrlParts_eq :
    ipfsUrlParts library source =
      parseHttpUrl library source >>= fun parsed =>
        ipfsNamespace parsed.scheme >>= partsBehindScheme source := by
  unfold ipfsUrlParts partsBehindScheme
  congr 1
  funext parsed
  congr 1
  funext namespaceOf
  cases Text.splitOnce "://".toList source.toList <;> rfl

theorem partsBehindScheme_eq_ok_iff {namespaceOf : String} :
    partsBehindScheme source namespaceOf = .ok parts ↔
      (Text.splitOnce "://".toList source.toList).isSome ∧
      parts = authorityParts namespaceOf (ipfsAuthority source) ∧ IsContentName parts.name := by
  unfold partsBehindScheme ipfsAuthority
  cases Text.splitOnce "://".toList source.toList with
  | none => simp
  | some split =>
      dsimp only [Option.map_some, Option.getD_some]
      generalize authorityParts namespaceOf split.2 = read
      unfold IsContentName
      constructor
      · intro isRead
        split at isRead
        · cases isRead
        · split at isRead
          · cases isRead
          · cases isRead
            simp_all
      · rintro ⟨-, rfl, named, noUserinfo, noPort⟩
        rw [if_neg named, if_neg (by simp [noUserinfo, noPort])]

theorem ipfsUrlParts_eq_ok_iff :
    ipfsUrlParts library source = .ok parts ↔
      (∃ url, parseHttpUrl library source = .ok url ∧
        ipfsNamespace url.scheme = .ok parts.namespace) ∧
      (Text.splitOnce "://".toList source.toList).isSome ∧
      parts = authorityParts parts.namespace (ipfsAuthority source) ∧
      IsContentName parts.name := by
  rw [ipfsUrlParts_eq]
  simp only [bind_eq_ok_iff, partsBehindScheme_eq_ok_iff]
  constructor
  · rintro ⟨url, isUrl, namespaceOf, isNamespace, found, rfl, named⟩
    exact ⟨⟨url, isUrl, isNamespace⟩, found, rfl, named⟩
  · rintro ⟨⟨url, isUrl, isNamespace⟩, found, isParts, named⟩
    exact ⟨url, isUrl, parts.namespace, isNamespace, found, isParts, named⟩

end Parts

section ContentPaths

structure IpfsContentPathCandidate where
  contentPath : List Char
  documentUrl : List Char
  deriving DecidableEq, Repr

def indexDocumentPath (path : List Char) : List Char :=
  if path = ['/'] then "/index.html".toList
  else Text.trimEndMatches '/' path ++ "/index.html".toList

def shouldTryDirectoryIndex (path : List Char) : Bool :=
  path = ['/'] || path.getLast? = some '/' || !(path.rtakeWhile (· ≠ '/')).contains '.'

def IpfsUrlParts.withQuery (parts : IpfsUrlParts) (documentUrl : List Char) : List Char :=
  match parts.query with
  | some query => documentUrl ++ '?' :: query
  | none => documentUrl

def IpfsUrlParts.contentPathCandidates (parts : IpfsUrlParts) : List IpfsContentPathCandidate :=
  let path := if parts.path ≠ ['/'] then parts.path else []
  let contentPath := '/' :: parts.namespace.toList ++ '/' :: parts.name ++ path
  let document := parts.namespace.toList ++ "://".toList ++ parts.name
  { contentPath, documentUrl := parts.withQuery (document ++ path) } ::
    if shouldTryDirectoryIndex parts.path then
      [{ contentPath := Text.trimEndMatches '/' contentPath ++ "/index.html".toList
         documentUrl := parts.withQuery (document ++ indexDocumentPath parts.path) }]
    else []

def ipfsContentPathCandidates (library : UrlLibrary) (source : String) :
    Except BroadwebdError (List IpfsContentPathCandidate) := do
  let parts ← ipfsUrlParts library source
  .ok parts.contentPathCandidates

end ContentPaths

section Fragments

def withFragment (source fragment : String) : String := source ++ "#" ++ fragment

theorem toList_withFragment (source fragment : String) :
    (withFragment source fragment).toList = source.toList ++ '#' :: fragment.toList := by
  simp [withFragment]

/-- A source and its fragment name what the source names. -/
structure FragmentStaysLocal (library : UrlLibrary) (source fragment : String) : Prop where
  parts : ipfsUrlParts library (withFragment source fragment) = ipfsUrlParts library source
  gateway : ∀ gatewayBase, ipfsGatewayHttpUrl library (withFragment source fragment) gatewayBase =
    ipfsGatewayHttpUrl library source gatewayBase
  contentPaths : ipfsContentPathCandidates library (withFragment source fragment) =
    ipfsContentPathCandidates library source

theorem fragmentStaysLocal_iff_parts {library : UrlLibrary} {source fragment : String} :
    FragmentStaysLocal library source fragment ↔
      ipfsUrlParts library (withFragment source fragment) = ipfsUrlParts library source := by
  constructor
  · exact FragmentStaysLocal.parts
  · intro same
    refine ⟨same, fun gatewayBase => ?_, ?_⟩
    · rw [ipfsGatewayHttpUrl_eq, ipfsGatewayHttpUrl_eq, same]
    · unfold ipfsContentPathCandidates
      rw [same]

variable {namespaceOf : String} {authority remainder fragment : List Char}

theorem mark_mem_remainder_iff :
    '?' ∈ Text.fromStop endsIpfsName authority ↔ '?' ∈ authority := by
  constructor
  · apply (List.dropWhile_sublist _).subset
  · intro isMember
    rw [← @Text.before_append_fromStop endsIpfsName authority] at isMember
    rcases List.mem_append.mp isMember with inName | inRemainder
    · have passes := List.mem_takeWhile_imp inName
      exact absurd passes (by decide)
    · exact inRemainder

theorem readPath_fragment : readPath (remainder ++ '#' :: fragment) = readPath remainder := by
  unfold readPath
  cases remainder with
  | nil => simp
  | cons first rest =>
      have sameFirst : (first :: rest ++ '#' :: fragment).head? = (first :: rest).head? := rfl
      rw [sameFirst, Text.before_append_stop (by decide)]

theorem fromStop_mark_eq_nil_iff {mark : Char} {text : List Char} :
    Text.fromStop (· = mark) text = [] ↔ mark ∉ text := by
  rw [Text.fromStop_eq_nil_iff]
  constructor
  · intro passes isMember
    simpa using passes mark isMember
  · intro noMark char isMember
    apply decide_eq_false
    rintro rfl
    exact noMark isMember

/-- A query that stands in front of the fragment ends there; one that is looked for in vain in
front of it is found in the fragment. -/
theorem readQuery_fragment :
    readQuery (remainder ++ '#' :: fragment) = readQuery remainder ↔
      '?' ∈ remainder ∨ '?' ∉ fragment := by
  unfold readQuery
  by_cases hasQuery : '?' ∈ remainder
  · have stops : ∃ char ∈ remainder, decide (char = '?') = true := ⟨'?', hasQuery, by decide⟩
    rw [Text.fromStop_append_of_stop stops]
    cases isQuery : Text.fromStop (· = '?') remainder with
    | nil => exact absurd hasQuery (fromStop_mark_eq_nil_iff.mp isQuery)
    | cons mark query => simp [hasQuery, Text.before_append_stop]
  · have noQuery := Text.fromStop_eq_nil_iff.mp (fromStop_mark_eq_nil_iff.mpr hasQuery)
    have passes : ∀ char ∈ remainder ++ ['#'], decide (char = '?') = false := by
      intro char isMember
      rcases List.mem_append.mp isMember with before | isMark
      · exact noQuery char before
      · rw [List.mem_singleton.mp isMark]
        decide
    rw [List.append_cons, Text.fromStop_append_of_none passes, Text.fromStop_eq_nil_iff.mpr noQuery]
    cases isQuery : Text.fromStop (· = '?') fragment with
    | nil => simp [fromStop_mark_eq_nil_iff.mp isQuery]
    | cons mark query =>
        have isMember : '?' ∈ fragment := by
          by_contra noMark
          rw [fromStop_mark_eq_nil_iff.mpr noMark] at isQuery
          cases isQuery
        simp [hasQuery, isMember]

/-- Of the parts, only the query can come out of a fragment. -/
theorem authorityParts_fragment :
    authorityParts namespaceOf (authority ++ '#' :: fragment) =
        authorityParts namespaceOf authority ↔
      '?' ∈ authority ∨ '?' ∉ fragment := by
  unfold authorityParts
  rw [Text.before_append_stop (by decide), Text.fromStop_append_stop (by decide),
    readPath_fragment, IpfsUrlParts.mk.injEq, readQuery_fragment, mark_mem_remainder_iff]
  simp

variable {parsers : UrlStandard.Parsers} {parseError : String → String} {source text : String}
  {parts : IpfsUrlParts} {url : Url}

/-- The fragment leaves the scheme as it is. -/
theorem scheme_withFragment {whole : Url}
    (behindScheme : (Text.splitOnce "://".toList source.toList).isSome)
    (parsed : parseHttpUrl (standardUrls parsers parseError) source = .ok url)
    (parsedWhole : parseHttpUrl (standardUrls parsers parseError) (withFragment source text) =
      .ok whole) : whole.scheme = url.scheme := by
  obtain ⟨found, isFound, rfl⟩ := parseHttpUrl_standardUrls_eq_ok_iff.mp parsed
  obtain ⟨foundWhole, isFoundWhole, rfl⟩ := parseHttpUrl_standardUrls_eq_ok_iff.mp parsedWhole
  obtain ⟨behind, isScheme⟩ := UrlStandard.exists_scheme_of_parse isFound
  obtain ⟨behindWhole, isSchemeWhole⟩ := UrlStandard.exists_scheme_of_parse isFoundWhole
  have colon : ':' ∈ source.toList := by
    obtain ⟨⟨front, back⟩, isSplit⟩ := Option.isSome_iff_exists.mp behindScheme
    rw [Text.eq_of_splitOnce isSplit]
    simp
  obtain ⟨more, isMore⟩ := @UrlStandard.cleaned_isPrefix source.toList '#' (by decide)
    ⟨':', colon, by decide⟩ text.toList
  rw [toList_withFragment, ← isMore, UrlStandard.splitScheme_extended isScheme] at isSchemeWhole
  dsimp only
  rw [(Prod.mk.inj (Option.some.inj isSchemeWhole)).1]

/-- A fragment stays local exactly where the source has a question mark of its own, or the
fragment has none. -/
theorem fragmentStaysLocal_iff
    (accepted : ipfsUrlParts (standardUrls parsers parseError) source = .ok parts)
    (parsed : parseHttpUrl (standardUrls parsers parseError) (withFragment source text) =
      .ok url) :
    FragmentStaysLocal (standardUrls parsers parseError) source text ↔
      '?' ∈ ipfsAuthority source ∨ '?' ∉ text.toList := by
  obtain ⟨⟨sourceUrl, isUrl, isNamespace⟩, behindScheme, isParts, named⟩ :=
    ipfsUrlParts_eq_ok_iff.mp accepted
  obtain ⟨⟨front, authority⟩, isSplit⟩ := Option.isSome_iff_exists.mp behindScheme
  have isAuthority : ipfsAuthority source = authority := by
    unfold ipfsAuthority
    rw [isSplit]
    rfl
  have splitWhole : Text.splitOnce "://".toList (withFragment source text).toList =
      some (front, authority ++ '#' :: text.toList) := by
    rw [toList_withFragment]
    exact Text.splitOnce_append isSplit _
  have wholeAuthority : ipfsAuthority (withFragment source text) =
      authority ++ '#' :: text.toList := by
    unfold ipfsAuthority
    rw [splitWhole]
    rfl
  rw [fragmentStaysLocal_iff_parts, accepted, ipfsUrlParts_eq_ok_iff, wholeAuthority, isAuthority,
    ← @authorityParts_fragment parts.namespace, ← isAuthority, ← isParts]
  constructor
  · rintro ⟨-, -, same, -⟩
    exact same.symm
  · intro same
    refine ⟨⟨url, parsed, ?_⟩, ?_, same.symm, named⟩
    · rw [scheme_withFragment behindScheme isUrl parsed]
      exact isNamespace
    · rw [splitWhole]
      rfl

def sampleParts : IpfsUrlParts where
  «namespace» := "ipfs"
  name := "bafy".toList
  path := "/docs".toList
  query := none

theorem sampleParts_of_page :
    ipfsUrlParts (standardUrls UrlStandard.asciiParsers id) "ipfs://bafy/docs" = .ok sampleParts :=
  rfl

theorem section_stays_local :
    FragmentStaysLocal (standardUrls UrlStandard.asciiParsers id) "ipfs://bafy/docs" "part/2" ↔
      '?' ∈ ipfsAuthority "ipfs://bafy/docs" ∨ '?' ∉ "part/2".toList :=
  fragmentStaysLocal_iff sampleParts_of_page rfl

/-- A question mark in the fragment of an address without a query makes a query of the rest of
the fragment. -/
theorem question_leaves_fragment :
    '#' ∉ "ipfs://bafy/docs".toList ∧
      ipfsUrlParts (standardUrls UrlStandard.asciiParsers id) "ipfs://bafy/docs" =
        .ok sampleParts ∧
      (∃ url, parseHttpUrl (standardUrls UrlStandard.asciiParsers id)
        (withFragment "ipfs://bafy/docs" "part?draft") = .ok url) ∧
      ¬FragmentStaysLocal (standardUrls UrlStandard.asciiParsers id) "ipfs://bafy/docs" "part?draft" := by
  refine ⟨by decide, sampleParts_of_page, ⟨_, rfl⟩, fun stays => ?_⟩
  have withQuery : ipfsUrlParts (standardUrls UrlStandard.asciiParsers id)
      (withFragment "ipfs://bafy/docs" "part?draft") =
      .ok { sampleParts with query := some "draft".toList } := rfl
  rw [stays.parts, sampleParts_of_page] at withQuery
  cases withQuery

end Fragments

end Slate.Broadwebd
