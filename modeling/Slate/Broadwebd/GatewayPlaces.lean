import Slate.Foundation.UrlPaths
import Slate.Broadwebd.IpfsAddress

/-!
# Where a gateway serves content

The URL that a gateway is asked for has the gateway's own path in front and the content's behind
it. The parts are cut from the text of an address and are read again as those of an HTTP URL: the
dots of the content's path then lead up, past the name of the content if there are enough of them.
-/

namespace Slate.Broadwebd

open Foundation UrlStandard

section Bases

/-- The base as it stands in front of the content. -/
def trimmedBase (gatewayBase : String) : List Char := Text.trimEndMatches '/' gatewayBase.toList

def behindScheme (text : List Char) : List Char := ((splitScheme text).map Prod.snd).getD []

/-- The segments of the base's own path. -/
def baseSegments (gatewayBase : String) : List (List Char) :=
  pathSegments (behindScheme (cleaned gatewayBase.toList))

def basePlace (gatewayBase : String) : List (List Char) :=
  (baseSegments gatewayBase).rdropWhile (· = [])

/-- The segments of the base in front of the content. -/
def joinedPlace (gatewayBase : String) : List (List Char) :=
  pathSegments (behindScheme (startCleaned (trimmedBase gatewayBase)))

def WithoutMarks (gatewayBase : String) : Prop :=
  ∀ char ∈ gatewayBase.toList, isMark char = false

/-- What is written behind the base stands behind its path. -/
def KeepsPlace (gatewayBase : String) : Prop := joinedPlace gatewayBase = basePlace gatewayBase

end Bases

section Contents

/-- The path that the URL gets behind the content's name. -/
def IpfsUrlParts.pathBehindName (parts : IpfsUrlParts) : List Char :=
  if parts.path ≠ ['/'] then parts.path else []

def IpfsUrlParts.contentPath (parts : IpfsUrlParts) : List Char :=
  '/' :: parts.namespace.toList ++ '/' :: parts.name ++ parts.pathBehindName

/-- A path as the URL parser comes to see it: without what is cleaned away at the end of the URL,
if there is no query, and inside of it. -/
def IpfsUrlParts.sent (parts : IpfsUrlParts) (path : List Char) : List Char :=
  (if parts.query.isSome then path else path.rdropWhile isEdge).filter fun char =>
    !isTabOrNewline char

def IpfsUrlParts.contentText (parts : IpfsUrlParts) : List Char := parts.sent parts.pathBehindName

def IpfsUrlParts.contentSegments (parts : IpfsUrlParts) : List (List Char) :=
  match parts.contentText with
  | [] => []
  | _ :: text => splitSegments true text

/-- Where the path leads from the content's name. -/
def IpfsUrlParts.contentWalk (parts : IpfsUrlParts) : Walk := walkOf parts.contentSegments

def IpfsUrlParts.namedAt (parts : IpfsUrlParts) (place : List (List Char)) : List (List Char) :=
  place ++ [parts.namespace.toList, parts.name]

/-- The URL's path is the base's with the content behind it. -/
def StaysInside (parts : IpfsUrlParts) (base url : UrlStandard.Url) : Prop :=
  ∃ rest, url.path.write = Text.trimEndMatches '/' base.path.write ++
      '/' :: parts.namespace.toList ++ '/' :: parts.name ++ rest ∧
    EndsOrSlashes rest

end Contents

section BaseLemmas

variable {parsers : UrlStandard.Parsers} {gatewayBase : String} {base : UrlStandard.Url}

theorem exists_trimmed (gatewayBase : String) : ∃ slashes,
    gatewayBase.toList = trimmedBase gatewayBase ++ slashes ∧ ∀ char ∈ slashes, char = '/' := by
  refine ⟨gatewayBase.toList.rtakeWhile (· = '/'), ?_, ?_⟩
  · unfold trimmedBase Text.trimEndMatches
    rw [List.rdropWhile, List.rtakeWhile, ← List.reverse_append]
    have whole := List.takeWhile_append_dropWhile (p := (· == '/')) (l := gatewayBase.toList.reverse)
    have same : (fun char : Char => decide (char = '/')) = (· == '/') := by
      funext char
      rfl
    rw [same, whole, List.reverse_reverse]
  · intro char isMember
    simpa using List.mem_rtakeWhile_imp isMember

theorem behindScheme_of_splitScheme {text scheme behind : List Char}
    (isSplit : splitScheme text = some (scheme, behind)) : behindScheme text = behind := by
  simp [behindScheme, isSplit]

/-- What parsing a base says of its text, as it is and as it stands in front of the content: the
one goes on with slashes, or the other with what is cleaned away at the end. -/
structure ReadsBase (gatewayBase : String) (base : UrlStandard.Url)
    (behind joined slashes edges : List Char) : Prop where
  isSplit : splitScheme (cleaned gatewayBase.toList) = some (base.scheme, behind)
  isJoined : splitScheme (startCleaned (trimmedBase gatewayBase)) = some (base.scheme, joined)
  same : joined ++ slashes = behind ++ edges
  areSlashes : ∀ char ∈ slashes, char = '/'
  areEdges : ∀ char ∈ edges, isEdge char = true
  oneOf : slashes = [] ∨ edges = []
  nonempty : hierarchyText behind ≠ []
  path : base.path = .segments (parsePath true (pathText behind))

theorem not_isEdge_slash : isEdge '/' = false := by decide

theorem exists_readsBase (isBase : UrlStandard.parse parsers gatewayBase.toList = some base)
    (special : isSpecial base.scheme = true) (noFile : base.scheme ≠ "file".toList) :
    ∃ behind joined slashes edges, ReadsBase gatewayBase base behind joined slashes edges := by
  obtain ⟨behind, isSplit, nonempty, path⟩ := path_of_parse isBase special noFile
  obtain ⟨slashes, isTrimmed, areSlashes⟩ := exists_trimmed gatewayBase
  obtain ⟨edges, isCleaned, areEdges⟩ := exists_edges gatewayBase.toList
  obtain ⟨name, isText, isName, isLetter, isScheme⟩ := of_splitScheme isSplit
  have visible : ∀ char ∈ slashes, isEdge char = false := by
    intro char isMember
    rw [areSlashes char isMember]
    exact not_isEdge_slash
  rw [isTrimmed, startCleaned_append_visible visible, ← isTrimmed, isText] at isCleaned
  have oneOf : slashes = [] ∨ edges = [] := by
    by_contra both
    obtain ⟨someSlashes, someEdges⟩ := not_or.mp both
    have sameLast := congrArg List.getLast? isCleaned
    rw [List.getLast?_append_of_ne_nil _ someSlashes, List.getLast?_append_of_ne_nil _ someEdges,
      List.getLast?_eq_some_getLast someSlashes, List.getLast?_eq_some_getLast someEdges] at sameLast
    have isVisible := visible _ (List.getLast_mem someSlashes)
    rw [Option.some.inj sameLast, (areEdges _ (List.getLast_mem someEdges)).1] at isVisible
    cases isVisible
  rw [List.append_assoc, List.cons_append] at isCleaned
  obtain ⟨joined, isJoined, same⟩ : ∃ joined,
      startCleaned (trimmedBase gatewayBase) = name ++ ':' :: joined ∧
        joined ++ slashes = behind ++ edges := by
    have isCleaned' : startCleaned (trimmedBase gatewayBase) ++ slashes =
        (name ++ [':']) ++ (behind ++ edges) := by simpa using isCleaned
    rcases List.append_eq_append_iff.mp isCleaned' with
      ⟨more, isName, isRest⟩ | ⟨more, isStart, isRest⟩
    · have noMore : more = [] := by
        by_contra someMore
        have inSlashes : ':' ∈ slashes := by
          have isLast : more.getLast someMore = ':' := by
            have sameLast := congrArg List.getLast? isName
            rw [List.getLast?_append_of_ne_nil _ someMore, List.getLast?_concat,
              List.getLast?_eq_some_getLast someMore] at sameLast
            exact (Option.some.inj sameLast).symm
          rw [isRest, ← isLast]
          exact List.mem_append_left _ (List.getLast_mem someMore)
        exact absurd (areSlashes ':' inSlashes) (by decide)
      rw [noMore, List.append_nil] at isName
      rw [noMore, List.nil_append] at isRest
      exact ⟨[], by rw [← isName], by rw [isRest, List.nil_append]⟩
    · exact ⟨more, by simpa using isStart, isRest.symm⟩
  refine ⟨behind, joined, slashes, edges, isSplit, ?_, same, areSlashes,
    fun char isMember => (areEdges char isMember).1, oneOf, nonempty, path⟩
  rw [isJoined, isScheme]
  exact splitScheme_append isName isLetter

variable {behind joined slashes edges : List Char}

theorem ReadsBase.baseSegments_eq (reads : ReadsBase gatewayBase base behind joined slashes edges) :
    baseSegments gatewayBase = pathSegments behind := by
  rw [baseSegments, behindScheme_of_splitScheme reads.isSplit]

theorem ReadsBase.joinedPlace_eq (reads : ReadsBase gatewayBase base behind joined slashes edges) :
    joinedPlace gatewayBase = pathSegments joined := by
  rw [joinedPlace, behindScheme_of_splitScheme reads.isJoined]

theorem noMark_of_splitScheme {text scheme : List Char}
    (isSplit : splitScheme text = some (scheme, behind))
    (noMark : ∀ char ∈ text, isMark char = false) : ∀ char ∈ behind, isMark char = false := by
  obtain ⟨name, rfl, -⟩ := of_splitScheme isSplit
  exact fun char isMember => noMark char (by simp [isMember])

theorem ReadsBase.behind_noMark (reads : ReadsBase gatewayBase base behind joined slashes edges)
    (withoutMarks : WithoutMarks gatewayBase) : ∀ char ∈ behind, isMark char = false := by
  apply noMark_of_splitScheme reads.isSplit
  intro char isMember
  apply withoutMarks
  unfold cleaned at isMember
  exact (List.dropWhile_sublist _).subset
    ((List.rdropWhile_prefix _ _).subset (List.mem_of_mem_filter isMember))

theorem ReadsBase.joined_noMark (reads : ReadsBase gatewayBase base behind joined slashes edges)
    (withoutMarks : WithoutMarks gatewayBase) : ∀ char ∈ joined, isMark char = false := by
  apply noMark_of_splitScheme reads.isJoined
  intro char isMember
  apply withoutMarks
  unfold startCleaned at isMember
  exact Text.trimEndMatches_isPrefix.subset
    ((List.dropWhile_sublist _).subset (List.mem_of_mem_filter isMember))

theorem before_of_noMark {text : List Char} (noMark : ∀ char ∈ text, isMark char = false) :
    Text.before isMark text = text := by
  unfold Text.before
  rw [List.takeWhile_eq_self_iff]
  simpa using noMark

theorem ReadsBase.joined_nonempty (reads : ReadsBase gatewayBase base behind joined slashes edges)
    (withoutMarks : WithoutMarks gatewayBase) : hierarchyText joined ≠ [] := by
  have nonempty := reads.nonempty
  unfold hierarchyText at nonempty ⊢
  rw [before_of_noMark (reads.behind_noMark withoutMarks), Ne, List.dropWhile_eq_nil_iff] at nonempty
  rw [before_of_noMark (reads.joined_noMark withoutMarks), Ne, List.dropWhile_eq_nil_iff]
  intro onlySlashes
  apply nonempty
  intro char isMember
  have inWhole : char ∈ joined ++ slashes := by
    rw [reads.same]
    exact List.mem_append_left _ isMember
  rcases List.mem_append.mp inWhole with inJoined | inSlashes
  · exact onlySlashes char inJoined
  · rw [reads.areSlashes char inSlashes]
    decide

/-- In front of the content the base has lost empty segments, or its last segment goes on. -/
theorem ReadsBase.joinedPlace_cases (reads : ReadsBase gatewayBase base behind joined slashes edges)
    (withoutMarks : WithoutMarks gatewayBase) :
    (∃ empties, baseSegments gatewayBase = joinedPlace gatewayBase ++ empties ∧
      ∀ segment ∈ empties, segment = []) ∨
    ∃ others last edges, baseSegments gatewayBase = others ++ [last] ∧
      joinedPlace gatewayBase = others ++ [last ++ encode inPathSet edges] ∧ edges ≠ [] ∧
        ∀ char ∈ edges, isEdge char = true := by
  rw [reads.baseSegments_eq, reads.joinedPlace_eq]
  have same := reads.same
  by_cases noEdges : edges = []
  · rw [noEdges, List.append_nil] at same
    rw [← same]
    exact .inl (pathSegments_slashes (reads.joined_noMark withoutMarks)
      (reads.joined_nonempty withoutMarks) reads.areSlashes)
  · rw [reads.oneOf.resolve_right noEdges, List.append_nil] at same
    rw [same]
    rcases pathSegments_edges (reads.behind_noMark withoutMarks) reads.nonempty reads.areEdges with
      samePath | ⟨others, last, isBase, isJoined⟩
    · exact .inl ⟨[], by rw [samePath, List.append_nil], by simp⟩
    · exact .inr ⟨others, last, edges, isBase, isJoined, noEdges, reads.areEdges⟩

theorem ReadsBase.joinedPlace_noDots
    (reads : ReadsBase gatewayBase base behind joined slashes edges)
    (withoutMarks : WithoutMarks gatewayBase)
    (noDots : ∀ segment ∈ baseSegments gatewayBase, isDots segment = false) :
    ∀ segment ∈ joinedPlace gatewayBase, isDots segment = false := by
  intro segment isMember
  rcases reads.joinedPlace_cases withoutMarks with
    ⟨empties, isBase, -⟩ | ⟨others, last, edges, isBase, isJoined, someEdges, areEdges⟩
  · exact noDots segment (by rw [isBase]; exact List.mem_append_left _ isMember)
  · rw [isJoined] at isMember
    rcases List.mem_append.mp isMember with inOthers | isLast
    · exact noDots segment (by rw [isBase]; exact List.mem_append_left _ inOthers)
    · rw [List.mem_singleton.mp isLast]
      exact isDots_append_edges areEdges someEdges

theorem exists_rdropWhile (segments : List (List Char)) :
    ∃ empties, segments = segments.rdropWhile (· = []) ++ empties ∧
      ∀ segment ∈ empties, segment = [] := by
  refine ⟨segments.rtakeWhile (· = []), ?_, fun segment isMember => ?_⟩
  · rw [List.rdropWhile, List.rtakeWhile, ← List.reverse_append, List.takeWhile_append_dropWhile,
      List.reverse_reverse]
  · simpa using List.mem_rtakeWhile_imp isMember

theorem rdropWhile_append_empties {segments empties : List (List Char)}
    (areEmpty : ∀ segment ∈ empties, segment = []) :
    (segments ++ empties).rdropWhile (· = []) = segments.rdropWhile (· = []) := by
  induction empties using List.reverseRecOn with
  | nil => rw [List.append_nil]
  | append_singleton front last inductionHypothesis =>
      rw [← List.append_assoc, List.rdropWhile_concat_pos _ _ _ (by simp [areEmpty last (by simp)]),
        inductionHypothesis fun segment isMember => areEmpty segment (by simp [isMember])]

theorem percent_head_encode_edges (areEdges : ∀ char ∈ edges, isEdge char = true)
    (nonempty : edges ≠ []) : (encode inPathSet edges).head? = some '%' := by
  obtain ⟨first, others, rfl⟩ := List.exists_cons_of_ne_nil nonempty
  rw [encode, List.flatMap_cons, percentEncode_edge (areEdges first List.mem_cons_self)]
  rfl

/-- A segment in front of the content that is none of the base's path. -/
def IsStray (segment : List Char) : Prop :=
  segment = [] ∨ ∃ edges ≠ [], (∀ char ∈ edges, isEdge char = true) ∧
    segment = encode inPathSet edges

/-- In front of the content the base's path has gone on with stray segments, or in its last
segment. -/
theorem ReadsBase.basePlace_cases (reads : ReadsBase gatewayBase base behind joined slashes edges)
    (withoutMarks : WithoutMarks gatewayBase) :
    (∃ strays, joinedPlace gatewayBase = basePlace gatewayBase ++ strays ∧
      ∀ segment ∈ strays, IsStray segment) ∨
    ∃ others last edges, basePlace gatewayBase = others ++ [last] ∧
      joinedPlace gatewayBase = others ++ [last ++ encode inPathSet edges] ∧ edges ≠ [] ∧
        ∀ char ∈ edges, isEdge char = true := by
  rcases reads.joinedPlace_cases withoutMarks with
    ⟨empties, isBase, areEmpty⟩ | ⟨others, last, edges, isBase, isJoined, someEdges, areEdges⟩
  · have isPlace : basePlace gatewayBase = (joinedPlace gatewayBase).rdropWhile (· = []) := by
      rw [basePlace, isBase, rdropWhile_append_empties areEmpty]
    obtain ⟨lost, isJoined, areLost⟩ := exists_rdropWhile (joinedPlace gatewayBase)
    rw [← isPlace] at isJoined
    exact .inl ⟨lost, isJoined, fun segment isMember => .inl (areLost segment isMember)⟩
  · by_cases isEmpty : last = []
    · obtain ⟨lost, isOthers, areLost⟩ := exists_rdropWhile others
      have isPlace : basePlace gatewayBase = others.rdropWhile (· = []) := by
        rw [basePlace, isBase, isEmpty, List.rdropWhile_concat_pos _ _ _ (by simp)]
      rw [isOthers, ← isPlace, isEmpty, List.nil_append, List.append_assoc] at isJoined
      refine .inl ⟨lost ++ [encode inPathSet edges], isJoined, fun segment isMember => ?_⟩
      rcases List.mem_append.mp isMember with inLost | isLast
      · exact .inl (areLost segment inLost)
      · exact .inr ⟨edges, someEdges, areEdges, List.mem_singleton.mp isLast⟩
    · refine .inr ⟨others, last, edges, ?_, isJoined, someEdges, areEdges⟩
      rw [basePlace, isBase, List.rdropWhile_concat_neg _ _ _ (by simp [isEmpty])]

/-- What stands behind a place can be taken for what stands behind another one only where they
are the same. -/
theorem ReadsBase.keepsPlace_of_isPrefix
    (reads : ReadsBase gatewayBase base behind joined slashes edges)
    (withoutMarks : WithoutMarks gatewayBase) {namespaceOf : List Char}
    {more rest : List (List Char)} (isName : namespaceOf ≠ [] ∧ namespaceOf.head? ≠ some '%')
    (isPrefix : basePlace gatewayBase ++ namespaceOf :: more <+:
      joinedPlace gatewayBase ++ namespaceOf :: rest) : KeepsPlace gatewayBase := by
  rcases reads.basePlace_cases withoutMarks with
    ⟨strays, isJoined, areStray⟩ | ⟨others, last, edges, isPlace, isJoined, someEdges, areEdges⟩
  · cases strays with
    | nil => exact isJoined.trans (List.append_nil _)
    | cons stray strays =>
        rw [isJoined, List.append_assoc, List.prefix_append_right_inj, List.cons_append,
          List.cons_prefix_cons] at isPrefix
        rcases areStray stray List.mem_cons_self with
          isEmpty | ⟨edges, someEdges, areEdges, isStray⟩
        · exact absurd (isPrefix.1.trans isEmpty) isName.1
        · have isEdges := percent_head_encode_edges areEdges someEdges
          rw [← isStray, ← isPrefix.1] at isEdges
          exact absurd isEdges isName.2
  · rw [isPlace, isJoined, List.append_assoc, List.append_assoc, List.prefix_append_right_inj,
      List.singleton_append, List.singleton_append, List.cons_prefix_cons] at isPrefix
    have isEdges := percent_head_encode_edges areEdges someEdges
    rw [List.self_eq_append_right.mp isPrefix.1] at isEdges
    cases isEdges

end BaseLemmas

section ContentLemmas

variable {parsers : UrlStandard.Parsers} {library : UrlLibrary} {source gatewayBase : String}
  {parts : IpfsUrlParts} {base url : UrlStandard.Url} {behind joined slashes edges : List Char}

/-- What is known of parts that were cut from an address. -/
structure CutFromAddress (parts : IpfsUrlParts) : Prop where
  namespaceOf : parts.namespace = "ipfs" ∨ parts.namespace = "ipns"
  name_noEnd : ∀ char ∈ parts.name, endsIpfsName char = false
  path_head : parts.path.head? = some '/'
  path_noMark : ∀ char ∈ parts.path, isMark char = false

theorem cutFromAddress_of_accepted (accepted : ipfsUrlParts library source = .ok parts) :
    CutFromAddress parts := by
  obtain ⟨⟨url, -, isNamespace⟩, -, isParts, -⟩ := ipfsUrlParts_eq_ok_iff.mp accepted
  have passes {stop : Char → Bool} {text : List Char} {char : Char}
      (isMember : char ∈ Text.before stop text) : stop char = false := by
    simpa using List.mem_takeWhile_imp isMember
  have isPath : parts.path = readPath (Text.fromStop endsIpfsName (ipfsAuthority source)) := by
    rw [isParts]
    rfl
  refine ⟨?_, ?_, ?_, ?_⟩
  · unfold ipfsNamespace at isNamespace
    split at isNamespace
    · exact .inl (Except.ok.inj isNamespace).symm
    · split at isNamespace
      · exact .inr (Except.ok.inj isNamespace).symm
      · cases isNamespace
  · rw [isParts]
    exact fun char isMember => passes isMember
  · rw [isPath]
    unfold readPath
    split
    · rename_i isSlash
      obtain ⟨rest, isRest⟩ := List.head?_eq_some_iff.mp isSlash
      rw [isRest]
      rfl
    · rfl
  · rw [isPath]
    unfold readPath
    split
    · exact fun char isMember => passes isMember
    · exact List.forall_mem_singleton.mpr (by decide)

theorem CutFromAddress.noSlash (cut : CutFromAddress parts) : '/' ∉ parts.name := by
  intro isMember
  have noEnd := cut.name_noEnd '/' isMember
  revert noEnd
  decide

theorem CutFromAddress.name_noMark (cut : CutFromAddress parts) :
    ∀ char ∈ parts.name, isMark char = false := by
  intro char isMember
  have noEnd := cut.name_noEnd char isMember
  simp only [endsIpfsName, Bool.or_eq_false_iff] at noEnd
  simp [isMark, noEnd.1.2, noEnd.2]

theorem CutFromAddress.isWritten_namespace (cut : CutFromAddress parts) :
    IsWritten true parts.namespace.toList := by
  have plain : ∀ text ∈ ["ipfs", "ipns"],
      text.toList.all (isPathChar true) && !isDots text.toList := by decide
  have isPlain := plain parts.namespace (by simpa using cut.namespaceOf)
  rw [Bool.and_eq_true, List.all_eq_true, Bool.not_eq_true'] at isPlain
  exact ⟨isPlain.1, isPlain.2⟩

theorem CutFromAddress.namespace_starts (cut : CutFromAddress parts) :
    parts.namespace.toList ≠ [] ∧ parts.namespace.toList.head? ≠ some '%' := by
  rcases cut.namespaceOf with isNamespace | isNamespace <;>
  · rw [isNamespace]
    decide

theorem isMark_of_isPathChar {char : Char} (plain : isPathChar true char = true) :
    isMark char = false := by
  unfold isMark
  simp only [Bool.or_eq_false_iff, decide_eq_false_iff_not]
  constructor <;>
  · rintro rfl
    revert plain
    decide

theorem isEdge_of_isPathChar {char : Char} (plain : isPathChar true char = true) :
    isEdge char = false := by
  rw [Bool.eq_false_iff]
  intro edge
  have small : char.toNat ≤ 0x20 := of_decide_eq_true edge
  by_cases isSpace : char.toNat = 0x20
  · have same : char = ' ' := by
      rw [← Char.ofNat_toNat char, isSpace]
    rw [same] at plain
    revert plain
    decide
  · have isControl : isC0Control char = true := decide_eq_true (by omega)
    simp [isPathChar, inPathSet, inQuerySet, inC0ControlSet, isControl] at plain

theorem noSlash_of_isWritten {segment : List Char} (isWritten : IsWritten true segment) :
    '/' ∉ segment := by
  intro isMember
  have plain := isWritten.plain '/' isMember
  revert plain
  decide

def IpfsUrlParts.queryBehindPath (parts : IpfsUrlParts) : List Char :=
  (parts.query.map ('?' :: ·)).getD []

/-- What the URL parser comes to see behind the base and its slash. -/
def IpfsUrlParts.textBehindBase (parts : IpfsUrlParts) : List Char :=
  ((parts.contentPath.tail ++ parts.queryBehindPath).rdropWhile isEdge).filter fun char =>
    !isTabOrNewline char

theorem toList_gatewayHttpUrl : (parts.gatewayHttpUrl gatewayBase).toList =
    trimmedBase gatewayBase ++ (parts.contentPath ++ parts.queryBehindPath) := by
  unfold IpfsUrlParts.gatewayHttpUrl trimmedBase IpfsUrlParts.contentPath
    IpfsUrlParts.pathBehindName IpfsUrlParts.queryBehindPath
  by_cases isRoot : parts.path = ['/'] <;> cases parts.query <;> simp [isRoot]

theorem sent_append_visible {front path : List Char}
    (visible : ∀ char ∈ front, isEdge char = false) :
    parts.sent (front ++ path) = front ++ parts.sent path := by
  unfold IpfsUrlParts.sent
  split
  · rw [List.filter_append, filter_visible visible]
  · rw [Text.rdropWhile_append_of_neg visible, List.filter_append, filter_visible visible]

theorem sent_cons_slash (path : List Char) : parts.sent ('/' :: path) = '/' :: parts.sent path :=
  @sent_append_visible _ ['/'] _ (List.forall_mem_singleton.mpr not_isEdge_slash)

/-- The query ends the path, or what is cleaned away does. -/
theorem before_cleaned {path : List Char} (noMark : ∀ char ∈ path, isMark char = false) :
    Text.before isMark (((path ++ parts.queryBehindPath).rdropWhile isEdge).filter fun char =>
      !isTabOrNewline char) = parts.sent path := by
  unfold IpfsUrlParts.queryBehindPath IpfsUrlParts.sent
  cases parts.query with
  | none =>
      simp only [Option.map_none, Option.getD_none, List.append_nil, Option.isSome_none,
        Bool.false_eq_true, if_false]
      apply before_of_noMark
      intro char isMember
      exact noMark char ((List.rdropWhile_prefix _ _).subset (List.mem_of_mem_filter isMember))
  | some query =>
      simp only [Option.map_some, Option.getD_some, Option.isSome_some, if_true]
      have kept := @Text.rdropWhile_append_of_neg Char isEdge ['?'] query
        (List.forall_mem_singleton.mpr (by decide))
      rw [List.singleton_append, List.singleton_append] at kept
      rw [Text.rdropWhile_append_cons (by decide), kept, List.filter_append,
        List.filter_cons_of_pos (by decide), Text.before_append_stop (by decide)]
      apply before_of_noMark
      intro char isMember
      exact noMark char (List.mem_of_mem_filter isMember)

theorem CutFromAddress.pathBehindName_noMark (cut : CutFromAddress parts) :
    ∀ char ∈ parts.pathBehindName, isMark char = false := by
  unfold IpfsUrlParts.pathBehindName
  split
  · exact cut.path_noMark
  · simp

theorem CutFromAddress.contentPath_noMark (cut : CutFromAddress parts) :
    ∀ char ∈ parts.contentPath.tail, isMark char = false := by
  intro char isMember
  have isContent : char ∈ parts.namespace.toList ++ '/' :: (parts.name ++ parts.pathBehindName) := by
    simpa [IpfsUrlParts.contentPath] using isMember
  rw [List.mem_append, List.mem_cons, List.mem_append] at isContent
  rcases isContent with inNamespace | rfl | inName | inPath
  · exact isMark_of_isPathChar (cut.isWritten_namespace.plain char inNamespace)
  · decide
  · exact cut.name_noMark char inName
  · exact cut.pathBehindName_noMark char inPath

theorem contentText_cases (cut : CutFromAddress parts) :
    parts.contentText = [] ∨ ∃ text, parts.contentText = '/' :: text := by
  obtain ⟨rest, isPath⟩ := List.head?_eq_some_iff.mp cut.path_head
  unfold IpfsUrlParts.contentText IpfsUrlParts.pathBehindName
  by_cases isRoot : parts.path = ['/']
  · rw [if_neg (not_not.mpr isRoot)]
    left
    unfold IpfsUrlParts.sent
    split <;> rfl
  · rw [if_pos isRoot, isPath, sent_cons_slash]
    exact .inr ⟨_, rfl⟩

/-- What the URL says behind its scheme. -/
theorem splitScheme_gatewayHttpUrl (parts : IpfsUrlParts)
    (reads : ReadsBase gatewayBase base behind joined slashes edges) :
    splitScheme (cleaned (parts.gatewayHttpUrl gatewayBase).toList) = some (base.scheme,
      joined ++ '/' :: parts.textBehindBase) := by
  have whole : (parts.gatewayHttpUrl gatewayBase).toList =
      trimmedBase gatewayBase ++ (['/'] ++ (parts.contentPath.tail ++ parts.queryBehindPath)) :=
    toList_gatewayHttpUrl
  rw [whole, cleaned_append_visible (List.forall_mem_singleton.mpr not_isEdge_slash) (by simp),
    splitScheme_extended reads.isJoined]
  rfl

theorem scheme_gatewayHttpUrl (reads : ReadsBase gatewayBase base behind joined slashes edges)
    (sent : UrlStandard.parse parsers (parts.gatewayHttpUrl gatewayBase).toList = some url) :
    url.scheme = base.scheme := by
  obtain ⟨rest, isSplit⟩ := exists_scheme_of_parse sent
  rw [splitScheme_gatewayHttpUrl parts reads] at isSplit
  exact (Prod.mk.inj (Option.some.inj isSplit)).1.symm

/-- The URL has a path, which is read behind the base's. -/
theorem parsedPath_gatewayHttpUrl
    (reads : ReadsBase gatewayBase base behind joined slashes edges)
    (special : isSpecial base.scheme = true) (noFile : base.scheme ≠ "file".toList)
    (sent : UrlStandard.parse parsers (parts.gatewayHttpUrl gatewayBase).toList = some url) :
    url.path = .segments (parsePath true (pathText (joined ++ '/' :: parts.textBehindBase))) := by
  have sameScheme := scheme_gatewayHttpUrl reads sent
  obtain ⟨rest, isSplit, -, isPath⟩ := path_of_parse sent (by rw [sameScheme]; exact special)
    (by rw [sameScheme]; exact noFile)
  rw [splitScheme_gatewayHttpUrl parts reads] at isSplit
  obtain ⟨-, rfl⟩ := Prod.mk.inj (Option.some.inj isSplit)
  exact isPath

/-- Behind a base without a query or a fragment the path is made of the base's segments and of
those of the content path. -/
theorem path_gatewayHttpUrl (cut : CutFromAddress parts)
    (reads : ReadsBase gatewayBase base behind joined slashes edges)
    (withoutMarks : WithoutMarks gatewayBase) (special : isSpecial base.scheme = true)
    (noFile : base.scheme ≠ "file".toList)
    (sent : UrlStandard.parse parsers (parts.gatewayHttpUrl gatewayBase).toList = some url) :
    url.path = .segments (addSegments [] (joinedPlace gatewayBase ++
      splitSegments true (parts.sent parts.contentPath.tail))) := by
  have isPath := parsedPath_gatewayHttpUrl reads special noFile sent
  rw [pathText_append (reads.joined_noMark withoutMarks) (reads.joined_nonempty withoutMarks),
    IpfsUrlParts.textBehindBase, before_cleaned cut.contentPath_noMark, parsePath_append,
    ← reads.joinedPlace_eq] at isPath
  exact isPath

theorem append_named {place more : List (List Char)} :
    place ++ (parts.namespace.toList :: parts.name :: more) = parts.namedAt place ++ more := by
  rw [IpfsUrlParts.namedAt, List.append_assoc]
  rfl

/-- A name that is written as it is stands behind the namespace, with the path behind it. -/
theorem splitSegments_content (cut : CutFromAddress parts) (isName : IsWritten true parts.name) :
    splitSegments true (parts.sent parts.contentPath.tail) =
      parts.namespace.toList :: parts.name :: parts.contentSegments := by
  have visible : ∀ char ∈ parts.namespace.toList ++ '/' :: parts.name, isEdge char = false := by
    intro char isMember
    rw [List.mem_append, List.mem_cons] at isMember
    rcases isMember with inNamespace | rfl | inName
    · exact isEdge_of_isPathChar (cut.isWritten_namespace.plain char inNamespace)
    · exact not_isEdge_slash
    · exact isEdge_of_isPathChar (isName.plain char inName)
  have isSent : parts.sent parts.contentPath.tail =
      parts.namespace.toList ++ '/' :: (parts.name ++ parts.contentText) := by
    have whole : parts.contentPath.tail =
        (parts.namespace.toList ++ '/' :: parts.name) ++ parts.pathBehindName := rfl
    rw [whole, sent_append_visible visible, List.append_assoc, List.cons_append]
    rfl
  rw [isSent, splitSegments_append (by decide),
    splitSegments_of_plain cut.isWritten_namespace.plain, List.singleton_append]
  congr 1
  unfold IpfsUrlParts.contentSegments
  rcases contentText_cases cut with isText | ⟨text, isText⟩
  · rw [isText, List.append_nil, splitSegments_of_plain isName.plain]
  · rw [isText, splitSegments_append (by decide), splitSegments_of_plain isName.plain]
    rfl

/-- The content's path leads on from its name. -/
theorem addSegments_content (cut : CutFromAddress parts) (isName : IsWritten true parts.name)
    {place : List (List Char)} (placeNoDots : ∀ segment ∈ place, isDots segment = false) :
    addSegments [] (place ++ splitSegments true (parts.sent parts.contentPath.tail)) =
      parts.contentWalk.endsAt (parts.namedAt place) := by
  have namedNoDots : ∀ segment ∈ parts.namedAt place, isDots segment = false := by
    intro segment isMember
    rcases List.mem_append.mp isMember with inPlace | inName
    · exact placeNoDots segment inPlace
    · simp only [List.mem_cons, List.not_mem_nil, or_false] at inName
      rcases inName with rfl | rfl
      · exact cut.isWritten_namespace.noDots
      · exact isName.noDots
  rw [splitSegments_content cut isName, append_named]
  unfold IpfsUrlParts.contentWalk
  rw [← addSegments_eq_endsAt]
  by_cases noContent : parts.contentSegments = []
  · rw [noContent, List.append_nil, addSegments_of_noDots namedNoDots]
    rfl
  · rw [addSegments_append noContent namedNoDots, List.nil_append]

end ContentLemmas

section Inside

variable {parsers : UrlStandard.Parsers} {parseError : String → String}
  {source gatewayBase gatewayUrl : String} {parts : IpfsUrlParts} {base url : UrlStandard.Url}
  {behind joined slashes edges : List Char}

theorem ReadsBase.trimmed_path (reads : ReadsBase gatewayBase base behind joined slashes edges)
    (noDots : ∀ segment ∈ baseSegments gatewayBase, isDots segment = false) :
    Text.trimEndMatches '/' base.path.write = writeSegments (basePlace gatewayBase) := by
  rw [reads.baseSegments_eq] at noDots
  have noSlash : ∀ segment ∈ parsePath true (pathText behind), '/' ∉ segment :=
    fun segment isMember => noSlash_of_isWritten (isWritten_of_mem_parsePath isMember)
  rw [reads.path, Path.write, trimEndMatches_writeSegments noSlash, rdropWhile_parsePath noDots,
    basePlace, reads.baseSegments_eq]

theorem staysInside_iff_isPrefix (cut : CutFromAddress parts)
    (reads : ReadsBase gatewayBase base behind joined slashes edges)
    (noDots : ∀ segment ∈ baseSegments gatewayBase, isDots segment = false)
    {segments : List (List Char)} (isPath : url.path = .segments segments)
    (areWritten : ∀ segment ∈ segments, IsWritten true segment) :
    StaysInside parts base url ↔ parts.namedAt (basePlace gatewayBase) <+: segments := by
  have placeNoSlash : ∀ segment ∈ parts.namedAt (basePlace gatewayBase), '/' ∉ segment := by
    intro segment isMember
    rcases List.mem_append.mp isMember with inPlace | inName
    · have inBase : segment ∈ baseSegments gatewayBase := (List.rdropWhile_prefix _ _).subset inPlace
      rw [reads.baseSegments_eq] at inBase
      intro isSlash
      have plain := isPathChar_of_mem_pathSegments inBase isSlash
      revert plain
      decide
    · simp only [List.mem_cons, List.not_mem_nil, or_false] at inName
      rcases inName with rfl | rfl
      · exact noSlash_of_isWritten cut.isWritten_namespace
      · exact cut.noSlash
  rw [← writeSegments_isPrefix_iff placeNoSlash
    fun segment isMember => noSlash_of_isWritten (areWritten segment isMember)]
  unfold StaysInside
  rw [isPath, reads.trimmed_path noDots, IpfsUrlParts.namedAt, writeSegments_append]
  simp [Path.write, writeSegments]

/-- A mark of the base stands in front of everything that follows it. -/
theorem ReadsBase.exists_mark (reads : ReadsBase gatewayBase base behind joined slashes edges)
    (marked : ¬WithoutMarks gatewayBase) :
    ∃ char, isMark char = true ∧ char ∈ behind ∧ char ∈ joined := by
  unfold WithoutMarks at marked
  push Not at marked
  obtain ⟨char, inBase, isMarked⟩ := marked
  rw [Ne, Bool.not_eq_false] at isMarked
  have isVisible : isEdge char = false ∧ char ≠ '/' ∧ isSchemeChar char = false ∧ char ≠ ':' := by
    unfold isMark at isMarked
    rw [Bool.or_eq_true, decide_eq_true_eq, decide_eq_true_eq] at isMarked
    rcases isMarked with rfl | rfl <;> decide
  obtain ⟨noEdge, noSlash, noName, noColon⟩ := isVisible
  have inTrimmed : char ∈ trimmedBase gatewayBase := by
    obtain ⟨final, isText, areSlashes⟩ := exists_trimmed gatewayBase
    rw [isText] at inBase
    exact (List.mem_append.mp inBase).resolve_right fun inSlashes =>
      noSlash (areSlashes char inSlashes)
  have inStart : char ∈ startCleaned (trimmedBase gatewayBase) := by
    refine List.mem_filter.mpr ⟨?_, by simp [not_tabOrNewline_of_visible noEdge]⟩
    rw [← List.takeWhile_append_dropWhile (p := isEdge) (l := trimmedBase gatewayBase)] at inTrimmed
    refine (List.mem_append.mp inTrimmed).resolve_left fun inEdges => ?_
    rw [List.mem_takeWhile_imp inEdges] at noEdge
    cases noEdge
  have inJoined : char ∈ joined := by
    obtain ⟨name, isText, isName, -, -⟩ := of_splitScheme reads.isJoined
    rw [isText] at inStart
    rcases List.mem_append.mp inStart with inName | inRest
    · rw [isName char inName] at noName
      cases noName
    · exact (List.mem_cons.mp inRest).resolve_left noColon
  have inWhole : char ∈ behind ++ edges := by
    rw [← reads.same]
    exact List.mem_append_left _ inJoined
  refine ⟨char, isMarked, (List.mem_append.mp inWhole).resolve_right fun inEdges => ?_, inJoined⟩
  rw [reads.areEdges char inEdges] at noEdge
  cases noEdge

theorem before_append_of_mem {stop : Char → Bool} {char : Char} {text : List Char}
    (stops : stop char = true) (isMember : char ∈ text) (more : List Char) :
    Text.before stop (text ++ more) = Text.before stop text := by
  obtain ⟨front, rest, rfl⟩ := List.append_of_mem isMember
  rw [List.append_assoc, List.cons_append, Text.before_append_stop stops,
    Text.before_append_stop stops]

theorem ReadsBase.pathText_of_marked
    (reads : ReadsBase gatewayBase base behind joined slashes edges)
    (marked : ¬WithoutMarks gatewayBase) (more : List Char) :
    pathText (joined ++ more) = pathText behind := by
  obtain ⟨char, isMarked, inBehind, inJoined⟩ := reads.exists_mark marked
  unfold pathText hierarchyText
  rw [before_append_of_mem isMarked inJoined, ← before_append_of_mem isMarked inJoined slashes,
    reads.same, before_append_of_mem isMarked inBehind]

/-- Behind a query or a fragment the content is no part of the path. -/
theorem ReadsBase.not_isPrefix_of_marked
    (reads : ReadsBase gatewayBase base behind joined slashes edges) (cut : CutFromAddress parts)
    (noDots : ∀ segment ∈ baseSegments gatewayBase, isDots segment = false) :
    ¬parts.namedAt (basePlace gatewayBase) <+: parsePath true (pathText behind) := by
  intro isPrefix
  rw [reads.baseSegments_eq] at noDots
  obtain ⟨empties, isBase, areEmpty⟩ := exists_rdropWhile (parsePath true (pathText behind))
  rw [rdropWhile_parsePath noDots, ← reads.baseSegments_eq] at isBase
  change _ = basePlace gatewayBase ++ empties at isBase
  rw [isBase, IpfsUrlParts.namedAt, List.prefix_append_right_inj] at isPrefix
  have isMember : parts.namespace.toList ∈ empties := isPrefix.subset List.mem_cons_self
  exact cut.namespace_starts.1 (areEmpty _ isMember)

theorem isSpecial_of_http (http : base.scheme = "http".toList ∨ base.scheme = "https".toList) :
    isSpecial base.scheme = true ∧ base.scheme ≠ "file".toList := by
  rcases http with isScheme | isScheme <;>
  · rw [isScheme]
    decide

/-- A walk that never leads up past its beginning stays below it. -/
theorem endsAt_of_up_eq_zero {walk : Walk} {place : List (List Char)} (below : walk.up = 0) :
    walk.endsAt place = place ++ walk.down := by
  simp [Walk.endsAt, below]

/-- A request stays inside its content exactly where the base has no query and no fragment and
keeps its path when slashes are trimmed off it, the name is written in a path as it is, and the
path never leads up past the name. A path that leads up past it stays only where it spells again
what it leads past. -/
theorem staysInside_iff
    (accepted : ipfsUrlParts (standardUrls parsers parseError) source = .ok parts)
    (isBase : UrlStandard.parse parsers gatewayBase.toList = some base)
    (http : base.scheme = "http".toList ∨ base.scheme = "https".toList)
    (noDots : ∀ segment ∈ baseSegments gatewayBase, isDots segment = false)
    (requested : ipfsGatewayHttpUrl (standardUrls parsers parseError) source gatewayBase =
      .ok gatewayUrl)
    (sent : UrlStandard.parse parsers gatewayUrl.toList = some url) :
    StaysInside parts base url ↔
      WithoutMarks gatewayBase ∧ IsWritten true parts.name ∧
        (KeepsPlace gatewayBase ∧ parts.contentWalk.up = 0 ∨
          0 < parts.contentWalk.up ∧ parts.namedAt (basePlace gatewayBase) <+:
            parts.contentWalk.endsAt (parts.namedAt (joinedPlace gatewayBase))) := by
  have cut := cutFromAddress_of_accepted accepted
  obtain ⟨special, noFile⟩ := isSpecial_of_http http
  obtain ⟨behind, joined, slashes, edges, reads⟩ := exists_readsBase isBase special noFile
  rw [ipfsGatewayHttpUrl_eq, accepted] at requested
  obtain rfl := Except.ok.inj requested
  have isPath := parsedPath_gatewayHttpUrl reads special noFile sent
  have areWritten : ∀ segment ∈ parsePath true (pathText (joined ++ '/' :: parts.textBehindBase)),
      IsWritten true segment := fun segment => isWritten_of_mem_parsePath
  have walked (withoutMarks : WithoutMarks gatewayBase) (isName : IsWritten true parts.name) :
      parsePath true (pathText (joined ++ '/' :: parts.textBehindBase)) =
        parts.contentWalk.endsAt (parts.namedAt (joinedPlace gatewayBase)) := by
    have isWalk := path_gatewayHttpUrl cut reads withoutMarks special noFile sent
    rw [isPath, addSegments_content cut isName (reads.joinedPlace_noDots withoutMarks noDots)]
      at isWalk
    exact Path.segments.inj isWalk
  rw [staysInside_iff_isPrefix cut reads noDots isPath areWritten]
  constructor
  · intro isPrefix
    have isName : IsWritten true parts.name :=
      areWritten _ (isPrefix.subset (by simp [IpfsUrlParts.namedAt]))
    have withoutMarks : WithoutMarks gatewayBase := by
      by_contra marked
      rw [reads.pathText_of_marked marked] at isPrefix
      exact reads.not_isPrefix_of_marked cut noDots isPrefix
    rw [walked withoutMarks isName] at isPrefix
    refine ⟨withoutMarks, isName, ?_⟩
    rcases Nat.eq_zero_or_pos parts.contentWalk.up with below | leavesName
    · rw [endsAt_of_up_eq_zero below, IpfsUrlParts.namedAt, IpfsUrlParts.namedAt, List.append_assoc]
        at isPrefix
      exact .inl ⟨reads.keepsPlace_of_isPrefix withoutMarks cut.namespace_starts isPrefix, below⟩
    · exact .inr ⟨leavesName, isPrefix⟩
  · rintro ⟨withoutMarks, isName, ⟨keeps, below⟩ | ⟨-, isPrefix⟩⟩
    · rw [walked withoutMarks isName, endsAt_of_up_eq_zero below, keeps]
      exact List.prefix_append _ _
    · rw [walked withoutMarks isName]
      exact isPrefix

def sampleBase : UrlStandard.Url where
  scheme := "https".toList
  username := []
  password := []
  host := some "gateway.example".toList
  port := none
  path := .segments [[]]
  query := none
  fragment := none

theorem page_stays_inside :
    StaysInside sampleParts sampleBase
        { sampleBase with path := .segments ["ipfs".toList, "bafy".toList, "docs".toList] } ↔
      WithoutMarks "https://gateway.example" ∧ IsWritten true sampleParts.name ∧
        (KeepsPlace "https://gateway.example" ∧ sampleParts.contentWalk.up = 0 ∨
          0 < sampleParts.contentWalk.up ∧
            sampleParts.namedAt (basePlace "https://gateway.example") <+:
              sampleParts.contentWalk.endsAt
                (sampleParts.namedAt (joinedPlace "https://gateway.example"))) :=
  staysInside_iff sampleParts_of_page rfl (.inr rfl) (by decide) rfl rfl

def climbingParts : IpfsUrlParts where
  «namespace» := "ipfs"
  name := "bafy".toList
  path := "/../../ipns/other".toList
  query := none

/-- Dots lead from the content of one name to that of another one. -/
theorem dots_leave_content :
    ipfsUrlParts (standardUrls UrlStandard.asciiParsers id) "ipfs://bafy/../../ipns/other" =
        .ok climbingParts ∧
      UrlStandard.parse UrlStandard.asciiParsers "https://gateway.example".toList =
        some sampleBase ∧
      (∀ segment ∈ baseSegments "https://gateway.example", isDots segment = false) ∧
      ∃ gatewayUrl url,
        ipfsGatewayHttpUrl (standardUrls UrlStandard.asciiParsers id) "ipfs://bafy/../../ipns/other"
          "https://gateway.example" = .ok gatewayUrl ∧
        UrlStandard.parse UrlStandard.asciiParsers gatewayUrl.toList = some url ∧
        url.path.write = "/ipns/other".toList ∧ ¬StaysInside climbingParts sampleBase url := by
  refine ⟨rfl, rfl, by decide, _,
    { sampleBase with path := .segments ["ipns".toList, "other".toList] }, rfl, rfl, rfl, ?_⟩
  rintro ⟨rest, same, -⟩
  have starts : "/ipns".toList = "/ipfs".toList := congrArg (List.take 5) same
  exact absurd starts (by decide)

end Inside

end Slate.Broadwebd
