import Slate.Broadwebd.OnionUrlEnds

/-!
# Two readings of onion URLs

The address bar cuts the text of an HTTP URL of an onion host into pieces and writes a Tor
address from them. The daemon parses the same text and writes the address from the URL. Both
name one target unless the text has characters that the URL library takes differently under the
two schemes, or cleans away at an end that only one of the texts has.
-/

namespace Slate.Broadwebd.Tor

open Foundation

section Condition

/-- The text behind the scheme of a URL. -/
def textBehindScheme (input : List Char) : List Char :=
  ((UrlStandard.splitScheme (UrlStandard.cleaned input)).map (·.2)).getD []

/-- The text of an HTTP URL says the same of a request under a scheme of Slate's own. -/
structure ReadsAlike (input : List Char) : Prop where
  ends : EndsAlike input
  noApostrophe : ∀ query ∈ (UrlStandard.splitTarget (textBehindScheme input)).2, '\'' ∉ query
  sameSegments :
    UrlStandard.parseSegments true (UrlStandard.pathText (textBehindScheme input)).tail =
      UrlStandard.parseSegments false (UrlStandard.pathText (textBehindScheme input)).tail

variable (parsers : UrlStandard.Parsers) (parseError : String → String)

/-- Two addresses of one target. -/
def SameTarget (address other : String) : Prop :=
  ∃ target, torHttpTarget parsers parseError address = .ok target ∧
    torHttpTarget parsers parseError other = .ok target

end Condition

section Address

variable {parsers : UrlStandard.Parsers} {trimmed rest host port target : List Char}
  {scheme : String} {networkScheme : TorNetworkScheme} {torPort : Option Nat}

/-- The slash that is put in front of a query stays when the text is cleaned. -/
theorem endCleaned_requestTarget
    (starts : ∀ char ∈ target.head?, char = '/' ∨ char = '?') :
    UrlStandard.endCleaned (Browser.requestTarget target) =
      Browser.requestTarget (UrlStandard.endCleaned target) := by
  cases target with
  | nil => rfl
  | cons first others =>
      rcases starts first rfl with rfl | rfl
      · change UrlStandard.endCleaned ('/' :: others) = _
        rw [UrlStandard.endCleaned_cons (by decide)]
        rfl
      · change UrlStandard.endCleaned ('/' :: '?' :: others) = _
        rw [UrlStandard.endCleaned_cons (by decide), UrlStandard.endCleaned_cons (by decide)]
        rfl

theorem starts_targetText (rest : List Char) :
    ∀ char ∈ (Browser.targetText rest).head?, char = '/' ∨ char = '?' := by
  intro char isHead
  change char ∈ (Text.before (· = '#') (behindAuthority rest)).head? at isHead
  have starts := @head_behindAuthority rest
  cases isBehind : behindAuthority rest with
  | nil =>
      rw [isBehind] at isHead
      cases isHead
  | cons first others =>
      rw [isBehind] at isHead starts
      by_cases isFragment : first = '#'
      · rw [Text.before, List.takeWhile_cons_of_neg (by simp [isFragment])] at isHead
        cases isHead
      · rw [Text.before, List.takeWhile_cons_of_pos (by simp [isFragment])] at isHead
        obtain rfl := Option.some.inj isHead
        simpa [UrlStandard.isMark, isFragment] using starts first rfl

theorem not_fragment_requestTarget (rest : List Char) :
    '#' ∉ Browser.requestTarget (Browser.targetText rest) := by
  have absent : '#' ∉ Browser.targetText rest := by
    intro isMember
    have passes := List.mem_takeWhile_imp isMember
    revert passes
    decide
  unfold Browser.requestTarget
  split
  · decide
  · rename_i query isTarget
    rw [isTarget] at absent
    simpa using absent
  · exact absent

theorem starts_endCleaned (starts : ∀ char ∈ target.head?, char = '/' ∨ char = '?') :
    ∀ char ∈ (UrlStandard.endCleaned target).head?, char = '/' ∨ char = '?' := by
  cases target with
  | nil => exact fun char isHead => by cases isHead
  | cons first others =>
      have visible : UrlStandard.isEdge first = false := by
        rcases starts first rfl with rfl | rfl <;> decide
      rw [UrlStandard.endCleaned_cons visible]
      exact starts

theorem starts_requestTarget (starts : ∀ char ∈ target.head?, char = '/' ∨ char = '?') :
    (Browser.requestTarget target).head? = some '/' := by
  cases target with
  | nil => rfl
  | cons first others =>
      rcases starts first rfl with rfl | rfl <;> rfl

/-- The URL of the address that the bar writes. -/
def addressUrl (networkScheme : TorNetworkScheme) (host target : List Char)
    (port : Option Nat) : UrlStandard.Url :=
  let parts := UrlStandard.splitMark '?' (Browser.requestTarget (UrlStandard.endCleaned target))
  UrlStandard.withAuthority networkScheme.torScheme
    (parts.2.map (UrlStandard.encode UrlStandard.inQuerySet)) none
    (⟨[], [], Browser.onionHostText host, port⟩,
      .segments (UrlStandard.parsePath false parts.1))

theorem parse_address (isUrl : Browser.HttpOnionUrl trimmed scheme rest host port)
    (isTor : "tor+".toList ++ scheme.toList = networkScheme.torScheme)
    (isPort : UrlStandard.parsePort networkScheme.torScheme
      (if port = [] then none else some port) = some torPort) :
    UrlStandard.parse parsers ("tor+".toList ++ scheme.toList ++ "://".toList ++
        Browser.torAuthority host port ++ Browser.requestTarget (Browser.targetText rest)) =
      some (addressUrl networkScheme host (Browser.targetText rest) torPort) := by
  obtain ⟨isName, isLetter, isLower, ordinary⟩ := torScheme_ordinary networkScheme
  have areNames := List.all_eq_true.mp isName
  have plain := (isPlainHost_onionHostText isUrl.onion).onion
  have areHost := isHostChar_of_onion plain
  have noFile : Text.toAsciiLowercase networkScheme.torScheme ≠ "file".toList := by
    rw [isLower]
    cases networkScheme <;> decide
  have starts := starts_targetText rest
  have isClean := @cleaned_start networkScheme.torScheme (Browser.torAuthority host port)
    (Browser.requestTarget (Browser.targetText rest)) areNames (isHostChar_torAuthority isUrl)
  rw [endCleaned_requestTarget starts] at isClean
  have headSlash : (Browser.requestTarget
      (UrlStandard.endCleaned (Browser.targetText rest))).head? = some '/' :=
    starts_requestTarget (starts_endCleaned starts)
  have noFragment : '#' ∉ Browser.requestTarget
      (UrlStandard.endCleaned (Browser.targetText rest)) := by
    rw [← endCleaned_requestTarget starts]
    intro isMember
    exact not_fragment_requestTarget rest
      ((List.rdropWhile_prefix _ _).subset (List.mem_of_mem_filter isMember))
  have isAuthority : UrlStandard.parseAuthority parsers networkScheme.torScheme
      (Browser.torAuthority host port) =
        some ⟨[], [], Browser.onionHostText host, torPort⟩ := by
    have isText : Browser.torAuthority host port = Browser.onionHostText host ++
        ((if port = [] then none else some port).map (':' :: ·)).getD [] := by
      unfold Browser.torAuthority
      split <;> rfl
    have noSign : ∀ text ∈ (if port = [] then none else some port), '@' ∉ text := by
      intro text isText isMember
      split at isText
      · cases isText
      · obtain rfl := Option.some.inj isText
        have isHost := isHostChar_port isUrl '@' isMember
        revert isHost
        decide
    rw [isText, UrlStandard.parseAuthority_append (ne_nil_of_onion plain) (fun char isMember =>
      UrlStandard.not_hostMark_of_isHostChar (areHost char isMember)) noSign, ordinary,
      UrlStandard.parseHost_of_areHost areHost, isPort]
    rfl
  have isParsed := @UrlStandard.parse_of_cleaned parsers _ _ _ _ isClean areNames isLetter noFile
    (fun char isMember => (visible_of_isHostChar (isHostChar_torAuthority isUrl char isMember)).2)
    (torAuthority_ne_nil isUrl) (by simp [headSlash])
  rw [isLower, isAuthority, ordinary] at isParsed
  rw [isTor, isParsed, UrlStandard.splitTarget, UrlStandard.splitMark_of_notMem noFragment]
  rfl

end Address

section Targets

variable {parsers : UrlStandard.Parsers} {parseError : String → String}
  {url other : UrlStandard.Url} {networkScheme : TorNetworkScheme} {host : List Char}
  {segments otherSegments : List (List Char)}

theorem writeQuery_injective : Function.Injective writeQuery := by
  intro query other same
  cases query <;> cases other <;> simp_all [writeQuery]

theorem not_mark_of_written (written : ∀ segment ∈ segments, UrlStandard.IsWritten false segment) :
    ∀ char ∈ UrlStandard.writeSegments segments, decide (char = '?') = false := by
  intro char isMember
  rw [decide_eq_false_iff_not]
  rintro rfl
  obtain ⟨segment, isSegment, inPart⟩ := List.mem_flatMap.mp isMember
  rcases List.mem_cons.mp inPart with isSlash | inSegment
  · revert isSlash
    decide
  · have plain := (written segment isSegment).plain '?' inSegment
    revert plain
    decide

/-- A query begins with a mark that no path has in it. -/
theorem pathAndQuery_inj {query otherQuery : Option (List Char)}
    (written : ∀ segment ∈ segments, UrlStandard.IsWritten false segment)
    (otherWritten : ∀ segment ∈ otherSegments, UrlStandard.IsWritten false segment)
    (nonempty : segments ≠ []) (otherNonempty : otherSegments ≠ []) :
    pathOrRoot (UrlStandard.writeSegments segments) ++ writeQuery query =
        pathOrRoot (UrlStandard.writeSegments otherSegments) ++ writeQuery otherQuery ↔
      segments = otherSegments ∧ query = otherQuery := by
  have ends (query : Option (List Char)) :
      ∀ char ∈ (writeQuery query).head?, decide (char = '?') = true := by
    intro char isHead
    cases query with
    | none => cases isHead
    | some text =>
        obtain rfl := Option.some.inj isHead
        rfl
  rw [pathOrRoot_writeSegments nonempty, pathOrRoot_writeSegments otherNonempty]
  constructor
  · intro same
    obtain ⟨samePath, sameQuery⟩ := Text.append_inj_of_stops (not_mark_of_written written)
      (not_mark_of_written otherWritten) (ends query) (ends otherQuery) same
    refine ⟨?_, writeQuery_injective sameQuery⟩
    rw [← UrlStandard.parsePath_write written, samePath, UrlStandard.parsePath_write otherWritten]
  · rintro ⟨rfl, rfl⟩
    rfl

/-- URLs of one host and port have one target exactly if they have the path and the query of
it. -/
theorem targetAt_eq_iff (isPath : url.path = .segments segments)
    (isOtherPath : other.path = .segments otherSegments)
    (written : ∀ segment ∈ segments, UrlStandard.IsWritten false segment)
    (otherWritten : ∀ segment ∈ otherSegments, UrlStandard.IsWritten false segment)
    (nonempty : segments ≠ []) (otherNonempty : otherSegments ≠ [])
    (samePort : url.port.getD networkScheme.defaultPort =
      other.port.getD networkScheme.defaultPort) :
    targetAt networkScheme host url = targetAt networkScheme host other ↔
      segments = otherSegments ∧ url.query = other.query := by
  rw [← pathAndQuery_inj written otherWritten nonempty otherNonempty]
  constructor
  · intro same
    have samePathAndQuery := congrArg TorHttpTarget.pathAndQuery same
    simp only [targetAt, String.ofList_inj, isPath, isOtherPath] at samePathAndQuery
    exact samePathAndQuery
  · intro same
    simp only [targetAt, buildTorUrl, List.append_assoc, isPath, isOtherPath, samePort]
    rw [UrlStandard.Path.write, UrlStandard.Path.write, same]

/-- The target of the URL that the daemon writes. -/
theorem target_of_normal {source : String}
    (isUrl : UrlStandard.parse parsers source.toList = some url)
    (isScheme : TorNetworkScheme.fromUrlScheme url.scheme = some networkScheme)
    (isHost : url.hostStr = some host) (onion : Browser.isOnionHost host = true)
    (isPath : url.path = .segments segments) (nonempty : segments ≠ []) :
    torHttpTarget parsers parseError
        (String.ofList (buildTorUrl networkScheme host url.port url.path.write url.query)) =
      .ok (targetAt networkScheme (Browser.onionHostText host) (torUrl networkScheme url)) := by
  obtain ⟨others, readsBack⟩ := readsBack_of_parse isUrl isScheme isHost onion
  obtain rfl : segments = others := by
    have samePath := readsBack.isPath
    rwa [torUrl, isPath, UrlStandard.Path.segments.injEq] at samePath
  have isText := buildTorUrl_eq rfl readsBack nonempty
  have isParsed := @UrlStandard.ReadsBack.parse_writeWithoutFragment parsers _ _ _ readsBack
  rw [← isText] at isParsed
  rw [torHttpTarget_eq_ok_iff]
  refine ⟨torUrl networkScheme url, networkScheme, host, ?_, ?_, rfl⟩
  · rw [String.toList_ofList]
    exact isParsed
  · exact ⟨fromUrlScheme_torScheme networkScheme, rfl, isHost, by
      rw [isOnionHost_onionHostText, onion]⟩

end Targets

section Rules

variable {parsers : UrlStandard.Parsers} {directory input address front rest back name : List Char}
  {url : UrlStandard.Url} {parts : List Char × List Char}

/-- The scheme of a text that is entered is that of the trimmed text. -/
theorem parse_trimmed (parsed : UrlStandard.parse parsers input = some url) :
    ∃ back, (∀ char ∈ back, Text.isWhitespace char = true) ∧
      UrlStandard.parse parsers (Text.trim input ++ back) = some url := by
  obtain ⟨front, back, isInput, frontSpaced, backSpaced⟩ := Text.trim_split input
  refine ⟨back, backSpaced, ?_⟩
  obtain ⟨parts, isSplit, -⟩ := Option.bind_eq_some_iff.mp parsed
  rw [List.append_assoc] at isInput
  have isClean : UrlStandard.cleaned (Text.trim input ++ back) = UrlStandard.cleaned input := by
    conv_rhs => rw [isInput]
    rw [isInput] at isSplit
    exact (cleaned_of_scheme frontSpaced isSplit).symm
  rw [UrlStandard.parse_congr isClean, parsed]

/-- A text that begins with an onion name has no HTTP scheme. -/
theorem not_http_of_onion (onion : Browser.isOnionHost name = true)
    (parsed : UrlStandard.parse parsers (name ++ rest) = some url) :
    url.scheme ≠ "http".toList ∧ url.scheme ≠ "https".toList := by
  have visible : ∀ char ∈ name, UrlStandard.isEdge char = false := fun char isMember =>
    (visible_of_isHostChar (.inl (isHostChar_of_onion onion char isMember))).1
  obtain ⟨behind, isSplit⟩ := UrlStandard.exists_scheme_of_parse parsed
  rw [UrlStandard.cleaned_append visible (ne_nil_of_onion onion)] at isSplit
  obtain ⟨schemeName, isText, -, -, isScheme⟩ := UrlStandard.of_splitScheme isSplit
  have longer : 6 ≤ schemeName.length := by
    have isLong := Browser.six_le_length_of_isOnionHost onion
    rcases List.append_eq_append_iff.mp isText with ⟨others, rfl, -⟩ | ⟨others, rfl, isColon⟩
    · rw [List.length_append]
      omega
    · cases others with
      | nil => simpa using isLong
      | cons first others =>
          obtain rfl : ':' = first := (List.cons.inj isColon).1
          have isOnion := Browser.isOnionHostChar_of_isOnionHost onion
            (List.mem_append_right schemeName List.mem_cons_self)
          exact absurd isOnion (by decide)
  have sameLength : url.scheme.length = schemeName.length := by
    rw [isScheme]
    exact List.length_map _
  constructor <;>
  · intro isHttp
    rw [isHttp] at sameLength
    simp at sameLength
    omega

/-- A Tor address that is entered as an HTTP URL is made by the rule for these. -/
theorem made_of_tor (parsed : UrlStandard.parse parsers input = some url)
    (isHttp : url.scheme = "http".toList ∨ url.scheme = "https".toList)
    (rule : Browser.AddressRule directory (Text.trim input) address)
    (isTor : Browser.startsWith address "tor+http://" = true ∨
      Browser.startsWith address "tor+https://" = true) :
    Browser.normalizeHttpOnionUrl (Text.trim input) = some address := by
  have isHead : address.head? = some 't' := by
    rcases isTor with starts | starts <;>
      obtain ⟨others, rfl⟩ := Browser.startsWith_iff.mp starts <;> rfl
  have other {start others : List Char} {first : Char} (isFirst : start.head? = some first)
      (isOther : first ≠ 't') : (start ++ others).head? ≠ some 't' := by
    rw [Browser.head_append isFirst]
    exact fun same => isOther (Option.some.inj same)
  obtain ⟨back, -, parsed⟩ := parse_trimmed parsed
  cases rule with
  | httpOnion made => exact made
  | search => exact absurd isHead (@other _ _ 's' (by decide) (by decide))
  | supported =>
      exfalso
      have ofTor {scheme : String} (starts : Browser.startsWith (Text.trim input)
          (scheme ++ "://") = true) (isName : scheme.toList.all UrlStandard.isSchemeChar = true)
          (isLetter : scheme.toList.head?.any Char.isAlpha = true) :
          url.scheme = Text.toAsciiLowercase scheme.toList := by
        obtain ⟨others, isText⟩ := Browser.startsWith_iff.mp starts
        rw [← isText, String.toList_append, List.append_assoc, List.append_assoc] at parsed
        exact UrlStandard.scheme_of_parse (List.all_eq_true.mp isName) isLetter parsed
      have isOwn : url.scheme = "tor+http".toList ∨ url.scheme = "tor+https".toList := by
        rcases isTor with starts | starts
        · exact .inl (@ofTor "tor+http" starts (by decide) (by decide))
        · exact .inr (@ofTor "tor+https" starts (by decide) (by decide))
      rcases isOwn with isOwn | isOwn <;> rw [isOwn] at isHttp <;> revert isHttp <;> decide
  | ipfsPath made =>
      obtain ⟨scheme, isScheme, rest, -, rfl⟩ := Browser.exists_of_ipfsPath made
      rcases isScheme with rfl | rfl <;>
        exact absurd isHead (@other _ _ 'i' (by decide) (by decide))
  | ipfsCid made =>
      obtain ⟨rest, -, rfl⟩ := Browser.exists_of_ipfsCid made
      exact absurd isHead (@other _ _ 'i' (by decide) (by decide))
  | onionName made =>
      exfalso
      have onion : Browser.isOnionHost (Browser.authorityOf (Text.trim input)) = true := by
        by_contra noOnion
        rw [Browser.normalizeOnionAddress_eq_none_iff.mpr (.inr noOnion)] at made
        cases made
      rw [rest_eq (Text.trim input), List.append_assoc] at parsed
      obtain ⟨noHttp, noHttps⟩ := not_http_of_onion onion parsed
      exact isHttp.elim noHttp noHttps
  | localFile => exact absurd isHead (@other _ _ 'f' (by decide) (by decide))
  | plainHost isHttp =>
      rcases isHttp with rfl | rfl <;>
        exact absurd isHead (@other _ _ 'h' (by decide) (by decide))

end Rules

section Agreement

variable {parsers : UrlStandard.Parsers} {parseError : String → String}
  {trimmed rest host port urlHost front back input : List Char} {scheme : String}
  {url : UrlStandard.Url} {authority : UrlStandard.Authority} {networkScheme : TorNetworkScheme}

/-- The host and the port of an HTTP URL with an onion host. -/
theorem authority_entered (isUrl : Browser.HttpOnionUrl trimmed scheme rest host port)
    (isTor : "tor+".toList ++ scheme.toList = networkScheme.torScheme)
    (isAuthority : UrlStandard.parseAuthority parsers scheme.toList
      (Browser.authorityOf rest) = some authority)
    (onion : Browser.isOnionHost authority.host = true) :
    authority.host = Text.toAsciiLowercase host ∧
      ∃ torPort, UrlStandard.parsePort networkScheme.torScheme
          (if port = [] then none else some port) = some torPort ∧
        authority.port.getD networkScheme.defaultPort =
          torPort.getD networkScheme.defaultPort := by
  obtain ⟨portText, isText, isPort⟩ := exists_portText isUrl
  have special : UrlStandard.isSpecial scheme.toList = true := by
    obtain ⟨-, -, -, special, -⟩ := scheme_cases isUrl
    exact special
  have noSign : ∀ text ∈ portText, '@' ∉ text := by
    intro text isPortText isMember
    apply isUrl.noUserinfo
    rw [isText, Option.mem_def.mp isPortText]
    simp [isMember]
  rw [isText, UrlStandard.parseAuthority_append (ne_nil_of_onion isUrl.onion) (fun char isMember =>
    UrlStandard.not_hostMark_of_isHostChar (isHostChar_of_onion isUrl.onion char isMember)) noSign,
    special] at isAuthority
  obtain ⟨found, isHost, isAuthority⟩ := Option.bind_eq_some_iff.mp isAuthority
  obtain ⟨foundPort, isFoundPort, rfl⟩ := Option.map_eq_some_iff.mp isAuthority
  refine ⟨host_of_parseHost isUrl.onion isHost onion, ?_⟩
  obtain ⟨torPort, isTorPort, samePort⟩ := parsePort_alike
    (torScheme_ordinary networkScheme).2.2.2 isUrl.digits isFoundPort isPort
  refine ⟨torPort, isTorPort, samePort _ ?_⟩
  rcases isUrl.isScheme with rfl | rfl <;> cases networkScheme <;> revert isTor <;> decide

/-- The path and the query that stand in the text of an input. -/
theorem readsAlike_iff (isUrl : Browser.HttpOnionUrl trimmed scheme rest host port)
    (isSplit : UrlStandard.splitScheme (UrlStandard.cleaned input) = some (scheme.toList,
      '/' :: '/' :: (Browser.authorityOf rest ++ cleanedBehind rest back)))
    (ends : ∀ char ∈ (cleanedBehind rest back).head?, char = '/' ∨ UrlStandard.isMark char = true) :
    ReadsAlike input ↔ EndsAlike input ∧
      (∀ query ∈ (UrlStandard.splitTarget (cleanedBehind rest back)).2, '\'' ∉ query) ∧
        UrlStandard.parseSegments true (UrlStandard.splitTarget (cleanedBehind rest back)).1.tail =
          UrlStandard.parseSegments false
            (UrlStandard.splitTarget (cleanedBehind rest back)).1.tail := by
  have passes := passes_authority isUrl
  have isText : textBehindScheme input =
      '/' :: '/' :: (Browser.authorityOf rest ++ cleanedBehind rest back) := by
    rw [textBehindScheme, isSplit]
    rfl
  have isQuery : (UrlStandard.splitTarget (textBehindScheme input)).2 =
      (UrlStandard.splitTarget (cleanedBehind rest back)).2 := by
    rw [isText, UrlStandard.splitTarget_authority passes]
  have isPath : UrlStandard.pathText (textBehindScheme input) =
      (UrlStandard.splitTarget (cleanedBehind rest back)).1 := by
    rw [isText, UrlStandard.pathText_authority passes (authority_ne_nil isUrl) ends]
  constructor
  · intro alike
    have noApostrophe := alike.noApostrophe
    have sameSegments := alike.sameSegments
    rw [isQuery] at noApostrophe
    rw [isPath] at sameSegments
    exact ⟨alike.ends, noApostrophe, sameSegments⟩
  · rintro ⟨ends, noApostrophe, sameSegments⟩
    refine ⟨ends, ?_, ?_⟩
    · rwa [isQuery]
    · rwa [isPath]

/-- The target of the address that the bar writes. -/
theorem target_of_address {torPort : Option Nat}
    (isUrl : Browser.HttpOnionUrl trimmed scheme rest host port)
    (isTor : "tor+".toList ++ scheme.toList = networkScheme.torScheme)
    (isPort : UrlStandard.parsePort networkScheme.torScheme
      (if port = [] then none else some port) = some torPort) :
    torHttpTarget parsers parseError
        (String.ofList ("tor+".toList ++ scheme.toList ++ "://".toList ++
          Browser.torAuthority host port ++ Browser.requestTarget (Browser.targetText rest))) =
      .ok (targetAt networkScheme (Browser.onionHostText host)
        (addressUrl networkScheme host (Browser.targetText rest) torPort)) := by
  have plain := isPlainHost_onionHostText isUrl.onion
  have isParsed := @parse_address parsers _ rest _ _ _ _ _ isUrl isTor isPort
  rw [torHttpTarget_eq_ok_iff]
  refine ⟨addressUrl networkScheme host (Browser.targetText rest) torPort, networkScheme,
    Browser.onionHostText host, ?_, ?_, ?_⟩
  · rw [String.toList_ofList]
    exact isParsed
  · refine ⟨fromUrlScheme_torScheme networkScheme, rfl, ?_, ?_⟩
    · have nonempty := ne_nil_of_onion plain.onion
      rw [UrlStandard.Url.hostStr, addressUrl, UrlStandard.withAuthority, Option.filter_some,
        if_pos (by simpa using nonempty)]
    · rw [isOnionHost_onionHostText]
      exact plain.onion
  · rw [onionHostText_onionHostText]

theorem parsePath_address_ne_nil {target : List Char}
    (starts : ∀ char ∈ target.head?, char = '/' ∨ char = '?') :
    UrlStandard.parsePath false
      (UrlStandard.splitMark '?' (Browser.requestTarget target)).1 ≠ [] := by
  obtain ⟨others, isTarget⟩ := List.head?_eq_some_iff.mp (starts_requestTarget starts)
  rw [isTarget, ← List.singleton_append, UrlStandard.splitMark_fst_append (by decide),
    List.singleton_append, UrlStandard.parsePath_slash, UrlStandard.parseSegments_eq]
  exact UrlStandard.addSegments_ne_nil UrlStandard.splitSegments_ne_nil

/-- An HTTP URL that both normalize has one target exactly if its text reads alike. -/
theorem sameTarget_iff_readsAlike (isUrl : Browser.HttpOnionUrl trimmed scheme rest host port)
    (isTrim : Text.trim input = trimmed) (isInput : input = front ++ (trimmed ++ back))
    (frontSpaced : ∀ char ∈ front, Text.isWhitespace char = true)
    (backSpaced : ∀ char ∈ back, Text.isWhitespace char = true)
    (parsed : UrlStandard.parse parsers input = some url)
    (isScheme : TorNetworkScheme.fromUrlScheme url.scheme = some networkScheme)
    (isHost : url.hostStr = some urlHost) (onion : Browser.isOnionHost urlHost = true) :
    SameTarget parsers parseError
        (String.ofList ("tor+".toList ++ scheme.toList ++ "://".toList ++
          Browser.torAuthority host port ++ Browser.requestTarget (Browser.targetText rest)))
        (String.ofList (buildTorUrl networkScheme urlHost url.port url.path.write url.query)) ↔
      ReadsAlike input := by
  obtain ⟨isSplit, authority, isAuthority, isParts⟩ :=
    parse_entered isUrl isInput frontSpaced parsed backSpaced
  have nothingBehind := cleanedBehind_eq_nil isUrl isInput frontSpaced parsed backSpaced
  obtain ⟨tail, isTail, trimmedTail, noTail, alike_iff⟩ :=
    exists_tail isUrl isTrim isInput frontSpaced backSpaced nothingBehind
  have starts := starts_endCleaned (starts_targetText rest)
  have isTor : "tor+".toList ++ scheme.toList = networkScheme.torScheme := by
    obtain ⟨other, isOther, isTor, -⟩ := scheme_cases isUrl
    rw [isParts] at isScheme
    obtain rfl := Option.some.inj (isScheme.symm.trans isOther)
    exact isTor
  have isUrlHost : authority.host = urlHost := by
    rw [isParts] at isHost
    exact Option.some.inj (host_eq_of_hostStr isHost)
  obtain ⟨sameHost, torPort, isTorPort, samePort⟩ :=
    authority_entered isUrl isTor isAuthority (by rwa [isUrlHost])
  have sameText : Browser.onionHostText urlHost = Browser.onionHostText host := by
    rw [← isUrlHost, sameHost, onionHostText_toAsciiLowercase]
  have hasPath : url.path = .segments (UrlStandard.parsePath true
      (UrlStandard.splitMark '?'
        (UrlStandard.endCleaned (Browser.targetText rest) ++ tail)).1) := by
    rw [isParts, ← isTail]
    rfl
  have hasQuery : url.query = (UrlStandard.splitMark '?'
      (UrlStandard.endCleaned (Browser.targetText rest) ++ tail)).2.map
        (UrlStandard.encode UrlStandard.inSpecialQuerySet) := by
    rw [isParts, ← isTail]
    rfl
  have isNormalTarget := @target_of_normal parsers parseError url networkScheme urlHost _
    (String.ofList input) (by rwa [String.toList_ofList]) isScheme isHost onion hasPath
    UrlStandard.parsePath_ne_nil
  have isAddressTarget := @target_of_address parsers parseError _ rest _ _ _ _ _ isUrl isTor
    isTorPort
  have sameTarget_iff : SameTarget parsers parseError
      (String.ofList ("tor+".toList ++ scheme.toList ++ "://".toList ++
        Browser.torAuthority host port ++ Browser.requestTarget (Browser.targetText rest)))
      (String.ofList (buildTorUrl networkScheme urlHost url.port url.path.write url.query)) ↔
      targetAt networkScheme (Browser.onionHostText host) (torUrl networkScheme url) =
        targetAt networkScheme (Browser.onionHostText host)
          (addressUrl networkScheme host (Browser.targetText rest) torPort) := by
    unfold SameTarget
    rw [isAddressTarget, isNormalTarget, sameText]
    constructor
    · rintro ⟨target, isTarget, isOther⟩
      exact (Except.ok.inj isOther).trans (Except.ok.inj isTarget).symm
    · intro same
      exact ⟨_, rfl, congrArg Except.ok same⟩
  have torPath : (torUrl networkScheme url).path = .segments (UrlStandard.parsePath true
      (UrlStandard.splitMark '?'
        (UrlStandard.endCleaned (Browser.targetText rest) ++ tail)).1) := hasPath
  have portAlike : (torUrl networkScheme url).port.getD networkScheme.defaultPort =
      (addressUrl networkScheme host (Browser.targetText rest) torPort).port.getD
        networkScheme.defaultPort := by
    rw [torUrl, isParts]
    exact samePort
  rw [sameTarget_iff, targetAt_eq_iff torPath rfl
    (fun _ isMember => (UrlStandard.isWritten_of_mem_parsePath isMember).ordinary)
    (fun _ isMember => UrlStandard.isWritten_of_mem_parsePath isMember)
    UrlStandard.parsePath_ne_nil (parsePath_address_ne_nil starts) portAlike,
    readsAlike_iff isUrl isSplit (head_cleanedBehind nothingBehind), ← alike_iff,
    UrlStandard.splitTarget, isTail, ← target_eq_iff starts trimmedTail noTail]
  rw [torUrl, hasQuery]
  rfl

end Agreement

section Normalizers

/-- The two addresses of an HTTP URL with an onion host are of one target exactly if its text
reads alike under the scheme of Slate's own. -/
theorem sameTarget_iff (parsers : UrlStandard.Parsers) (parseError : String → String)
    {directory input address normal : String} {url : UrlStandard.Url}
    (parsed : UrlStandard.parse parsers input.toList = some url)
    (isHttp : url.scheme = "http".toList ∨ url.scheme = "https".toList)
    (entered : Browser.normalizeNavigationInput directory input = .ok address)
    (isTor : Browser.startsWith address.toList "tor+http://" = true ∨
      Browser.startsWith address.toList "tor+https://" = true)
    (accepted : normalizeTorNavigationUrl parsers parseError input = .ok normal) :
    SameTarget parsers parseError address normal ↔ ReadsAlike input.toList := by
  have rule : Browser.AddressRule directory.toList (Text.trim input.toList) address.toList := by
    unfold Browser.normalizeNavigationInput at entered
    dsimp only at entered
    split at entered
    · cases entered
    · obtain rfl := Except.ok.inj entered
      rw [String.toList_ofList]
      exact Browser.navigationAddress_rule _ _
  obtain ⟨scheme, rest, host, port, isUrl, isAddress⟩ :=
    Browser.exists_httpOnionUrl (made_of_tor parsed isHttp rule isTor)
  obtain ⟨front, back, isInput, frontSpaced, backSpaced⟩ := Text.trim_split input.toList
  rw [List.append_assoc] at isInput
  obtain ⟨other, networkScheme, isOther, isScheme, isNormal⟩ :=
    normalizeTorNavigationUrl_eq_ok_iff.mp accepted
  rw [parsed] at isOther
  obtain rfl := Option.some.inj isOther
  cases isNormal with
  | own isTorScheme =>
      rcases isHttp with isHttp | isHttp <;> rw [isHttp] at isTorScheme <;>
        exact absurd isTorScheme (by decide)
  | http noTor noUserinfo isHost onion =>
      rw [← sameTarget_iff_readsAlike isUrl rfl isInput frontSpaced backSpaced parsed isScheme
        isHost onion, ← isAddress, String.ofList_toList]

/-- The addresses of a text may differ and name one target. -/
theorem url_with_dot_has_one_target : SameTarget UrlStandard.asciiParsers id
    "tor+http://example.onion/a?b" "tor+http://example.onion./a?b" := by
  have ends : EndsAlike "http://Example.onion./a?b#c".toList := by
    rw [EndsAlike, if_pos (by decide)]
    intro char isLast
    obtain rfl := Option.some.inj isLast
    decide
  have alike : ReadsAlike "http://Example.onion./a?b#c".toList := ⟨ends, by decide, by decide⟩
  have entered : Browser.normalizeNavigationInput "/" "http://Example.onion./a?b#c" =
      .ok "tor+http://example.onion/a?b" := by decide
  exact (sameTarget_iff UrlStandard.asciiParsers id rfl (.inl rfl) entered (.inl rfl) rfl).mpr alike

/-- The daemon encodes the apostrophe of a query, and the bar leaves it. -/
theorem apostrophe_changes_target :
    (UrlStandard.parse UrlStandard.asciiParsers "http://example.onion/?q='x'".toList).map
        (·.scheme) = some "http".toList ∧
      Browser.normalizeNavigationInput "/" "http://example.onion/?q='x'" =
        .ok "tor+http://example.onion/?q='x'" ∧
      normalizeTorNavigationUrl UrlStandard.asciiParsers id "http://example.onion/?q='x'" =
          .ok "tor+http://example.onion/?q=%27x%27" ∧
        ¬SameTarget UrlStandard.asciiParsers id "tor+http://example.onion/?q='x'"
          "tor+http://example.onion/?q=%27x%27" := by
  refine ⟨rfl, by decide, rfl, ?_⟩
  rintro ⟨target, isTarget, isOther⟩
  have request : (torHttpTarget UrlStandard.asciiParsers id
      "tor+http://example.onion/?q='x'").map (·.pathAndQuery) = .ok "/?q='x'" := rfl
  have otherRequest : (torHttpTarget UrlStandard.asciiParsers id
      "tor+http://example.onion/?q=%27x%27").map (·.pathAndQuery) = .ok "/?q=%27x%27" := rfl
  rw [isTarget] at request
  rw [isOther] at otherRequest
  have same := (Except.ok.inj request).symm.trans (Except.ok.inj otherRequest)
  revert same
  decide

end Normalizers

end Slate.Broadwebd.Tor
