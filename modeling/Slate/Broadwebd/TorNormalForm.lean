import Slate.Foundation.UrlReadBack
import Slate.Browser.AddressRules
import Slate.Broadwebd.TorAddress

/-!
# The normal form of Tor URLs

What a text is normalized to should be the URL of a target, and be left alone from then on. The
addresses of HTTP URLs are written anew for this; those of Slate's own schemes pass as they are.
-/

namespace Slate.Broadwebd.Tor

open Foundation

section Hosts

variable {host text : List Char} {char : Char}

/-- An onion host in lower case without a dot at its end. -/
structure IsPlainHost (host : List Char) : Prop where
  onion : Browser.isOnionHost host = true
  noDot : host.getLast? ≠ some '.'
  isLower : Text.toAsciiLowercase host = host

theorem onionHostText_eq_self_iff : Browser.onionHostText host = host ↔
    host.getLast? ≠ some '.' ∧ Text.toAsciiLowercase host = host := by
  have untrimmed : Text.trimEndMatches '.' host = host ↔ host.getLast? ≠ some '.' := by
    unfold Text.trimEndMatches
    rw [List.rdropWhile_eq_self_iff]
    cases host using List.reverseRecOn <;> simp
  unfold Browser.onionHostText
  constructor
  · intro same
    have sameLength := congrArg List.length same
    rw [Text.toAsciiLowercase, List.length_map] at sameLength
    have isWhole := (@Text.trimEndMatches_isPrefix host '.').eq_of_length sameLength
    rw [isWhole] at same
    exact ⟨untrimmed.mp isWhole, same⟩
  · intro plain
    rw [untrimmed.mpr plain.1, plain.2]

/-- The text of an onion host is one in lower case without dots at its end. -/
theorem onionHostText_onionHostText :
    Browser.onionHostText (Browser.onionHostText host) = Browser.onionHostText host := by
  rw [onionHostText_eq_self_iff]
  unfold Browser.onionHostText
  constructor
  · intro isDot
    rw [Text.toAsciiLowercase, List.getLast?_map, Option.map_eq_some_iff] at isDot
    obtain ⟨last, isLast, same⟩ := isDot
    obtain rfl := Text.eq_of_toLower_eq same (by decide)
    have nonempty : Text.trimEndMatches '.' host ≠ [] := by
      intro isEmpty
      rw [isEmpty] at isLast
      cases isLast
    apply List.rdropWhile_last_not (· == '.') host nonempty
    rw [List.getLast?_eq_some_getLast nonempty] at isLast
    exact beq_of_eq (Option.some.inj isLast)
  · rw [Text.toAsciiLowercase, Text.toAsciiLowercase, List.map_map]
    apply List.map_congr_left
    intro char _
    exact Text.toLower_toLower

theorem isOnionHost_onionHostText :
    Browser.isOnionHost (Browser.onionHostText host) = Browser.isOnionHost host := by
  have same := @onionHostText_onionHostText host
  unfold Browser.onionHostText at same
  unfold Browser.isOnionHost
  unfold Browser.onionHostText
  rw [same]

theorem isPlainHost_iff : IsPlainHost host ↔
    Browser.isOnionHost host = true ∧ Browser.onionHostText host = host := by
  rw [onionHostText_eq_self_iff]
  exact ⟨fun plain => ⟨plain.onion, plain.noDot, plain.isLower⟩,
    fun plain => ⟨plain.1, plain.2.1, plain.2.2⟩⟩

theorem isPlainHost_onionHostText (onion : Browser.isOnionHost host = true) :
    IsPlainHost (Browser.onionHostText host) :=
  isPlainHost_iff.mpr ⟨by rwa [isOnionHost_onionHostText], onionHostText_onionHostText⟩

theorem isHostChar_of_onion (onion : Browser.isOnionHost host = true) :
    ∀ char ∈ host, UrlStandard.isHostChar char = true := by
  intro char isMember
  have isOnion := Browser.isOnionHostChar_of_isOnionHost onion isMember
  simp only [Browser.isOnionHostChar, Bool.or_eq_true, decide_eq_true_eq] at isOnion
  rcases isOnion with (alphanum | rfl) | rfl
  · exact UrlStandard.isHostChar_of_alphanum alphanum
  · decide
  · decide

theorem ne_nil_of_onion (onion : Browser.isOnionHost host = true) : host ≠ [] := by
  rintro rfl
  revert onion
  decide

end Hosts

section NormalForm

variable (parsers : UrlStandard.Parsers) (parseError : String → String)

/-- A URL of Slate's own that says no more than where a target is. -/
structure NamesTarget (url : UrlStandard.Url) (networkScheme : TorNetworkScheme) : Prop where
  isScheme : url.scheme = networkScheme.torScheme
  noUserinfo : hasUserinfo url = false
  host : ∃ host, url.hostStr = some host ∧ IsPlainHost host
  noDefaultPort : url.port ≠ some networkScheme.defaultPort

/-- A text that is the URL of its own target, and stays what it is. -/
structure IsNormalForm (text : String) : Prop where
  target : ∃ target, torHttpTarget parsers parseError text = .ok target ∧ target.finalUrl = text
  names : ∃ url networkScheme, UrlStandard.parse parsers text.toList = some url ∧
    NamesTarget url networkScheme
  again : normalizeTorNavigationUrl parsers parseError text = .ok text

end NormalForm

section Written

variable {parsers : UrlStandard.Parsers} {parseError : String → String} {source : String}
  {url : UrlStandard.Url} {networkScheme : TorNetworkScheme} {host : List Char}
  {segments : List (List Char)}

theorem pathOrRoot_writeSegments (nonempty : segments ≠ []) :
    pathOrRoot (UrlStandard.writeSegments segments) = UrlStandard.writeSegments segments := by
  obtain ⟨segment, rest, rfl⟩ := List.exists_cons_of_ne_nil nonempty
  rw [pathOrRoot, UrlStandard.writeSegments_cons, if_neg (List.cons_ne_nil _ _)]

/-- A URL with a target and a path is written as the URL of the target. -/
theorem buildTorUrl_eq (isScheme : url.scheme = networkScheme.torScheme)
    (readsBack : UrlStandard.ReadsBack url host segments) (hasPath : segments ≠ []) :
    buildTorUrl networkScheme host url.port url.path.write url.query =
      url.writeWithoutFragment := by
  have isPath : pathOrRoot url.path.write = UrlStandard.writeSegments segments := by
    rw [readsBack.isPath, UrlStandard.Path.write, pathOrRoot_writeSegments hasPath]
  have isPort : writePort url.port = UrlStandard.writePort url.port := rfl
  have isQuery : writeQuery url.query = (url.query.map ('?' :: ·)).getD [] := rfl
  rw [readsBack.writeWithoutFragment_eq, buildTorUrl, isPath, isPort, isQuery, isScheme]
  simp

theorem targetAt_eq (noDefaultPort : url.port ≠ some networkScheme.defaultPort) :
    (targetAt networkScheme host url).finalUrl =
      String.ofList (buildTorUrl networkScheme host url.port url.path.write url.query) := by
  have isPort : (if url.port.getD networkScheme.defaultPort = networkScheme.defaultPort then none
      else some (url.port.getD networkScheme.defaultPort)) = url.port := by
    cases port : url.port with
    | none => simp
    | some port =>
        rw [port] at noDefaultPort
        rw [Option.getD_some, if_neg fun same => noDefaultPort (congrArg some same)]
  simp only [targetAt, isPort]

theorem fromUrlScheme_torScheme (networkScheme : TorNetworkScheme) :
    TorNetworkScheme.fromUrlScheme networkScheme.torScheme = some networkScheme := by
  cases networkScheme <;> decide

/-- A URL that names a target and is read from its own text is the target's, and stays it. -/
theorem isNormalForm_of_readsBack (names : NamesTarget url networkScheme)
    (readsBack : UrlStandard.ReadsBack url host segments) (hasPath : segments ≠ []) :
    IsNormalForm parsers parseError (String.ofList url.writeWithoutFragment) := by
  have isUrl : UrlStandard.parse parsers (String.ofList url.writeWithoutFragment).toList =
      some url := by
    rw [String.toList_ofList]
    exact readsBack.parse_writeWithoutFragment
  have isHost : url.hostStr = some host := by
    rw [UrlStandard.Url.hostStr, readsBack.isHost, Option.filter_some,
      if_pos (by simpa using readsBack.nonempty)]
  have plain : IsPlainHost host := by
    obtain ⟨other, isOther, plain⟩ := names.host
    rw [isHost] at isOther
    rwa [Option.some.inj isOther]
  have isText := (isPlainHost_iff.mp plain).2
  have isTor : isTorHttpScheme (String.ofList url.scheme) = true := by
    rw [names.isScheme]
    cases networkScheme <;> decide
  have isScheme : TorNetworkScheme.fromUrlScheme url.scheme = some networkScheme := by
    rw [names.isScheme, fromUrlScheme_torScheme]
  have isTarget : torHttpTarget parsers parseError
      (String.ofList url.writeWithoutFragment) = .ok (targetAt networkScheme host url) := by
    rw [torHttpTarget_eq_ok_iff]
    refine ⟨url, networkScheme, host, isUrl, ⟨isScheme, names.noUserinfo, isHost, ?_⟩, ?_⟩
    · rw [isText, plain.onion]
    · rw [isText]
  constructor
  case target =>
    refine ⟨_, isTarget, ?_⟩
    rw [targetAt_eq names.noDefaultPort, buildTorUrl_eq names.isScheme readsBack hasPath]
  case names => exact ⟨url, networkScheme, isUrl, names⟩
  case again =>
    have isParsed := (@parseUrl_eq_ok_iff _ parseError _ _).mpr isUrl
    unfold normalizeTorNavigationUrl
    rw [isParsed, ok_bind, torUrlFromHttpUrl, isScheme]
    simp only [isTor, if_true, ok_bind]
    rfl

/-- A URL under the scheme of Slate's own, with nothing but the place of a target. -/
def torUrl (networkScheme : TorNetworkScheme) (url : UrlStandard.Url) : UrlStandard.Url :=
  { url with scheme := networkScheme.torScheme, username := [], password := [], fragment := none }

theorem noFile_of_fromUrlScheme {scheme : List Char}
    (isScheme : TorNetworkScheme.fromUrlScheme scheme = some networkScheme) :
    scheme ≠ "file".toList := by
  rintro rfl
  have noScheme : TorNetworkScheme.fromUrlScheme "file".toList = none := by decide
  rw [noScheme] at isScheme
  cases isScheme

theorem torScheme_ordinary (networkScheme : TorNetworkScheme) :
    networkScheme.torScheme.all UrlStandard.isSchemeChar = true ∧
      networkScheme.torScheme.head?.any Char.isAlpha = true ∧
        Text.toAsciiLowercase networkScheme.torScheme = networkScheme.torScheme ∧
          UrlStandard.isSpecial networkScheme.torScheme = false := by
  cases networkScheme <;> decide

theorem host_eq_of_hostStr (isHost : url.hostStr = some host) : url.host = some host := by
  unfold UrlStandard.Url.hostStr at isHost
  exact (Option.filter_eq_some_iff.mp isHost).1

/-- What a URL with an onion host becomes under a scheme of Slate's own is read from its text. -/
theorem readsBack_of_parse (isUrl : UrlStandard.parse parsers source.toList = some url)
    (isScheme : TorNetworkScheme.fromUrlScheme url.scheme = some networkScheme)
    (isHost : url.hostStr = some host) (onion : Browser.isOnionHost host = true) :
    ∃ segments, UrlStandard.ReadsBack (torUrl networkScheme url) host segments := by
  have hasHost := host_eq_of_hostStr isHost
  obtain ⟨authority, pathText, isPath⟩ :=
    UrlStandard.parts_of_parse isUrl (noFile_of_fromUrlScheme isScheme) hasHost
  refine ⟨UrlStandard.parsePath (UrlStandard.isSpecial url.scheme) pathText, ?_⟩
  constructor
  case isName => exact List.all_eq_true.mp (torScheme_ordinary networkScheme).1
  case isLetter => exact (torScheme_ordinary networkScheme).2.1
  case isLower => exact (torScheme_ordinary networkScheme).2.2.1
  case ordinary => exact (torScheme_ordinary networkScheme).2.2.2
  case noCredentials => exact ⟨rfl, rfl⟩
  case isHost => exact hasHost
  case nonempty => exact ne_nil_of_onion onion
  case areHost => exact isHostChar_of_onion onion
  case smallPort => exact fun port isPort => (authority.port port isPort).1
  case isPath => exact isPath
  case written => exact fun segment isMember =>
      (UrlStandard.isWritten_of_mem_parsePath isMember).ordinary
  case isQuery =>
    have isQuery := UrlStandard.query_of_parse isUrl
    exact isQuery
  case noFragment => rfl

end Written

section Condition

variable (parsers : UrlStandard.Parsers) (parseError : String → String)

/-- What a URL that is read for its target must be so that its text is normalized for good:
one of Slate's own names its target already, and no other has a dot behind its onion host. -/
def KeepsForm (url : UrlStandard.Url) (networkScheme : TorNetworkScheme) : Prop :=
  if isTorHttpScheme (String.ofList url.scheme) then
    hasUserinfo url = false ∧ (∃ host, url.hostStr = some host ∧ IsPlainHost host) ∧
      url.port ≠ some networkScheme.defaultPort ∧ url.path.write ≠ []
  else ∀ host, url.hostStr = some host → Browser.isOnionHost host = true →
    hasUserinfo url = false → host.getLast? ≠ some '.'

/-- What the text of a URL is normalized to. -/
inductive NormalizedTo (url : UrlStandard.Url) (networkScheme : TorNetworkScheme) : String → Prop
  | own (isTor : isTorHttpScheme (String.ofList url.scheme) = true) :
      NormalizedTo url networkScheme (urlWithoutFragment url)
  | http {host : List Char} (noTor : isTorHttpScheme (String.ofList url.scheme) = false)
      (noUserinfo : hasUserinfo url = false) (isHost : url.hostStr = some host)
      (onion : Browser.isOnionHost host = true) :
      NormalizedTo url networkScheme
        (String.ofList (buildTorUrl networkScheme host url.port url.path.write url.query))

end Condition

section Normalizing

variable {parsers : UrlStandard.Parsers} {parseError : String → String} {source normal : String}
  {url : UrlStandard.Url} {networkScheme : TorNetworkScheme} {host : List Char}
  {segments : List (List Char)}

theorem http_of_fromUrlScheme {scheme : List Char}
    (isScheme : TorNetworkScheme.fromUrlScheme scheme = some networkScheme)
    (noTor : isTorHttpScheme (String.ofList scheme) = false) :
    scheme = "http".toList ∨ scheme = "https".toList := by
  unfold TorNetworkScheme.fromUrlScheme at isScheme
  split at isScheme
  · rename_i isHttp
    rcases isHttp with rfl | rfl
    · exact .inl rfl
    · revert noTor
      decide
  · split at isScheme
    · rename_i isHttps
      rcases isHttps with rfl | rfl
      · exact .inr rfl
      · revert noTor
        decide
    · cases isScheme

/-- A URL that is not rewritten by itself has no target either. -/
theorem not_hasTarget_of_notOnion (notOnion : isOnionUrl url = false) :
    ¬HasTarget url networkScheme host := by
  intro has
  unfold isOnionUrl at notOnion
  rw [has.hostStr, Option.any_some, ← isOnionHost_onionHostText, has.onion] at notOnion
  cases notOnion

theorem normalizeTorNavigationUrl_eq_ok_iff :
    normalizeTorNavigationUrl parsers parseError source = .ok normal ↔
      ∃ url networkScheme, UrlStandard.parse parsers source.toList = some url ∧
        TorNetworkScheme.fromUrlScheme url.scheme = some networkScheme ∧
          NormalizedTo url networkScheme normal := by
  have noTarget {url : UrlStandard.Url} (isUrl : UrlStandard.parse parsers source.toList = some url)
      (none : ∀ networkScheme host, ¬HasTarget url networkScheme host) :
      (torHttpTarget parsers parseError source).map TorHttpTarget.finalUrl ≠ .ok normal := by
    intro isNormal
    cases isTarget : torHttpTarget parsers parseError source with
    | error error =>
        rw [isTarget] at isNormal
        cases isNormal
    | ok target =>
        obtain ⟨other, networkScheme, host, isOther, has, -⟩ := torHttpTarget_eq_ok_iff.mp isTarget
        rw [isUrl] at isOther
        obtain rfl := Option.some.inj isOther
        exact none networkScheme host has
  unfold normalizeTorNavigationUrl
  rw [bind_eq_ok_iff]
  simp only [parseUrl_eq_ok_iff]
  constructor
  · rintro ⟨url, isUrl, isNormal⟩
    unfold torUrlFromHttpUrl at isNormal
    cases isScheme : TorNetworkScheme.fromUrlScheme url.scheme with
    | none =>
        rw [isScheme] at isNormal
        apply absurd isNormal
        apply noTarget isUrl
        intro networkScheme host has
        have other := has.scheme
        rw [isScheme] at other
        cases other
    | some networkScheme =>
        rw [isScheme] at isNormal
        refine ⟨url, networkScheme, isUrl, isScheme, ?_⟩
        have isHttp := http_of_fromUrlScheme isScheme
        dsimp only at isNormal
        split at isNormal
        · rename_i isTor
          obtain rfl := Except.ok.inj isNormal
          exact .own isTor
        · rename_i noTor
          rw [Bool.not_eq_true] at noTor
          split at isNormal
          · rename_i notOnion
            apply absurd isNormal
            apply noTarget isUrl
            intro networkScheme host
            exact not_hasTarget_of_notOnion (by simpa using notOnion)
          · rename_i isOnion
            rw [if_neg (not_not.mpr (isHttp noTor))] at isNormal
            split at isNormal
            · cases isNormal
            · rename_i noUserinfo
              split at isNormal
              · cases isNormal
              · rename_i host isHost
                obtain rfl := Except.ok.inj isNormal
                refine .http noTor (by simpa using noUserinfo) isHost ?_
                simpa [isOnionUrl, isHost] using isOnion
  · rintro ⟨url, networkScheme, isUrl, isScheme, isNormal⟩
    refine ⟨url, isUrl, ?_⟩
    unfold torUrlFromHttpUrl
    rw [isScheme]
    cases isNormal with
    | own isTor =>
        dsimp only
        rw [if_pos isTor]
        rfl
    | http noTor noUserinfo isHost onion =>
        have isOnion : isOnionUrl url = true := by
          rw [isOnionUrl, isHost]
          exact onion
        dsimp only
        rw [if_neg (by simp [noTor]), if_neg (by simp [isOnion]),
          if_neg (not_not.mpr (http_of_fromUrlScheme isScheme noTor)), noUserinfo,
          if_neg Bool.false_ne_true, isHost]
        rfl

theorem torScheme_of_isTor {scheme : List Char}
    (isScheme : TorNetworkScheme.fromUrlScheme scheme = some networkScheme)
    (isTor : isTorHttpScheme (String.ofList scheme) = true) :
    scheme = networkScheme.torScheme := by
  have whole {name : String} (same : String.ofList scheme = name) : scheme = name.toList := by
    rw [← same, String.toList_ofList]
  simp only [isTorHttpScheme, Bool.or_eq_true, decide_eq_true_eq] at isTor
  rcases isTor with isHttp | isHttps
  · rw [whole isHttp] at isScheme ⊢
    have ofName : TorNetworkScheme.fromUrlScheme "tor+http".toList = some .http := by decide
    obtain rfl := Option.some.inj (ofName.symm.trans isScheme)
    rfl
  · rw [whole isHttps] at isScheme ⊢
    have ofName : TorNetworkScheme.fromUrlScheme "tor+https".toList = some .https := by decide
    obtain rfl := Option.some.inj (ofName.symm.trans isScheme)
    rfl

theorem special_of_http (isScheme : TorNetworkScheme.fromUrlScheme url.scheme = some networkScheme)
    (noTor : isTorHttpScheme (String.ofList url.scheme) = false) :
    UrlStandard.isSpecial url.scheme = true ∧
      UrlStandard.defaultPort url.scheme = some networkScheme.defaultPort := by
  rcases http_of_fromUrlScheme isScheme noTor with isHttp | isHttps
  · rw [isHttp] at isScheme ⊢
    have ofName : TorNetworkScheme.fromUrlScheme "http".toList = some .http := by decide
    obtain rfl := Option.some.inj (ofName.symm.trans isScheme)
    decide
  · rw [isHttps] at isScheme ⊢
    have ofName : TorNetworkScheme.fromUrlScheme "https".toList = some .https := by decide
    obtain rfl := Option.some.inj (ofName.symm.trans isScheme)
    decide

theorem no_bracket_of_onion (onion : Browser.isOnionHost host = true) :
    host.head? ≠ some '[' := fun isHead =>
  UrlStandard.notMem_of_isHostChar (isHostChar_of_onion onion) (by decide)
    (List.mem_of_mem_head? isHead)

/-- The onion host of an HTTP URL is in lower case. -/
theorem isLower_of_http {hostText : List Char} (onion : Browser.isOnionHost host = true)
    (isHost : UrlStandard.parseHost parsers true hostText = some host) :
    Text.toAsciiLowercase host = host := by
  unfold UrlStandard.parseHost at isHost
  split at isHost
  · split at isHost
    · obtain ⟨address, -, rfl⟩ := Option.map_eq_some_iff.mp isHost
      exact absurd rfl (no_bracket_of_onion onion)
    · cases isHost
  · have isLower := UrlStandard.not_upper_of_parseDomain isHost
    calc Text.toAsciiLowercase host
        = host.map id := List.map_congr_left fun char isMember =>
          Text.toLower_of_not_upper (by simp [isLower char isMember])
      _ = host := List.map_id host

theorem isNormalForm_of_keepsForm (isUrl : UrlStandard.parse parsers source.toList = some url)
    (isScheme : TorNetworkScheme.fromUrlScheme url.scheme = some networkScheme)
    (keeps : KeepsForm url networkScheme) (isNormal : NormalizedTo url networkScheme normal) :
    IsNormalForm parsers parseError normal := by
  unfold KeepsForm at keeps
  cases isNormal with
  | own isTor =>
      rw [if_pos isTor] at keeps
      obtain ⟨noUserinfo, ⟨host, isHost, plain⟩, noDefaultPort, hasPath⟩ := keeps
      obtain ⟨segments, readsBack⟩ := readsBack_of_parse isUrl isScheme isHost plain.onion
      have same : (torUrl networkScheme url).writeWithoutFragment = url.writeWithoutFragment := by
        have isOwn := torScheme_of_isTor isScheme isTor
        simp only [hasUserinfo, Bool.or_eq_false_iff, decide_eq_false_iff_not, not_not] at noUserinfo
        simp [UrlStandard.Url.writeWithoutFragment, UrlStandard.Url.writeHierarchy,
          UrlStandard.Url.writeAuthority, torUrl, isOwn, noUserinfo]
      have nonempty : segments ≠ [] := by
        rintro rfl
        apply hasPath
        have isPath := readsBack.isPath
        rw [torUrl] at isPath
        rw [isPath]
        rfl
      rw [urlWithoutFragment, ← same]
      exact isNormalForm_of_readsBack ⟨rfl, rfl, ⟨host, isHost, plain⟩, noDefaultPort⟩ readsBack
        nonempty
  | http noTor noUserinfo isHost onion =>
      rename_i host
      rw [if_neg (by simp [noTor])] at keeps
      obtain ⟨special, isDefault⟩ := special_of_http isScheme noTor
      obtain ⟨authority, pathText, isPath⟩ := UrlStandard.parts_of_parse isUrl
        (noFile_of_fromUrlScheme isScheme) (host_eq_of_hostStr isHost)
      obtain ⟨segments, readsBack⟩ := readsBack_of_parse isUrl isScheme isHost onion
      have plain : IsPlainHost host := by
        obtain ⟨hostText, isHostText⟩ := authority.host
        rw [special] at isHostText
        exact ⟨onion, keeps host isHost onion noUserinfo, isLower_of_http onion isHostText⟩
      have noDefaultPort : url.port ≠ some networkScheme.defaultPort := by
        intro isPort
        exact (authority.port _ isPort).2 isDefault
      have nonempty : segments ≠ [] := by
        have samePath := readsBack.isPath
        rw [torUrl, isPath, special, UrlStandard.Path.segments.injEq] at samePath
        rw [← samePath]
        exact UrlStandard.parsePath_ne_nil
      have isText := buildTorUrl_eq rfl readsBack nonempty
      have names : NamesTarget (torUrl networkScheme url) networkScheme :=
        ⟨rfl, rfl, ⟨host, isHost, plain⟩, noDefaultPort⟩
      have isNormal := @isNormalForm_of_readsBack parsers parseError _ _ _ _ names readsBack
        nonempty
      rw [← isText] at isNormal
      exact isNormal

end Normalizing

section Texts

variable {parsers : UrlStandard.Parsers} {parseError : String → String} {text source : String}
  {url : UrlStandard.Url} {networkScheme otherScheme : TorNetworkScheme}
  {host otherHost rest otherRest : List Char} {port otherPort : Option Nat}
  {target : TorHttpTarget}

theorem torScheme_inj (same : networkScheme.torScheme ++ ':' :: rest =
    otherScheme.torScheme ++ ':' :: otherRest) : networkScheme = otherScheme ∧ rest = otherRest := by
  have noColon (networkScheme : TorNetworkScheme) :
      ∀ char ∈ networkScheme.torScheme, decide (char = ':') = false := by
    intro char isMember
    have isName := List.all_eq_true.mp (torScheme_ordinary networkScheme).1 char isMember
    rw [decide_eq_false_iff_not]
    rintro rfl
    revert isName
    decide
  obtain ⟨sameScheme, sameRest⟩ := Text.append_inj_of_stops (noColon networkScheme)
    (noColon otherScheme) (by simp) (by simp) same
  constructor
  · have sameOption := congrArg TorNetworkScheme.fromUrlScheme sameScheme
    rw [fromUrlScheme_torScheme, fromUrlScheme_torScheme] at sameOption
    exact Option.some.inj sameOption
  · exact (List.cons.inj sameRest).2

/-- What may follow an authority. -/
def endsAuthority (char : Char) : Bool := char = '/' || char = '?'

def stopsHost (char : Char) : Bool := char = ':' || endsAuthority char

theorem mem_writePort {char : Char} (isMember : char ∈ UrlStandard.writePort port) :
    char = ':' ∨ char.isDigit = true := by
  cases port with
  | none => simp [UrlStandard.writePort] at isMember
  | some port =>
      rcases List.mem_cons.mp isMember with rfl | isDigit
      · exact .inl rfl
      · exact .inr (Json.isDigit_of_mem_toDigits port char isDigit)

theorem not_ends_of_mem_writePort :
    ∀ char ∈ UrlStandard.writePort port, endsAuthority char = false := by
  intro char isMember
  rcases mem_writePort isMember with rfl | isDigit
  · decide
  · simp only [endsAuthority, Bool.or_eq_false_iff, decide_eq_false_iff_not]
    constructor <;>
    · rintro rfl
      revert isDigit
      decide

theorem writePort_injective (same : UrlStandard.writePort port = UrlStandard.writePort otherPort) :
    port = otherPort := by
  cases port with
  | none =>
      cases otherPort with
      | none => rfl
      | some other => simp [UrlStandard.writePort] at same
  | some port =>
      cases otherPort with
      | none => simp [UrlStandard.writePort] at same
      | some other =>
          have sameDigits : Nat.toDigits 10 port = Nat.toDigits 10 other := by
            simpa [UrlStandard.writePort] using same
          rw [← Json.ofDigits_toDigits port, sameDigits, Json.ofDigits_toDigits]

/-- A host, a port and a path are told apart in the text of a URL. -/
theorem authority_inj (passes : ∀ char ∈ host, stopsHost char = false)
    (otherPasses : ∀ char ∈ otherHost, stopsHost char = false)
    (ends : ∀ char ∈ rest.head?, endsAuthority char = true)
    (otherEnds : ∀ char ∈ otherRest.head?, endsAuthority char = true)
    (same : host ++ (UrlStandard.writePort port ++ rest) =
      otherHost ++ (UrlStandard.writePort otherPort ++ otherRest)) :
    host = otherHost ∧ port = otherPort ∧ rest = otherRest := by
  have stops {port : Option Nat} {rest : List Char}
      (ends : ∀ char ∈ rest.head?, endsAuthority char = true) :
      ∀ char ∈ (UrlStandard.writePort port ++ rest).head?, stopsHost char = true := by
    intro char isHead
    cases port with
    | none => rw [stopsHost, ends char isHead, Bool.or_true]
    | some port =>
        obtain rfl : ':' = char := by simpa [UrlStandard.writePort] using isHead
        decide
  obtain ⟨sameHost, behindHost⟩ := Text.append_inj_of_stops passes otherPasses (stops ends)
    (stops otherEnds) same
  obtain ⟨samePort, sameRest⟩ := Text.append_inj_of_stops not_ends_of_mem_writePort
    not_ends_of_mem_writePort ends otherEnds behindHost
  exact ⟨sameHost, writePort_injective samePort, sameRest⟩

theorem stopsHost_of_forbidden (allowed : ∀ char ∈ host,
    UrlStandard.isForbiddenHostChar char = false) : ∀ char ∈ host, stopsHost char = false := by
  intro char isMember
  have isAllowed := allowed char isMember
  simp only [stopsHost, endsAuthority, Bool.or_eq_false_iff, decide_eq_false_iff_not]
  refine ⟨?_, ?_, ?_⟩ <;>
  · rintro rfl
    revert isAllowed
    decide

theorem passes_of_onion (onion : Browser.isOnionHost host = true) :
    ∀ char ∈ host, stopsHost char = false := by
  apply stopsHost_of_forbidden
  intro char isMember
  have isHost := isHostChar_of_onion onion char isMember
  simp only [UrlStandard.isHostChar, Bool.and_eq_true, Bool.not_eq_true'] at isHost
  exact isHost.1

theorem head_pathOrRoot {segments : List (List Char)} {more : List Char} :
    (pathOrRoot (UrlStandard.writeSegments segments) ++ more).head? = some '/' := by
  cases segments with
  | nil => rfl
  | cons segment rest => rfl

/-- The text of a URL of a target, as it is told apart. -/
theorem text_of_target (isTarget : torHttpTarget parsers parseError text = .ok target)
    (same : target.finalUrl = text) :
    ∃ (networkScheme : TorNetworkScheme) (host : List Char) (port : Option Nat) (rest : List Char),
      IsPlainHost host ∧ port ≠ some networkScheme.defaultPort ∧ rest.head? = some '/' ∧
        text.toList = networkScheme.torScheme ++ ':' :: '/' :: '/' ::
          (host ++ (UrlStandard.writePort port ++ rest)) := by
  obtain ⟨url, networkScheme, host, isUrl, has, rfl⟩ := torHttpTarget_eq_ok_iff.mp isTarget
  obtain ⟨-, pathText, isPath⟩ := UrlStandard.parts_of_parse isUrl
    (noFile_of_fromUrlScheme has.scheme) (host_eq_of_hostStr has.hostStr)
  have plain := isPlainHost_onionHostText (by rw [← isOnionHost_onionHostText, has.onion])
  rw [← same, targetAt, String.toList_ofList]
  generalize url.port.getD networkScheme.defaultPort = port
  refine ⟨networkScheme, Browser.onionHostText host,
    if port = networkScheme.defaultPort then none else some port,
    pathOrRoot url.path.write ++ writeQuery url.query, plain, ?_, ?_, ?_⟩
  · split <;> simp_all
  · rw [isPath]
    exact head_pathOrRoot
  · rw [buildTorUrl]
    simp only [List.append_assoc]
    rfl

theorem ends_path {segments : List (List Char)} {query : Option (List Char)} :
    ∀ char ∈ (UrlStandard.writeSegments segments ++ (query.map ('?' :: ·)).getD []).head?,
      endsAuthority char = true := by
  intro char isHead
  cases segments with
  | nil =>
      cases query with
      | none => cases isHead
      | some text =>
          obtain rfl := Option.some.inj isHead
          decide
  | cons segment rest =>
      obtain rfl := Option.some.inj isHead
      decide

/-- The host of a URL of Slate's own is cut off by what follows it, unless it is in brackets. -/
theorem stopsHost_of_parse (isUrl : UrlStandard.parse parsers source.toList = some url)
    (ordinary : UrlStandard.isSpecial url.scheme = false) (noFile : url.scheme ≠ "file".toList)
    (isHost : url.host = some host) (noBracket : host.head? ≠ some '[') :
    ∀ char ∈ host, stopsHost char = false := by
  obtain ⟨hostText, isHostText⟩ := (UrlStandard.parts_of_parse isUrl noFile isHost).1.host
  rw [ordinary] at isHostText
  unfold UrlStandard.parseHost at isHostText
  split at isHostText
  · split at isHostText
    · obtain ⟨address, -, rfl⟩ := Option.map_eq_some_iff.mp isHostText
      exact absurd rfl noBracket
    · cases isHostText
  · exact stopsHost_of_forbidden (UrlStandard.not_forbidden_of_parseVerbatimHost isHostText)

/-- A URL that is written without credentials has none. -/
theorem noUserinfo_of_written (isUrl : UrlStandard.parse parsers source.toList = some url)
    (noFile : url.scheme ≠ "file".toList) (isHost : url.host = some host)
    (onion : Browser.isOnionHost otherHost = true) (isPath : otherRest.head? = some '/')
    (same : url.writeAuthority host ++ rest =
      otherHost ++ (UrlStandard.writePort otherPort ++ otherRest)) :
    hasUserinfo url = false := by
  by_contra hasOne
  obtain ⟨authority, -⟩ := UrlStandard.parts_of_parse isUrl noFile isHost
  let stop (char : Char) : Bool := char = '/' || char = '@'
  have ofUserinfo {char : Char} (outside : UrlStandard.inUserinfoSet char = false) :
      stop char = false := by
    simp only [stop, Bool.or_eq_false_iff, decide_eq_false_iff_not]
    constructor <;>
    · rintro rfl
      revert outside
      decide
  have isCredentials : ∃ password, (∀ char ∈ url.username ++ password, stop char = false) ∧
      url.writeAuthority host = (url.username ++ password) ++
        '@' :: (host ++ UrlStandard.writePort url.port) := by
    refine ⟨if url.password = [] then [] else ':' :: url.password, ?_, ?_⟩
    · intro char isMember
      rcases List.mem_append.mp isMember with inName | inPassword
      · exact ofUserinfo (authority.username char inName)
      · split at inPassword
        · cases inPassword
        · rcases List.mem_cons.mp inPassword with rfl | inPassword
          · decide
          · exact ofUserinfo (authority.password char inPassword)
    · have someone : ¬(url.username = [] ∧ url.password = []) := by
        simpa [hasUserinfo, imp_iff_not_or] using hasOne
      rw [UrlStandard.Url.writeAuthority, if_neg someone]
      simp [UrlStandard.writePort]
  have otherPasses : ∀ char ∈ otherHost ++ UrlStandard.writePort otherPort, stop char = false := by
    intro char isMember
    rcases List.mem_append.mp isMember with inHost | inPort
    · have isHost := isHostChar_of_onion onion char inHost
      simp only [stop, Bool.or_eq_false_iff, decide_eq_false_iff_not]
      constructor <;>
      · rintro rfl
        revert isHost
        decide
    · rcases mem_writePort inPort with rfl | isDigit
      · decide
      · simp only [stop, Bool.or_eq_false_iff, decide_eq_false_iff_not]
        constructor <;>
        · rintro rfl
          revert isDigit
          decide
  have otherEnds : ∀ char ∈ otherRest.head?, stop char = true := by
    intro char isHead
    rw [isPath, Option.mem_some_iff] at isHead
    rw [← isHead]
    decide
  obtain ⟨password, passes, isAuthority⟩ := isCredentials
  rw [isAuthority, List.append_assoc, List.cons_append, ← List.append_assoc otherHost] at same
  obtain ⟨-, sameRest⟩ := Text.append_inj_of_stops passes otherPasses
    (by intro char isHead; obtain rfl := Option.some.inj isHead; decide) otherEnds same
  rw [← sameRest] at isPath
  simp at isPath

theorem writeAuthority_of_noUserinfo (noUserinfo : hasUserinfo url = false) :
    url.writeAuthority host = host ++ UrlStandard.writePort url.port := by
  simp only [hasUserinfo, Bool.or_eq_false_iff, decide_eq_false_iff_not, not_not] at noUserinfo
  simp [UrlStandard.Url.writeAuthority, UrlStandard.writePort, noUserinfo]

end Texts

section Exact

variable {parsers : UrlStandard.Parsers} {parseError : String → String} {source normal : String}
  {url : UrlStandard.Url} {networkScheme : TorNetworkScheme} {target : TorHttpTarget}

theorem keepsForm_of_own (isUrl : UrlStandard.parse parsers source.toList = some url)
    (isScheme : TorNetworkScheme.fromUrlScheme url.scheme = some networkScheme)
    (isTor : isTorHttpScheme (String.ofList url.scheme) = true)
    (isTarget : torHttpTarget parsers parseError (urlWithoutFragment url) = .ok target)
    (same : target.finalUrl = urlWithoutFragment url) :
    hasUserinfo url = false ∧ (∃ host, url.hostStr = some host ∧ IsPlainHost host) ∧
      url.port ≠ some networkScheme.defaultPort ∧ url.path.write ≠ [] := by
  have noFile := noFile_of_fromUrlScheme isScheme
  have isOwn := torScheme_of_isTor isScheme isTor
  obtain ⟨otherScheme, otherHost, otherPort, otherRest, plain, noDefault, isPath, isText⟩ :=
    text_of_target isTarget same
  rw [urlWithoutFragment, String.toList_ofList, UrlStandard.Url.writeWithoutFragment, isOwn,
    List.append_assoc, List.cons_append] at isText
  obtain ⟨rfl, isRest⟩ := torScheme_inj isText
  cases isHost : url.host with
  | none => exact absurd isRest (UrlStandard.writeHierarchy_of_parse isUrl noFile isHost _)
  | some host =>
      have sameAuthority : url.writeAuthority host ++ (url.path.write ++
          (url.query.map ('?' :: ·)).getD []) =
            otherHost ++ (UrlStandard.writePort otherPort ++ otherRest) := by
        simpa [UrlStandard.Url.writeHierarchy, isHost] using isRest
      have noUserinfo := noUserinfo_of_written isUrl noFile isHost plain.onion isPath sameAuthority
      rw [writeAuthority_of_noUserinfo noUserinfo, List.append_assoc] at sameAuthority
      have noBracket : host.head? ≠ some '[' := by
        intro isBracket
        obtain ⟨others, rfl⟩ := List.head?_eq_some_iff.mp isBracket
        apply no_bracket_of_onion plain.onion
        have sameHead := congrArg List.head? sameAuthority
        rw [List.head?_append_of_ne_nil _ (ne_nil_of_onion plain.onion)] at sameHead
        exact sameHead.symm
      have ordinary : UrlStandard.isSpecial url.scheme = false := by
        rw [isOwn]
        exact (torScheme_ordinary networkScheme).2.2.2
      have ends : ∀ char ∈ (url.path.write ++ (url.query.map ('?' :: ·)).getD []).head?,
          endsAuthority char = true := by
        obtain ⟨-, pathText, isPath⟩ := UrlStandard.parts_of_parse isUrl noFile isHost
        rw [isPath]
        exact ends_path
      have otherEnds : ∀ char ∈ otherRest.head?, endsAuthority char = true := by
        intro char isHead
        rw [isPath, Option.mem_some_iff] at isHead
        rw [← isHead]
        decide
      obtain ⟨rfl, rfl, rfl⟩ := authority_inj (stopsHost_of_parse isUrl ordinary noFile isHost
        noBracket) (passes_of_onion plain.onion) ends otherEnds sameAuthority
      refine ⟨noUserinfo, ⟨host, ?_, plain⟩, noDefault, ?_⟩
      · rw [UrlStandard.Url.hostStr, isHost, Option.filter_some,
          if_pos (by simpa using ne_nil_of_onion plain.onion)]
      · intro noPath
        rw [noPath, List.nil_append] at isPath
        cases query : url.query with
        | none => simp [query] at isPath
        | some text => simp [query] at isPath

/-- What an HTTP URL of an onion host is rewritten to is normal only without a dot behind the
host. -/
theorem noDot_of_http {host : List Char}
    (isUrl : UrlStandard.parse parsers source.toList = some url)
    (isScheme : TorNetworkScheme.fromUrlScheme url.scheme = some networkScheme)
    (isHost : url.hostStr = some host) (onion : Browser.isOnionHost host = true)
    (isTarget : torHttpTarget parsers parseError (String.ofList
      (buildTorUrl networkScheme host url.port url.path.write url.query)) = .ok target)
    (same : target.finalUrl = String.ofList
      (buildTorUrl networkScheme host url.port url.path.write url.query)) :
    host.getLast? ≠ some '.' := by
  obtain ⟨-, pathText, isPath⟩ := UrlStandard.parts_of_parse isUrl
    (noFile_of_fromUrlScheme isScheme) (host_eq_of_hostStr isHost)
  obtain ⟨otherScheme, otherHost, otherPort, otherRest, plain, -, otherPath, isText⟩ :=
    text_of_target isTarget same
  have isWritten : buildTorUrl networkScheme host url.port url.path.write url.query =
      networkScheme.torScheme ++ ':' :: '/' :: '/' :: (host ++ (UrlStandard.writePort url.port ++
        (pathOrRoot url.path.write ++ writeQuery url.query))) := by
    rw [buildTorUrl]
    simp only [List.append_assoc]
    rfl
  rw [String.toList_ofList, isWritten] at isText
  obtain ⟨-, sameRest⟩ := torScheme_inj isText
  rw [List.cons.injEq, List.cons.injEq] at sameRest
  have ofSlash {rest : List Char} (isSlash : rest.head? = some '/') :
      ∀ char ∈ rest.head?, endsAuthority char = true := by
    intro char isHead
    rw [isSlash, Option.mem_some_iff] at isHead
    rw [← isHead]
    decide
  have ends : (pathOrRoot url.path.write ++ writeQuery url.query).head? = some '/' := by
    rw [isPath]
    exact head_pathOrRoot
  obtain ⟨rfl, -, -⟩ := authority_inj (passes_of_onion onion) (passes_of_onion plain.onion)
    (ofSlash ends) (ofSlash otherPath) sameRest.2.2
  exact plain.noDot

/-- A text is normalized for good exactly where the URL it is read as keeps its form. -/
theorem normalizesForGood_iff (parsers : UrlStandard.Parsers) (parseError : String → String)
    (source : String) :
    (∀ normal, normalizeTorNavigationUrl parsers parseError source = .ok normal →
      IsNormalForm parsers parseError normal) ↔
      ∀ url networkScheme, UrlStandard.parse parsers source.toList = some url →
        TorNetworkScheme.fromUrlScheme url.scheme = some networkScheme →
          KeepsForm url networkScheme := by
  constructor
  · intro forGood url networkScheme isUrl isScheme
    unfold KeepsForm
    split
    · rename_i isTor
      have isNormal := forGood (urlWithoutFragment url) (normalizeTorNavigationUrl_eq_ok_iff.mpr
        ⟨url, networkScheme, isUrl, isScheme, .own isTor⟩)
      obtain ⟨target, isTarget, same⟩ := isNormal.target
      exact keepsForm_of_own isUrl isScheme isTor isTarget same
    · rename_i noTor
      intro host isHost onion noUserinfo
      have isNormal := forGood _ (normalizeTorNavigationUrl_eq_ok_iff.mpr ⟨url, networkScheme,
        isUrl, isScheme, .http (by simpa using noTor) noUserinfo isHost onion⟩)
      obtain ⟨target, isTarget, same⟩ := isNormal.target
      exact noDot_of_http isUrl isScheme isHost onion isTarget same
  · intro keeps normal isNormal
    obtain ⟨url, networkScheme, isUrl, isScheme, isNormal⟩ :=
      normalizeTorNavigationUrl_eq_ok_iff.mp isNormal
    exact isNormalForm_of_keepsForm isUrl isScheme (keeps url networkScheme isUrl isScheme) isNormal

/-- A URL of Slate's own without a path is left as it is, but that of its target has one. -/
theorem pathless_url_not_normal :
    normalizeTorNavigationUrl UrlStandard.asciiParsers id "tor+http://example.onion" =
        .ok "tor+http://example.onion" ∧
      ¬IsNormalForm UrlStandard.asciiParsers id "tor+http://example.onion" := by
  refine ⟨rfl, fun isNormal => ?_⟩
  obtain ⟨target, isTarget, same⟩ := isNormal.target
  have withPath : (torHttpTarget UrlStandard.asciiParsers id "tor+http://example.onion").map
      TorHttpTarget.finalUrl = .ok "tor+http://example.onion/" := rfl
  rw [isTarget] at withPath
  have other := (Except.ok.inj withPath).symm.trans same
  revert other
  decide

end Exact

end Slate.Broadwebd.Tor
