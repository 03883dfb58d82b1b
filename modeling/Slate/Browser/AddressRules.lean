import Slate.Browser.OnionAddresses

/-!
# Addresses given back to the address bar

Each rule of the address bar makes addresses of a kind of its own. Entered again, an address is
tried against the same rules, and most come back as they are.
-/

namespace Slate.Browser

open Foundation

/-- The rules of the address bar with the addresses they make. -/
inductive AddressRule (directory trimmed : List Char) : List Char → Prop where
  | httpOnion {address : List Char} (made : normalizeHttpOnionUrl trimmed = some address) :
      AddressRule directory trimmed address
  | search : AddressRule directory trimmed (searchAddress trimmed)
  | supported (notHttpOnion : normalizeHttpOnionUrl trimmed = none)
      (noHint : isHttpUrlWithOnionHint (Text.toAsciiLowercase trimmed) = false)
      (supported : hasSupportedScheme (Text.toAsciiLowercase trimmed)) :
      AddressRule directory trimmed trimmed
  | ipfsPath {address : List Char} (made : normalizeIpfsPathAddress trimmed = some address) :
      AddressRule directory trimmed address
  | ipfsCid {address : List Char} (made : normalizeBareIpfsCid trimmed = some address) :
      AddressRule directory trimmed address
  | onionName {address : List Char} (made : normalizeOnionAddress trimmed = some address) :
      AddressRule directory trimmed address
  | localFile : AddressRule directory trimmed (localFileAddress directory trimmed)
  | plainHost {scheme : String} (isHttp : scheme = "http://" ∨ scheme = "https://")
      (noWhitespace : ¬trimmed.any Text.isWhitespace)
      (notSupported : ¬hasSupportedScheme (Text.toAsciiLowercase trimmed))
      (notIpfsPath : normalizeIpfsPathAddress trimmed = none)
      (notOnionName : normalizeOnionAddress trimmed = none)
      (notPage : ¬looksLikeLocalHtmlPath (Text.toAsciiLowercase trimmed))
      (noSlashes : ¬Text.contains (Text.toAsciiLowercase trimmed) "://".toList) :
      AddressRule directory trimmed (scheme.toList ++ trimmed)

theorem navigationAddress_rule (directory trimmed : List Char) :
    AddressRule directory trimmed (navigationAddress directory trimmed) := by
  unfold navigationAddress
  simp only
  split
  · exact .httpOnion ‹_›
  rename_i notHttpOnion
  split
  · exact .search
  rename_i noHint
  split
  · exact .supported notHttpOnion (by simpa using noHint) ‹_›
  rename_i notSupported
  split
  · exact .ipfsPath ‹_›
  rename_i notIpfsPath
  split
  · exact .ipfsCid ‹_›
  split
  · exact .onionName ‹_›
  rename_i notOnionName
  split
  · exact .localFile
  rename_i notPage
  split
  · exact .search
  rename_i noSlashes
  split
  · rename_i isPlainHost
    have noWhitespace : ¬trimmed.any Text.isWhitespace := by
      unfold looksLikeHost at isPlainHost
      rw [Bool.and_eq_true, Bool.not_eq_true'] at isPlainHost
      simp [isPlainHost.1]
    split
    · exact .plainHost (.inl rfl) noWhitespace notSupported notIpfsPath notOnionName notPage
        noSlashes
    · exact .plainHost (.inr rfl) noWhitespace notSupported notIpfsPath notOnionName notPage
        noSlashes
  · exact .search

section HttpOnion

variable {trimmed address rest host port : List Char} {scheme : String}

/-- An HTTP URL with an onion host, a port and no userinfo, read as the bar reads it. -/
structure HttpOnionUrl (trimmed : List Char) (scheme : String) (rest host port : List Char) :
    Prop where
  splits : splitHttpScheme trimmed = some (scheme, rest)
  noUserinfo : '@' ∉ authorityOf rest
  hostAndPort : (Text.splitOnce [':'] (authorityOf rest)).getD (authorityOf rest, []) = (host, port)
  onion : isOnionHost host
  digits : port.all Char.isDigit

/-- The path and the query of a request, never without a slash in front. -/
def requestTarget : List Char → List Char
  | [] => ['/']
  | '?' :: query => '/' :: '?' :: query
  | target => target

def torAuthority (host port : List Char) : List Char :=
  onionHostText host ++ if port = [] then [] else ':' :: port

/-- What stands behind the authority, without the fragment. -/
def targetText (rest : List Char) : List Char :=
  Text.before (· = '#') (Text.fromStop endsAuthority rest)

/-- What the rule for HTTP URLs with an onion host makes. -/
theorem exists_httpOnionUrl (made : normalizeHttpOnionUrl trimmed = some address) :
    ∃ scheme rest host port, HttpOnionUrl trimmed scheme rest host port ∧
      address = "tor+".toList ++ scheme.toList ++ "://".toList ++ torAuthority host port ++
        requestTarget (targetText rest) := by
  unfold normalizeHttpOnionUrl at made
  obtain ⟨⟨scheme, rest⟩, splits, made⟩ := Option.bind_eq_some_iff.mp made
  simp only at made
  split at made
  · cases made
  rename_i isAuthority
  generalize isParts :
    (Text.splitOnce [':'] (Text.before endsAuthority rest)).getD
      (Text.before endsAuthority rest, []) = parts at made
  obtain ⟨host, port⟩ := parts
  simp only at made
  split at made
  · cases made
  rename_i isOnion
  split at made
  · cases made
  rename_i isPort
  have onion : isOnionHost host := by simpa using isOnion
  have digits : port.all Char.isDigit := by
    by_cases empty : port = []
    · simp [empty]
    · simpa [empty] using isPort
  refine ⟨scheme, rest, host, port, ⟨splits, (not_or.mp isAuthority).2, isParts, onion, digits⟩, ?_⟩
  unfold torAuthority requestTarget targetText
  split at made <;> rename_i isTarget <;> obtain rfl := Option.some.inj made <;>
    simp [isTarget]

end HttpOnion

section Kinds

variable {directory address trimmed : List Char}

theorem head_append {start rest : List Char} {first : Char} (isFirst : start.head? = some first) :
    (start ++ rest).head? = some first := by
  rw [List.head?_append, isFirst]
  rfl

/-- Only search addresses and addresses that are kept can be internal ones. -/
theorem AddressRule.internal (rule : AddressRule directory trimmed address)
    (isInternal : address.head? = some 's') :
    address = searchAddress trimmed ∨
      address = trimmed ∧ hasSupportedScheme (Text.toAsciiLowercase trimmed) := by
  have other {start rest : List Char} {first : Char} (isFirst : start.head? = some first)
      (isOther : first ≠ 's') : (start ++ rest).head? ≠ some 's' := by
    rw [head_append isFirst]
    exact fun same => isOther (Option.some.inj same)
  cases rule with
  | httpOnion made =>
      obtain ⟨scheme, rest, host, port, -, rfl⟩ := exists_httpOnionUrl made
      simp only [List.append_assoc] at isInternal
      exact absurd isInternal (@other _ _ 't' (by decide) (by decide))
  | search => exact .inl rfl
  | supported _ _ supported => exact .inr ⟨rfl, supported⟩
  | ipfsPath made =>
      obtain ⟨scheme, isScheme, rest, -, rfl⟩ := exists_of_ipfsPath made
      rcases isScheme with rfl | rfl <;>
        exact absurd isInternal (@other _ _ 'i' (by decide) (by decide))
  | ipfsCid made =>
      obtain ⟨rest, -, rfl⟩ := exists_of_ipfsCid made
      exact absurd isInternal (@other _ _ 'i' (by decide) (by decide))
  | onionName made =>
      obtain ⟨rest, -, rfl⟩ := exists_of_onionName made
      exact absurd isInternal (@other _ _ 't' (by decide) (by decide))
  | localFile => exact absurd isInternal (@other _ _ 'f' (by decide) (by decide))
  | plainHost isHttp =>
      rcases isHttp with rfl | rfl <;>
        exact absurd isInternal (@other _ _ 'h' (by decide) (by decide))

end Kinds

section Settled

variable {directory address start rest trimmed : List Char}

theorem splitHttpScheme_eq_none_iff {input : List Char} :
    splitHttpScheme input = none ↔
      ¬startsWith (Text.toAsciiLowercase input) "http://" ∧
        ¬startsWith (Text.toAsciiLowercase input) "https://" := by
  unfold splitHttpScheme
  by_cases isHttp : startsWith (Text.toAsciiLowercase input) "http://" = true
  · simp [isHttp]
  · by_cases isHttps : startsWith (Text.toAsciiLowercase input) "https://" = true
    · simp [isHttp, isHttps]
    · simp [isHttp, isHttps]

theorem splitHttpScheme_of_httpHost (notHttp : httpHost address = none) :
    splitHttpScheme address = none := Option.map_eq_none_iff.mp notHttp

theorem normalizeHttpOnionUrl_of_notHttp (notHttp : splitHttpScheme address = none) :
    normalizeHttpOnionUrl address = none := by
  simp [normalizeHttpOnionUrl, notHttp]

theorem noHint_of_notHttp (notHttp : splitHttpScheme address = none) :
    isHttpUrlWithOnionHint (Text.toAsciiLowercase address) = false := by
  obtain ⟨notHttp, notHttps⟩ := splitHttpScheme_eq_none_iff.mp notHttp
  simp [isHttpUrlWithOnionHint, notHttp, notHttps]

theorem startsWith_append {scheme : String} (starts : startsWith start scheme) :
    startsWith (start ++ rest) scheme :=
  startsWith_iff.mpr ((startsWith_iff.mp starts).trans (List.prefix_append _ _))

theorem hasSupportedScheme_append (supported : hasSupportedScheme start) :
    hasSupportedScheme (start ++ rest) := by
  simp only [hasSupportedScheme, Bool.or_eq_true] at supported ⊢
  rcases supported with
    (((((((((starts | starts) | starts) | starts) | starts) | starts) | starts) | starts) | starts)
      | starts) | starts
  all_goals simp [startsWith_append starts]

/-- An address that is neither trimmed nor taken for an HTTP URL, and whose scheme is known. -/
structure Settled (address : List Char) : Prop where
  isTrimmed : Text.trim address = address
  notHttpOnion : normalizeHttpOnionUrl address = none
  noHint : isHttpUrlWithOnionHint (Text.toAsciiLowercase address) = false
  supported : hasSupportedScheme (Text.toAsciiLowercase address)

theorem navigationAddress_of_settled (settled : Settled address) :
    navigationAddress directory (Text.trim address) = address := by
  rw [settled.isTrimmed]
  unfold navigationAddress
  simp [settled.notHttpOnion, settled.noHint, settled.supported]

theorem settled_of_notHttp (isTrimmed : Text.trim address = address)
    (notHttp : httpHost address = none)
    (supported : hasSupportedScheme (Text.toAsciiLowercase address)) : Settled address where
  isTrimmed
  notHttpOnion := normalizeHttpOnionUrl_of_notHttp (splitHttpScheme_of_httpHost notHttp)
  noHint := noHint_of_notHttp (splitHttpScheme_of_httpHost notHttp)
  supported

/-- The scheme in front of an address is among those that the bar knows. -/
theorem hasSupportedScheme_of_scheme {scheme : String}
    (supported : hasSupportedScheme (Text.toAsciiLowercase scheme.toList)) (rest : List Char) :
    hasSupportedScheme (Text.toAsciiLowercase (scheme.toList ++ rest)) := by
  rw [Text.toAsciiLowercase, List.map_append]
  exact hasSupportedScheme_append supported

theorem unspaced_encodeQueryChar (char : Char) : Text.Unspaced (encodeQueryChar char) := by
  unfold encodeQueryChar
  split
  · rename_i plain
    intro same isSame
    obtain rfl := List.mem_singleton.mp isSame
    simp only [Bool.or_eq_true, decide_eq_true_eq] at plain
    rcases plain with (((alphanum | rfl) | rfl) | rfl) | rfl
    · exact Text.isWhitespace_of_alphanum alphanum
    all_goals decide
  · split
    · simp [Text.Unspaced, Text.isWhitespace]
    · exact Text.unspaced_flatMap Text.unspaced_percentEncodeByte _

theorem settled_searchAddress : Settled (searchAddress trimmed) := by
  have unspaced : Text.Unspaced (searchAddress trimmed) := by
    exact Text.unspaced_append.mpr ⟨by decide, Text.unspaced_flatMap unspaced_encodeQueryChar _⟩
  exact settled_of_notHttp (Text.trim_of_unspaced unspaced) httpHost_searchAddress
    (hasSupportedScheme_of_scheme (by decide) _)

end Settled

section Made

variable {directory address trimmed : List Char}

theorem settled_localFileAddress : Settled (localFileAddress directory trimmed) := by
  have unspaced : Text.Unspaced (localFileAddress directory trimmed) := by
    refine Text.unspaced_append.mpr ⟨by decide, Text.unspaced_flatMap (fun byte => ?_) _⟩
    split
    · rename_i plain
      intro same isSame
      obtain rfl := List.mem_singleton.mp isSame
      simp only [isPlainPathByte, Bool.or_eq_true, decide_eq_true_eq] at plain
      rcases plain with ((((alphanum | isMark) | isMark) | isMark) | isMark) | isMark
      · exact Text.isWhitespace_of_alphanum alphanum
      all_goals
        rw [isMark]
        decide
    · exact Text.unspaced_percentEncodeByte byte
  exact settled_of_notHttp (Text.trim_of_unspaced unspaced) httpHost_localFileAddress
    (hasSupportedScheme_of_scheme (by decide) _)

theorem settled_ipfsPath (made : normalizeIpfsPathAddress trimmed = some address) :
    Settled address := by
  have notHttp := httpHost_normalizeIpfsPathAddress made
  obtain ⟨scheme, isScheme, rest, unspaced, rfl⟩ := exists_of_ipfsPath made
  rcases isScheme with rfl | rfl <;>
    exact settled_of_notHttp
      (Text.trim_of_unspaced (Text.unspaced_append.mpr ⟨by decide, unspaced⟩)) notHttp
      (hasSupportedScheme_of_scheme (by decide) _)

theorem settled_ipfsCid (made : normalizeBareIpfsCid trimmed = some address) : Settled address := by
  have notHttp := httpHost_normalizeBareIpfsCid made
  obtain ⟨rest, unspaced, rfl⟩ := exists_of_ipfsCid made
  exact settled_of_notHttp
    (Text.trim_of_unspaced (Text.unspaced_append.mpr ⟨by decide, unspaced⟩)) notHttp
    (hasSupportedScheme_of_scheme (by decide) _)

theorem settled_onionName (made : normalizeOnionAddress trimmed = some address) :
    Settled address := by
  have notHttp := httpHost_normalizeOnionAddress made
  obtain ⟨rest, unspaced, rfl⟩ := exists_of_onionName made
  exact settled_of_notHttp
    (Text.trim_of_unspaced (Text.unspaced_append.mpr ⟨by decide, unspaced⟩)) notHttp
    (hasSupportedScheme_of_scheme (by decide) _)

end Made

section OnionChars

variable {host text : List Char} {char : Char}

/-- The characters of an onion host. -/
def isOnionHostChar (char : Char) : Bool := char.isAlphanum || char = '-' || char = '.'

theorem isOnionHostChar_of_toLower (isLowerChar : isOnionHostChar char.toLower) :
    isOnionHostChar char := by
  by_cases isLower : char.toLower.isLower
  · by_cases upper : char.isUpper
    · have alphanum := Text.isAlphanum_iff.mpr (.inl upper)
      simp [isOnionHostChar, alphanum]
    · rwa [Text.toLower_of_not_upper upper] at isLowerChar
  · rwa [← Text.eq_of_toLower_eq rfl isLower] at isLowerChar

theorem isOnionHostChar_of_isOnionLabel {label : List Char} (isLabel : isOnionLabel label)
    (isMember : char ∈ label) : isOnionHostChar char := by
  rw [isOnionLabel, Bool.and_eq_true] at isLabel
  have allowed := List.all_eq_true.mp isLabel.2 char isMember
  simp only [Bool.or_eq_true, decide_eq_true_eq] at allowed
  rcases allowed with (isLower | isDigit) | rfl
  · have alphanum := Text.isAlphanum_iff.mpr (.inr (.inl isLower))
    simp [isOnionHostChar, alphanum]
  · simp [isOnionHostChar, Char.isAlphanum, isDigit]
  · decide

theorem isOnionHostChar_of_isOnionHost (onion : isOnionHost host) (isMember : char ∈ host) :
    isOnionHostChar char := by
  have ending : (".onion".toList.all isOnionHostChar) = true := by decide
  unfold isOnionHost at onion
  simp only at onion
  split at onion
  · rename_i isSuffix
    rw [Bool.and_eq_true] at onion
    rw [← @List.rdropWhile_append_rtakeWhile _ (· == '.') host, List.mem_append] at isMember
    rcases isMember with inFront | isDot
    · apply isOnionHostChar_of_toLower
      have inLower : char.toLower ∈ Text.toAsciiLowercase (Text.trimEndMatches '.' host) :=
        List.mem_map_of_mem inFront
      obtain ⟨name, isName⟩ := isSuffix
      rw [← isName] at inLower onion
      have taken : (name ++ ".onion".toList).take
          ((name ++ ".onion".toList).length - ".onion".length) = name := by
        have length : ".onion".length = ".onion".toList.length := by decide
        rw [List.length_append, length, Nat.add_sub_cancel, List.take_left]
      rw [taken] at onion
      rcases List.mem_append.mp inLower with inName | inEnding
      · rw [← @List.intercalate_splitOn _ name _ _ '.'] at inName
        rcases Text.mem_intercalate inName with isDot | ⟨label, isLabel, inLabel⟩
        · rw [isDot]
          decide
        · exact isOnionHostChar_of_isOnionLabel (List.all_eq_true.mp onion.2 label isLabel) inLabel
      · exact List.all_eq_true.mp ending _ inEnding
    · have isDot := List.mem_rtakeWhile_imp isDot
      obtain rfl : char = '.' := by simpa using isDot
      decide
  · cases onion

end OnionChars

end Slate.Browser
