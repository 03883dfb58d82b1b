import Slate.Browser.Navigation

/-!
# Onion names and the address bar

An onion name goes to Tor where it stands alone or in an HTTP URL. With userinfo or a port in
front of it or behind it, and no scheme, it is taken for the name of an ordinary host.
-/

namespace Slate.Browser

open Foundation

section Hosts

/-- The host of an authority: what stands behind its userinfo and before its port. -/
def hostOf (authority : List Char) : List Char :=
  Text.before (· = ':') (authority.rtakeWhile (· ≠ '@'))

def authorityOf (text : List Char) : List Char := Text.before endsAuthority text

/-- The host of an HTTP or HTTPS address. -/
def httpHost (address : List Char) : Option (List Char) :=
  (splitHttpScheme address).map fun parts => hostOf (authorityOf parts.2)

theorem hostOf_isInfix (authority : List Char) : hostOf authority <:+: authority :=
  Text.before_isPrefix.isInfix.trans (List.rtakeWhile_suffix _ _).isInfix

theorem hostOf_authorityOf_isInfix (text : List Char) : hostOf (authorityOf text) <:+: text :=
  (hostOf_isInfix _).trans Text.before_isPrefix.isInfix

theorem onion_infix_of_isOnionHost {host : List Char} (onion : isOnionHost host) :
    ".onion".toList <:+: Text.toAsciiLowercase host := by
  unfold isOnionHost at onion
  simp only at onion
  split at onion
  · rename_i suffix
    exact suffix.isInfix.trans (Text.trimEndMatches_isPrefix.map Char.toLower).isInfix
  · cases onion

/-- What contains an onion host contains its suffix. -/
theorem onion_infix_of_isInfix {host text : List Char} (onion : isOnionHost host)
    (isInfix : host <:+: text) : ".onion".toList <:+: Text.toAsciiLowercase text :=
  (onion_infix_of_isOnionHost onion).trans (isInfix.map Char.toLower)

theorem six_le_length_of_isOnionHost {host : List Char} (onion : isOnionHost host) :
    6 ≤ host.length := by
  have le := (onion_infix_of_isOnionHost onion).length_le
  simpa [Text.toAsciiLowercase] using le

end Hosts

section Schemes

theorem startsWith_iff {text : List Char} {start : String} :
    startsWith text start ↔ start.toList <+: text := by
  simp [startsWith]

theorem contains_slashes_of_startsWith {lower : List Char} {start : String}
    (starts : startsWith lower start) (slashes : "://".toList <:+: start.toList) :
    Text.contains lower "://".toList :=
  Text.contains_iff.mpr (slashes.trans (startsWith_iff.mp starts).isInfix)

theorem contains_slashes_of_hasSupportedScheme {lower : List Char}
    (supported : hasSupportedScheme lower) (notMagnet : ¬startsWith lower "magnet:") :
    Text.contains lower "://".toList := by
  simp only [hasSupportedScheme, Bool.or_eq_true] at supported
  rcases supported with
    (((((((((starts | starts) | starts) | starts) | starts) | starts) | starts) | starts) | starts)
      | starts) | starts
  all_goals first
    | exact contains_slashes_of_startsWith starts (by decide)
    | exact absurd starts notMagnet

theorem splitHttpScheme_isSuffix {input rest : List Char} {scheme : String}
    (splits : splitHttpScheme input = some (scheme, rest)) : rest <:+ input := by
  unfold splitHttpScheme at splits
  simp only at splits
  split at splits
  · obtain ⟨-, rfl⟩ := Prod.mk.inj (Option.some.inj splits)
    exact List.drop_suffix _ _
  · split at splits
    · obtain ⟨-, rfl⟩ := Prod.mk.inj (Option.some.inj splits)
      exact List.drop_suffix _ _
    · cases splits

theorem starts_of_splitHttpScheme {input rest : List Char} {scheme : String}
    (splits : splitHttpScheme input = some (scheme, rest)) :
    startsWith (Text.toAsciiLowercase input) "http://" ∨
      startsWith (Text.toAsciiLowercase input) "https://" := by
  unfold splitHttpScheme at splits
  simp only at splits
  split at splits
  · exact .inl ‹_›
  · split at splits
    · exact .inr ‹_›
    · cases splits

theorem httpHost_append_of_head {start rest : List Char} (first : Char)
    (isFirst : start.head? = some first) (other : first.toLower ≠ 'h') :
    httpHost (start ++ rest) = none := by
  obtain ⟨others, rfl⟩ : ∃ others, start = first :: others := by
    cases start with
    | nil => simp at isFirst
    | cons head others => exact ⟨others, by simpa using isFirst⟩
  have notPrefix (word : String) (wordHead : word.toList.head? = some 'h') :
      ¬startsWith (Text.toAsciiLowercase (first :: others ++ rest)) word := by
    rw [startsWith_iff]
    cases letters : word.toList with
    | nil => simp [letters] at wordHead
    | cons letter more =>
      have isH : letter = 'h' := by simpa [letters] using wordHead
      simp only [Text.toAsciiLowercase, List.cons_append, List.map_cons, List.cons_prefix_cons,
        isH]
      exact fun both => other both.1.symm
  unfold httpHost splitHttpScheme
  simp only [notPrefix "http://" (by decide), notPrefix "https://" (by decide),
    Bool.false_eq_true, if_false, Option.map_none]

theorem httpHost_http (text : List Char) :
    httpHost ("http://".toList ++ text) = some (hostOf (authorityOf text)) := by
  have length : "http://".length = 7 := by decide
  simp [httpHost, splitHttpScheme, startsWith, Text.toAsciiLowercase, length]

theorem httpHost_https (text : List Char) :
    httpHost ("https://".toList ++ text) = some (hostOf (authorityOf text)) := by
  have length : "https://".length = 8 := by decide
  simp [httpHost, splitHttpScheme, startsWith, Text.toAsciiLowercase, length]

end Schemes

section Rules

variable {trimmed address : List Char}

theorem httpHost_searchAddress : httpHost (searchAddress trimmed) = none :=
  httpHost_append_of_head 's' (by decide) (by decide)

theorem httpHost_localFileAddress {directory : List Char} :
    httpHost (localFileAddress directory trimmed) = none :=
  httpHost_append_of_head 'f' (by decide) (by decide)

theorem httpHost_normalizeHttpOnionUrl (rule : normalizeHttpOnionUrl trimmed = some address) :
    httpHost address = none := by
  have tor (rest : List Char) : httpHost ("tor+".toList ++ rest) = none :=
    httpHost_append_of_head 't' (by decide) (by decide)
  unfold normalizeHttpOnionUrl at rule
  obtain ⟨⟨scheme, rest⟩, -, rule⟩ := Option.bind_eq_some_iff.mp rule
  simp only at rule
  split at rule
  · cases rule
  · split at rule
    · cases rule
    · split at rule
      · cases rule
      · split at rule <;> obtain rfl := Option.some.inj rule <;>
          simp only [List.append_assoc, tor]

theorem exists_of_ipfsPath (made : normalizeIpfsPathAddress trimmed = some address) :
    ∃ scheme : String, (scheme = "ipfs://" ∨ scheme = "ipns://") ∧
      ∃ rest, Text.Unspaced rest ∧ address = scheme.toList ++ rest := by
  unfold normalizeIpfsPathAddress at made
  extract_lets path lower scheme at made
  have schemeName (name : String) (isScheme : scheme = some name) :
      name = "ipfs" ∨ name = "ipns" := by
    simp only [scheme] at isScheme
    split at isScheme
    · exact .inl (Option.some.inj isScheme).symm
    · split at isScheme
      · exact .inr (Option.some.inj isScheme).symm
      · cases isScheme
  clear_value scheme
  cases scheme with
  | none => cases made
  | some name =>
      simp only at made
      split at made
      · cases made
      rename_i isRest
      split at made
      · cases made
      obtain rfl := Option.some.inj made
      have unspaced := Text.unspaced_iff.mpr (not_or.mp isRest).2
      rcases schemeName name rfl with rfl | rfl
      · exact ⟨"ipfs://", .inl rfl, _, unspaced, rfl⟩
      · exact ⟨"ipns://", .inr rfl, _, unspaced, rfl⟩

theorem httpHost_normalizeIpfsPathAddress
    (rule : normalizeIpfsPathAddress trimmed = some address) : httpHost address = none := by
  obtain ⟨scheme, isScheme, rest, -, rfl⟩ := exists_of_ipfsPath rule
  rcases isScheme with rfl | rfl <;>
    exact httpHost_append_of_head 'i' (by decide) (by decide)

theorem exists_of_ipfsCid (made : normalizeBareIpfsCid trimmed = some address) :
    ∃ rest, Text.Unspaced rest ∧ address = "ipfs://".toList ++ rest := by
  unfold normalizeBareIpfsCid at made
  simp only at made
  split at made
  · rename_i cidv0
    refine ⟨trimmed, fun char isMember => ?_, (Option.some.inj made).symm⟩
    rw [isCidv0Like, Bool.and_eq_true] at cidv0
    have letters : ("123456789ABCDEFGHJKLMNPQRSTUVWXYZabcdefghijkmnopqrstuvwxyz".toList.all
        fun char => !Text.isWhitespace char) = true := by decide
    have isLetter := List.contains_iff_mem.mp (List.all_eq_true.mp cidv0.2 char isMember)
    simpa using List.all_eq_true.mp letters char isLetter
  · split at made
    · rename_i cidv1
      rw [Bool.and_eq_true] at cidv1
      refine ⟨_, Text.unspaced_toAsciiLowercase ?_, (Option.some.inj made).symm⟩
      exact fun char isMember =>
        Text.isWhitespace_of_alphanum (List.all_eq_true.mp cidv1.2 char isMember)
    · cases made

theorem httpHost_normalizeBareIpfsCid (rule : normalizeBareIpfsCid trimmed = some address) :
    httpHost address = none := by
  obtain ⟨rest, -, rfl⟩ := exists_of_ipfsCid rule
  exact httpHost_append_of_head 'i' (by decide) (by decide)

theorem unspaced_onionHostText {host : List Char} (unspaced : Text.Unspaced host) :
    Text.Unspaced (onionHostText host) :=
  Text.unspaced_toAsciiLowercase (unspaced.of_subset Text.trimEndMatches_isPrefix.subset)

theorem exists_of_onionName (made : normalizeOnionAddress trimmed = some address) :
    ∃ rest, Text.Unspaced rest ∧ address = "tor+http://".toList ++ rest := by
  unfold normalizeOnionAddress at made
  simp only at made
  split at made
  · cases made
  rename_i noWhitespace
  have unspaced := Text.unspaced_iff.mpr noWhitespace
  split at made
  · cases made
  have unspacedHost : Text.Unspaced (onionHostText (Text.before endsAuthority trimmed)) :=
    unspaced_onionHostText (unspaced.of_subset Text.before_isPrefix.subset)
  have unspacedRest : Text.Unspaced (Text.fromStop endsAuthority trimmed) :=
    unspaced.of_subset (List.dropWhile_suffix _).subset
  split at made <;> obtain rfl := Option.some.inj made
  · refine ⟨_, Text.unspaced_append.mpr ⟨unspacedHost, ?_⟩, List.append_assoc _ _ _⟩
    decide
  · rename_i isRest
    rw [isRest] at unspacedRest
    refine ⟨_, Text.unspaced_append.mpr ⟨unspacedHost, ?_⟩, List.append_assoc _ _ _⟩
    exact Text.unspaced_cons.mpr ⟨by decide, unspacedRest⟩
  · exact ⟨_, Text.unspaced_append.mpr ⟨unspacedHost, unspacedRest⟩, List.append_assoc _ _ _⟩

theorem httpHost_normalizeOnionAddress (rule : normalizeOnionAddress trimmed = some address) :
    httpHost address = none := by
  obtain ⟨rest, -, rfl⟩ := exists_of_onionName rule
  exact httpHost_append_of_head 't' (by decide) (by decide)

/-- The onion rule takes every input without white space whose authority is an onion host. -/
theorem normalizeOnionAddress_eq_none_iff :
    normalizeOnionAddress trimmed = none ↔
      trimmed.any Text.isWhitespace ∨ ¬isOnionHost (authorityOf trimmed) := by
  unfold normalizeOnionAddress
  simp only
  split
  · simp [*]
  · split
    · simp_all [authorityOf]
    · split <;> simp_all [authorityOf]

end Rules

/-- An input without a scheme whose host is an onion host, next to userinfo or a port. -/
structure OnionBesideUserOrPort (trimmed : List Char) : Prop where
  noWhitespace : ¬trimmed.any Text.isWhitespace
  noSlashes : ¬Text.contains (Text.toAsciiLowercase trimmed) "://".toList
  notMagnet : ¬startsWith (Text.toAsciiLowercase trimmed) "magnet:"
  notPage : ¬looksLikeLocalHtmlPath (Text.toAsciiLowercase trimmed)
  notAlone : ¬isOnionHost (authorityOf trimmed)
  onion : isOnionHost (hostOf (authorityOf trimmed))

section Addresses

variable {directory trimmed host : List Char}

theorem startsWith_magnet_supported {lower : List Char} (starts : startsWith lower "magnet:") :
    hasSupportedScheme lower := by
  simp [hasSupportedScheme, starts]

/-- An HTTP URL with an onion host has the onion hint. -/
theorem hint_of_httpHost (isHost : httpHost trimmed = some host) (onion : isOnionHost host) :
    isHttpUrlWithOnionHint (Text.toAsciiLowercase trimmed) := by
  obtain ⟨⟨scheme, rest⟩, splits, rfl⟩ := Option.map_eq_some_iff.mp isHost
  have inInput : hostOf (authorityOf rest) <:+: trimmed :=
    (hostOf_authorityOf_isInfix rest).trans (splitHttpScheme_isSuffix splits).isInfix
  have hint := Text.contains_iff.mpr (onion_infix_of_isInfix onion inInput)
  unfold isHttpUrlWithOnionHint
  rw [Bool.and_eq_true, Bool.or_eq_true]
  exact ⟨starts_of_splitHttpScheme splits, hint⟩

/-- Only the rule for plain hosts hands an onion host to the clear web. -/
theorem onionBeside_of_httpHost_navigationAddress
    (isHost : httpHost (navigationAddress directory trimmed) = some host)
    (onion : isOnionHost host) : OnionBesideUserOrPort trimmed := by
  have noHost {address : List Char} (isNone : httpHost address = none)
      (isSome : httpHost address = some host) : OnionBesideUserOrPort trimmed := by
    rw [isNone] at isSome
    cases isSome
  unfold navigationAddress at isHost
  simp only at isHost
  split at isHost
  · exact noHost (httpHost_normalizeHttpOnionUrl ‹_›) isHost
  split at isHost
  · exact noHost httpHost_searchAddress isHost
  rename_i noHint
  split at isHost
  · exact absurd (hint_of_httpHost isHost onion) noHint
  rename_i notSupported
  split at isHost
  · exact noHost (httpHost_normalizeIpfsPathAddress ‹_›) isHost
  split at isHost
  · exact noHost (httpHost_normalizeBareIpfsCid ‹_›) isHost
  split at isHost
  · exact noHost (httpHost_normalizeOnionAddress ‹_›) isHost
  rename_i notOnionName
  split at isHost
  · exact noHost httpHost_localFileAddress isHost
  rename_i notPage
  split at isHost
  · exact noHost httpHost_searchAddress isHost
  rename_i noSlashes
  split at isHost
  · rename_i isPlainHost
    have noWhitespace : ¬trimmed.any Text.isWhitespace := by
      unfold looksLikeHost at isPlainHost
      rw [Bool.and_eq_true, Bool.not_eq_true'] at isPlainHost
      simp [isPlainHost.1]
    have plainHost : hostOf (authorityOf trimmed) = host := by
      split at isHost
      · rw [httpHost_http] at isHost
        exact Option.some.inj isHost
      · rw [httpHost_https] at isHost
        exact Option.some.inj isHost
    rw [← plainHost] at onion
    exact {
      noWhitespace
      noSlashes
      notMagnet := fun starts => notSupported (startsWith_magnet_supported starts)
      notPage
      notAlone := (normalizeOnionAddress_eq_none_iff.mp notOnionName).resolve_left noWhitespace
      onion }
  · exact noHost httpHost_searchAddress isHost

/-- An input whose authority holds an onion host contains a dot. -/
theorem dot_mem_of_onion (onion : isOnionHost (hostOf (authorityOf trimmed))) : '.' ∈ trimmed := by
  have isInfix := onion_infix_of_isInfix onion (hostOf_authorityOf_isInfix trimmed)
  have dot : '.' ∈ ".onion".toList := by decide
  obtain ⟨char, membership, same⟩ := List.mem_map.mp (isInfix.subset dot)
  rw [← Text.eq_of_toLower_eq same (by decide)]
  exact membership

theorem normalizeHttpOnionUrl_eq_none
    (noSlashes : ¬Text.contains (Text.toAsciiLowercase trimmed) "://".toList) :
    normalizeHttpOnionUrl trimmed = none := by
  have noScheme : splitHttpScheme trimmed = none := by
    apply Option.eq_none_iff_forall_ne_some.mpr
    rintro ⟨scheme, rest⟩ splits
    rcases starts_of_splitHttpScheme splits with starts | starts <;>
      exact noSlashes (contains_slashes_of_startsWith starts (by decide))
  unfold normalizeHttpOnionUrl
  rw [noScheme]
  rfl

/-- The authority of a text with a slash behind four characters is no onion host. -/
theorem not_onion_of_slash {position : Nat} (slash : trimmed[position]? = some '/')
    (short : position < 6) : ¬isOnionHost (hostOf (authorityOf trimmed)) := by
  intro onion
  have authorityShort : (authorityOf trimmed).length ≤ position :=
    Text.before_length_le slash (by decide)
  have hostShort := (hostOf_isInfix (authorityOf trimmed)).length_le
  have hostLong := six_le_length_of_isOnionHost onion
  omega

theorem normalizeIpfsPathAddress_eq_none
    (onion : isOnionHost (hostOf (authorityOf trimmed))) :
    normalizeIpfsPathAddress trimmed = none := by
  have noSlashFirst : trimmed.head? ≠ some '/' := fun slash =>
    not_onion_of_slash (List.head?_eq_getElem? ▸ slash) (by decide) onion
  have noPath (start : String) (slash : start.toList[4]? = some '/') :
      ¬startsWith (Text.toAsciiLowercase trimmed) start := by
    intro starts
    obtain ⟨rest, isLower⟩ := startsWith_iff.mp starts
    have atFour : (Text.toAsciiLowercase trimmed)[4]? = some '/' := by
      rw [← isLower, List.getElem?_append_left (List.getElem?_eq_some_iff.mp slash).1]
      exact slash
    exact not_onion_of_slash (Text.getElem?_of_toAsciiLowercase atFour (by decide)) (by decide)
      onion
  unfold normalizeIpfsPathAddress
  simp [noSlashFirst, noPath "ipfs/" (by decide), noPath "ipns/" (by decide)]

theorem normalizeBareIpfsCid_eq_none (dot : '.' ∈ trimmed) :
    normalizeBareIpfsCid trimmed = none := by
  have notCidv0 : isCidv0Like trimmed = false := by
    unfold isCidv0Like
    rw [Bool.and_eq_false_iff]
    right
    exact List.all_eq_false.mpr ⟨'.', dot, by decide⟩
  have notAlphanumeric : trimmed.all Char.isAlphanum = false :=
    List.all_eq_false.mpr ⟨'.', dot, by decide⟩
  simp [normalizeBareIpfsCid, notCidv0, notAlphanumeric]

/-- The onion host of such an input becomes the host of an HTTP address. -/
theorem OnionBesideUserOrPort.httpHost (beside : OnionBesideUserOrPort trimmed) :
    httpHost (navigationAddress directory trimmed) = some (hostOf (authorityOf trimmed)) := by
  have dot := dot_mem_of_onion beside.onion
  have noHint : isHttpUrlWithOnionHint (Text.toAsciiLowercase trimmed) = false := by
    rw [isHttpUrlWithOnionHint, Bool.and_eq_false_iff]
    left
    rw [← Bool.not_eq_true, Bool.or_eq_true]
    rintro (starts | starts) <;>
      exact beside.noSlashes (contains_slashes_of_startsWith starts (by decide))
  have notSupported : hasSupportedScheme (Text.toAsciiLowercase trimmed) = false := by
    rw [← Bool.not_eq_true]
    exact fun supported =>
      beside.noSlashes (contains_slashes_of_hasSupportedScheme supported beside.notMagnet)
  have notOnionName : normalizeOnionAddress trimmed = none :=
    normalizeOnionAddress_eq_none_iff.mpr (.inr beside.notAlone)
  have isPlainHost : looksLikeHost trimmed = true := by
    simp only [looksLikeHost, beside.noWhitespace, List.contains_iff_mem.mpr dot]
    rfl
  unfold navigationAddress
  simp only [normalizeHttpOnionUrl_eq_none beside.noSlashes, noHint, notSupported,
    normalizeIpfsPathAddress_eq_none beside.onion, normalizeBareIpfsCid_eq_none dot, notOnionName,
    beside.notPage, beside.noSlashes, isPlainHost, Bool.false_eq_true, if_false, if_true]
  split
  · exact httpHost_http trimmed
  · exact httpHost_https trimmed

end Addresses

/-- The address bar hands no onion host to the clear web. -/
def KeepsOnionsOffClearWeb (result : Except NavigationError String) : Prop :=
  ∀ address host, result = .ok address → httpHost address.toList = some host →
    ¬isOnionHost host

/-- Exactly the inputs without a scheme that put an onion host next to userinfo or a port reach
the clear web. -/
theorem normalizeNavigationInput_keepsOnionsOffClearWeb_iff (currentDirectory input : String) :
    KeepsOnionsOffClearWeb (normalizeNavigationInput currentDirectory input) ↔
      ¬OnionBesideUserOrPort (Text.trim input.toList) := by
  constructor
  · intro keeps beside
    have nonempty : Text.trim input.toList ≠ [] := by
      intro empty
      have dot := dot_mem_of_onion beside.onion
      rw [empty] at dot
      cases dot
    refine keeps (String.ofList (navigationAddress currentDirectory.toList
      (Text.trim input.toList))) _ ?_ ?_ beside.onion
    · simp [normalizeNavigationInput, nonempty]
    · rw [String.toList_ofList]
      exact beside.httpHost
  · intro notBeside address host isAddress isHost onion
    unfold normalizeNavigationInput at isAddress
    simp only at isAddress
    split at isAddress
    · cases isAddress
    · obtain rfl := Except.ok.inj isAddress
      rw [String.toList_ofList] at isHost
      exact notBeside (onionBeside_of_httpHost_navigationAddress isHost onion)

/-- An onion name with a port goes to the clear web. -/
theorem onion_name_with_port_on_clear_web :
    ¬∀ currentDirectory input : String,
      KeepsOnionsOffClearWeb (normalizeNavigationInput currentDirectory input) := by
  intro keeps
  exact keeps "/" "example.onion:8080" "https://example.onion:8080" "example.onion".toList
    (by decide +kernel) (by decide +kernel) (by decide +kernel)

end Slate.Browser
