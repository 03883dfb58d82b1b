import Slate.Browser.AddressRules

/-!
# Entering an address again

What the bar makes of an input comes back unchanged when it is entered again, unless the input
names an onion service in a place where only the HTTP rules look for it, or is an onion URL with
white space in front of its fragment.
-/

namespace Slate.Browser

open Foundation

section Endings

variable {text start rest : List Char}

def EndsInSpace (text : List Char) : Prop := ∃ char ∈ text.getLast?, Text.isWhitespace char

instance : Decidable (EndsInSpace text) :=
  decidable_of_iff (text.getLast?.any Text.isWhitespace = true) (Option.any_eq_true _ _)

theorem not_endsInSpace_of_unspaced (unspaced : Text.Unspaced text) : ¬EndsInSpace text := by
  rintro ⟨char, isLast, space⟩
  rw [unspaced char (List.mem_of_mem_getLast? isLast)] at space
  cases space

theorem endsInSpace_append (unspaced : Text.Unspaced start) :
    EndsInSpace (start ++ rest) ↔ EndsInSpace rest := by
  cases rest with
  | nil =>
      rw [List.append_nil]
      exact iff_of_false (not_endsInSpace_of_unspaced unspaced) (by simp [EndsInSpace])
  | cons first rest =>
      unfold EndsInSpace
      rw [List.getLast?_append_cons]

theorem trimmedEnd_eq_iff : text.rdropWhile Text.isWhitespace = text ↔ ¬EndsInSpace text := by
  rw [List.rdropWhile_eq_self_iff]
  unfold EndsInSpace
  cases text with
  | nil => simp
  | cons first rest => simp [List.getLast?_eq_some_getLast (List.cons_ne_nil first rest)]

theorem endsInSpace_requestTarget : EndsInSpace (requestTarget text) ↔ EndsInSpace text := by
  unfold requestTarget
  split
  · apply iff_of_false
    · exact not_endsInSpace_of_unspaced (by decide)
    · rintro ⟨char, ⟨⟩, -⟩
  · exact @endsInSpace_append ['/'] _ (by decide)
  · rfl

end Endings

section HttpOnion

variable {trimmed address rest host port : List Char} {scheme : String}

theorem HttpOnionUrl.isScheme (isUrl : HttpOnionUrl trimmed scheme rest host port) :
    scheme = "http" ∨ scheme = "https" := by
  have splits := isUrl.splits
  unfold splitHttpScheme at splits
  simp only at splits
  split at splits
  · exact .inl (Prod.mk.inj (Option.some.inj splits)).1.symm
  · split at splits
    · exact .inr (Prod.mk.inj (Option.some.inj splits)).1.symm
    · cases splits

/-- The scheme of a URL and the slashes behind it. -/
theorem HttpOnionUrl.exists_start (isUrl : HttpOnionUrl trimmed scheme rest host port) :
    ∃ start, trimmed = start ++ rest ∧
      Text.toAsciiLowercase start = scheme.toList ++ "://".toList := by
  have splits := isUrl.splits
  have starts (word : String) (isStart : startsWith (Text.toAsciiLowercase trimmed) word) :
      Text.toAsciiLowercase (trimmed.take word.length) = word.toList := by
    obtain ⟨behind, isLower⟩ := startsWith_iff.mp isStart
    rw [Text.toAsciiLowercase, List.map_take]
    change (Text.toAsciiLowercase trimmed).take word.length = _
    rw [← isLower, ← String.length_toList, List.take_left]
  unfold splitHttpScheme at splits
  simp only at splits
  split at splits
  · rename_i isHttp
    obtain ⟨rfl, rfl⟩ := Prod.mk.inj (Option.some.inj splits)
    exact ⟨_, (List.take_append_drop _ _).symm, starts "http://" isHttp⟩
  · split at splits
    · rename_i isHttps
      obtain ⟨rfl, rfl⟩ := Prod.mk.inj (Option.some.inj splits)
      exact ⟨_, (List.take_append_drop _ _).symm, starts "https://" isHttps⟩
    · cases splits

theorem HttpOnionUrl.authority_eq (isUrl : HttpOnionUrl trimmed scheme rest host port) :
    authorityOf rest = host ∨ authorityOf rest = host ++ ':' :: port := by
  have isParts := isUrl.hostAndPort
  cases split : Text.splitOnce [':'] (authorityOf rest) with
  | none =>
      rw [split] at isParts
      exact .inl (Prod.mk.inj isParts).1
  | some parts =>
      rw [split] at isParts
      obtain ⟨front, back⟩ := parts
      obtain ⟨rfl, rfl⟩ := Prod.mk.inj isParts
      exact .inr (Text.splitOnce_char_eq_some_iff.mp split).1

theorem HttpOnionUrl.unspaced_host (isUrl : HttpOnionUrl trimmed scheme rest host port) :
    Text.Unspaced host := by
  intro char isMember
  have allowed := isOnionHostChar_of_isOnionHost isUrl.onion isMember
  simp only [isOnionHostChar, Bool.or_eq_true, decide_eq_true_eq] at allowed
  rcases allowed with (alphanum | rfl) | rfl
  · exact Text.isWhitespace_of_alphanum alphanum
  all_goals decide

theorem HttpOnionUrl.unspaced_port (isUrl : HttpOnionUrl trimmed scheme rest host port) :
    Text.Unspaced port := by
  intro char isMember
  apply Text.isWhitespace_of_alphanum
  simp [Char.isAlphanum, List.all_eq_true.mp isUrl.digits char isMember]

theorem HttpOnionUrl.unspaced_authority (isUrl : HttpOnionUrl trimmed scheme rest host port) :
    Text.Unspaced (authorityOf rest) := by
  rcases isUrl.authority_eq with same | same
  · rw [same]
    exact isUrl.unspaced_host
  · rw [same]
    exact Text.unspaced_append.mpr
      ⟨isUrl.unspaced_host, Text.unspaced_cons.mpr ⟨by decide, isUrl.unspaced_port⟩⟩

theorem HttpOnionUrl.unspaced_torAuthority (isUrl : HttpOnionUrl trimmed scheme rest host port) :
    Text.Unspaced (torAuthority host port) := by
  refine Text.unspaced_append.mpr ⟨unspaced_onionHostText isUrl.unspaced_host, ?_⟩
  split
  · decide
  · exact Text.unspaced_cons.mpr ⟨by decide, isUrl.unspaced_port⟩

/-- What stands in front of the fragment of a URL. -/
theorem HttpOnionUrl.endsInSpace_iff (isUrl : HttpOnionUrl trimmed scheme rest host port) :
    EndsInSpace (Text.before (· = '#') trimmed) ↔ EndsInSpace (targetText rest) := by
  obtain ⟨start, rfl, isStart⟩ := isUrl.exists_start
  have unspaced : Text.Unspaced start := by
    apply Text.unspaced_of_toAsciiLowercase
    rw [isStart]
    rcases isUrl.isScheme with rfl | rfl <;> decide
  have noFragment : ∀ char ∈ start ++ authorityOf rest, char ≠ '#' := by
    rintro char isMember rfl
    rcases List.mem_append.mp isMember with inStart | inAuthority
    · have inScheme := Text.mem_toAsciiLowercase inStart rfl
      rw [isStart] at inScheme
      revert inScheme
      rcases isUrl.isScheme with rfl | rfl <;> decide
    · have stops := List.mem_takeWhile_imp inAuthority
      revert stops
      decide
  have whole : start ++ rest = (start ++ authorityOf rest) ++ Text.fromStop endsAuthority rest := by
    rw [List.append_assoc]
    exact congrArg (start ++ ·) List.takeWhile_append_dropWhile.symm
  rw [whole, Text.before, List.takeWhile_append_of_pos (by simpa using noFragment)]
  exact endsInSpace_append (Text.unspaced_append.mpr ⟨unspaced, isUrl.unspaced_authority⟩)

end HttpOnion

section Again

variable {directory later trimmed address : List Char}

/-- The bar gives an address back as it was entered. -/
def ComesBack (later address : List Char) : Prop :=
  Text.trim address ≠ [] ∧ navigationAddress later (Text.trim address) = address

theorem comesBack_iff {later : String} :
    ComesBack later.toList address ↔
      normalizeNavigationInput later (String.ofList address) = .ok (String.ofList address) := by
  unfold ComesBack normalizeNavigationInput
  rw [String.toList_ofList]
  by_cases empty : Text.trim address = []
  · simp [empty]
  · simp [empty, String.ofList_inj]

theorem ne_nil_of_supported (supported : hasSupportedScheme (Text.toAsciiLowercase address)) :
    address ≠ [] := by
  rintro rfl
  revert supported
  decide

theorem Settled.comesBack (settled : Settled address) : ComesBack later address := by
  refine ⟨?_, navigationAddress_of_settled settled⟩
  rw [settled.isTrimmed]
  exact ne_nil_of_supported settled.supported

/-- An onion URL with white space in front of its fragment. -/
structure SpaceBeforeFragment (trimmed : List Char) : Prop where
  onionUrl : (normalizeHttpOnionUrl trimmed).isSome
  space : EndsInSpace (Text.before (· = '#') trimmed)

/-- The text of a Tor address loses the white space at its end when it is entered. -/
theorem comesBack_httpOnion_iff (made : normalizeHttpOnionUrl trimmed = some address) :
    ComesBack later address ↔ ¬SpaceBeforeFragment trimmed := by
  obtain ⟨scheme, rest, host, port, isUrl, isAddress⟩ := exists_httpOnionUrl made
  have isScheme : ∃ tor : String, Text.Unspaced tor.toList ∧ tor.toList.head? = some 't' ∧
      hasSupportedScheme (Text.toAsciiLowercase tor.toList) ∧
      "tor+".toList ++ scheme.toList ++ "://".toList = tor.toList := by
    rcases isUrl.isScheme with rfl | rfl
    · exact ⟨"tor+http://", by decide⟩
    · exact ⟨"tor+https://", by decide⟩
  obtain ⟨tor, unspaced, isFirst, supported, isTor⟩ := isScheme
  rw [isTor, List.append_assoc] at isAddress
  have torAddress (behind : List Char) (isTrimmed : Text.trim (tor.toList ++ behind) =
      tor.toList ++ behind) : Settled (tor.toList ++ behind) :=
    settled_of_notHttp isTrimmed (httpHost_append_of_head 't' isFirst (by decide))
      (hasSupportedScheme_of_scheme supported behind)
  have nonempty : tor.toList ≠ [] := by
    intro empty
    rw [empty] at isFirst
    cases isFirst
  have spaced_iff : EndsInSpace address ↔ EndsInSpace (Text.before (· = '#') trimmed) := by
    rw [isAddress, endsInSpace_append unspaced, endsInSpace_append isUrl.unspaced_torAuthority,
      endsInSpace_requestTarget, isUrl.endsInSpace_iff]
  have isTrimmed_iff : Text.trim address = address ↔ ¬EndsInSpace address := by
    rw [isAddress, Text.trim_append_of_unspaced unspaced nonempty, List.append_cancel_left_eq,
      trimmedEnd_eq_iff, endsInSpace_append unspaced]
  constructor
  · intro comesBack spaceBefore
    apply isTrimmed_iff.mp _ (spaced_iff.mpr spaceBefore.space)
    -- The trimmed text is a Tor address of its own, and the bar leaves it as it is.
    have trimmedAddress : Text.trim address = tor.toList ++
        (torAuthority host port ++ requestTarget (targetText rest)).rdropWhile
          Text.isWhitespace := by
      rw [isAddress, Text.trim_append_of_unspaced unspaced nonempty]
    have settled := torAddress _ (by rw [← trimmedAddress, Text.trim_trim])
    rw [← trimmedAddress] at settled
    have same := @navigationAddress_of_settled later _ settled
    rw [Text.trim_trim, comesBack.2] at same
    exact same.symm
  · intro noSpace
    have notSpaced : ¬EndsInSpace address := fun spaced =>
      noSpace ⟨by rw [made]; rfl, spaced_iff.mp spaced⟩
    have isTrimmed := isTrimmed_iff.mpr notSpaced
    rw [isAddress] at isTrimmed ⊢
    exact (torAddress _ isTrimmed).comesBack

/-- An input that is taken for a plain host although an onion name stands in it. -/
structure OnionTextInHost (trimmed : List Char) : Prop where
  noWhitespace : ¬trimmed.any Text.isWhitespace
  noSlashes : ¬Text.contains (Text.toAsciiLowercase trimmed) "://".toList
  notMagnet : ¬startsWith (Text.toAsciiLowercase trimmed) "magnet:"
  notPage : ¬looksLikeLocalHtmlPath (Text.toAsciiLowercase trimmed)
  notIpfsPath : normalizeIpfsPathAddress trimmed = none
  notOnionName : normalizeOnionAddress trimmed = none
  onionText : Text.contains (Text.toAsciiLowercase trimmed) ".onion".toList

theorem dot_mem_of_onionText
    (onionText : Text.contains (Text.toAsciiLowercase trimmed) ".onion".toList) :
    '.' ∈ trimmed := by
  have dot : '.' ∈ ".onion".toList := by decide
  obtain ⟨char, isMember, same⟩ := List.mem_map.mp ((Text.contains_iff.mp onionText).subset dot)
  rwa [← Text.eq_of_toLower_eq same (by decide)]

theorem OnionTextInHost.navigationAddress_eq (inHost : OnionTextInHost trimmed) :
    ∃ scheme : String, (scheme = "http://" ∨ scheme = "https://") ∧
      navigationAddress directory trimmed = scheme.toList ++ trimmed := by
  have dot := dot_mem_of_onionText inHost.onionText
  have noHint : isHttpUrlWithOnionHint (Text.toAsciiLowercase trimmed) = false := by
    rw [isHttpUrlWithOnionHint, Bool.and_eq_false_iff]
    left
    rw [← Bool.not_eq_true, Bool.or_eq_true]
    rintro (starts | starts) <;>
      exact inHost.noSlashes (contains_slashes_of_startsWith starts (by decide))
  have notSupported : hasSupportedScheme (Text.toAsciiLowercase trimmed) = false := by
    rw [← Bool.not_eq_true]
    exact fun supported =>
      inHost.noSlashes (contains_slashes_of_hasSupportedScheme supported inHost.notMagnet)
  have isPlainHost : looksLikeHost trimmed = true := by
    simp only [looksLikeHost, inHost.noWhitespace, List.contains_iff_mem.mpr dot]
    rfl
  unfold navigationAddress
  simp only [normalizeHttpOnionUrl_eq_none inHost.noSlashes, noHint, notSupported,
    inHost.notIpfsPath, normalizeBareIpfsCid_eq_none dot, inHost.notOnionName,
    inHost.notPage, inHost.noSlashes, isPlainHost, Bool.false_eq_true, if_false, if_true]
  split
  · exact ⟨"http://", .inl rfl, rfl⟩
  · exact ⟨"https://", .inr rfl, rfl⟩

/-- The HTTP address of a plain host is taken for an onion URL where its text says so. -/
theorem comesBack_plainHost_iff {scheme : String} (isHttp : scheme = "http://" ∨ scheme = "https://")
    (noWhitespace : ¬trimmed.any Text.isWhitespace) :
    ComesBack later (scheme.toList ++ trimmed) ↔
      ¬Text.contains (Text.toAsciiLowercase trimmed) ".onion".toList := by
  have unspaced : Text.Unspaced (scheme.toList ++ trimmed) := by
    refine Text.unspaced_append.mpr ⟨?_, Text.unspaced_iff.mpr noWhitespace⟩
    rcases isHttp with rfl | rfl <;> decide
  have isTrimmed := Text.trim_of_unspaced unspaced
  have onionText_iff : Text.contains (Text.toAsciiLowercase (scheme.toList ++ trimmed))
      ".onion".toList ↔ Text.contains (Text.toAsciiLowercase trimmed) ".onion".toList := by
    rw [Text.contains_iff, Text.contains_iff, Text.toAsciiLowercase, List.map_append]
    rcases isHttp with rfl | rfl <;> simp [List.infix_cons_iff, Text.toAsciiLowercase]
  have isHttpText : (startsWith (Text.toAsciiLowercase (scheme.toList ++ trimmed)) "http://" ||
      startsWith (Text.toAsciiLowercase (scheme.toList ++ trimmed)) "https://") = true := by
    rw [Text.toAsciiLowercase, List.map_append]
    rcases isHttp with rfl | rfl <;> simp [startsWith]
  constructor
  · intro comesBack onionText
    have hint : isHttpUrlWithOnionHint (Text.toAsciiLowercase (scheme.toList ++ trimmed)) := by
      rw [isHttpUrlWithOnionHint, isHttpText, onionText_iff.mpr onionText]
      rfl
    have again := comesBack.2
    rw [isTrimmed, navigationAddress] at again
    have notHttp (made : List Char) (notHttp : httpHost made = none) :
        made ≠ scheme.toList ++ trimmed := by
      rintro rfl
      rcases isHttp with rfl | rfl
      · rw [httpHost_http] at notHttp
        cases notHttp
      · rw [httpHost_https] at notHttp
        cases notHttp
    simp only [hint, if_true] at again
    split at again
    · exact notHttp _ (httpHost_normalizeHttpOnionUrl ‹_›) again
    · exact notHttp _ httpHost_searchAddress again
  · intro noOnionText
    apply Settled.comesBack
    refine ⟨isTrimmed, ?_, ?_, ?_⟩
    · apply Option.eq_none_iff_forall_ne_some.mpr
      intro address made
      obtain ⟨scheme', rest, host, port, isUrl, -⟩ := exists_httpOnionUrl made
      have inAuthority : host <:+: authorityOf rest := by
        rcases isUrl.authority_eq with same | same
        · rw [same]
        · rw [same]
          exact (List.prefix_append _ _).isInfix
      have inAddress : host <:+: scheme.toList ++ trimmed :=
        (inAuthority.trans Text.before_isPrefix.isInfix).trans
          (splitHttpScheme_isSuffix isUrl.splits).isInfix
      exact noOnionText (onionText_iff.mp (Text.contains_iff.mpr
        (onion_infix_of_isInfix isUrl.onion inAddress)))
    · rw [isHttpUrlWithOnionHint, Bool.and_eq_false_iff]
      right
      rw [← Bool.not_eq_true, onionText_iff]
      exact noOnionText
    · simp only [Bool.or_eq_true] at isHttpText
      simp only [hasSupportedScheme, Bool.or_eq_true]
      rcases isHttpText with isHttp | isHttps
      · simp [isHttp]
      · simp [isHttps]

/-- The inputs whose address is not left as it is. -/
def IsReread (trimmed : List Char) : Prop := OnionTextInHost trimmed ∨ SpaceBeforeFragment trimmed

theorem comesBack_navigationAddress_iff (isTrimmed : Text.trim trimmed = trimmed) :
    ComesBack later (navigationAddress directory trimmed) ↔ ¬IsReread trimmed := by
  constructor
  · intro comesBack reread
    cases reread with
    | inl inHost =>
        obtain ⟨scheme, isHttp, isAddress⟩ := inHost.navigationAddress_eq
        rw [isAddress] at comesBack
        exact (comesBack_plainHost_iff isHttp inHost.noWhitespace).mp comesBack inHost.onionText
    | inr spaceBefore =>
        obtain ⟨address, made⟩ := Option.isSome_iff_exists.mp spaceBefore.onionUrl
        have isAddress : navigationAddress directory trimmed = address := by
          simp [navigationAddress, made]
        rw [isAddress] at comesBack
        exact (comesBack_httpOnion_iff made).mp comesBack spaceBefore
  · intro notReread
    have rule := navigationAddress_rule directory trimmed
    generalize navigationAddress directory trimmed = address at rule ⊢
    cases rule with
    | httpOnion made =>
        exact (comesBack_httpOnion_iff made).mpr fun spaceBefore => notReread (.inr spaceBefore)
    | search => exact settled_searchAddress.comesBack
    | supported notHttpOnion noHint supported =>
        exact Settled.comesBack ⟨isTrimmed, notHttpOnion, noHint, supported⟩
    | ipfsPath made => exact (settled_ipfsPath made).comesBack
    | ipfsCid made => exact (settled_ipfsCid made).comesBack
    | onionName made => exact (settled_onionName made).comesBack
    | localFile => exact settled_localFileAddress.comesBack
    | plainHost isHttp noWhitespace notSupported notIpfsPath notOnionName notPage noSlashes =>
        apply (comesBack_plainHost_iff isHttp noWhitespace).mpr
        intro onionText
        apply notReread
        left
        exact {
          noWhitespace
          noSlashes
          notMagnet := fun starts => notSupported (startsWith_magnet_supported starts)
          notPage
          notIpfsPath
          notOnionName
          onionText }

end Again

/-- What the bar makes of an input it makes of itself again, in any directory. -/
def IsIdempotentAt (currentDirectory input : String) : Prop :=
  ∀ address, normalizeNavigationInput currentDirectory input = .ok address →
    ∀ later, normalizeNavigationInput later address = .ok address

/-- Entered again, an address changes exactly where an onion name stands in a plain host, or
white space in front of the fragment of an onion URL. -/
theorem normalizeNavigationInput_idempotent_iff (currentDirectory input : String) :
    IsIdempotentAt currentDirectory input ↔ ¬IsReread (Text.trim input.toList) := by
  have isTrimmed := Text.trim_trim input.toList
  unfold IsIdempotentAt
  by_cases empty : Text.trim input.toList = []
  · have refused : normalizeNavigationInput currentDirectory input = .error .empty := by
      simp [normalizeNavigationInput, empty]
    have notReread : ¬IsReread ([] : List Char) := by
      rintro (inHost | spaceBefore)
      · exact absurd inHost.onionText (by decide)
      · exact absurd spaceBefore.onionUrl (by decide)
    simp [refused, empty, notReread]
  · have isAddress : normalizeNavigationInput currentDirectory input = .ok (String.ofList
        (navigationAddress currentDirectory.toList (Text.trim input.toList))) := by
      simp [normalizeNavigationInput, empty]
    constructor
    · intro idempotent
      apply (comesBack_navigationAddress_iff isTrimmed).mp
      exact comesBack_iff.mpr (idempotent _ isAddress currentDirectory)
    · intro notReread address isMade later
      rw [isAddress] at isMade
      obtain rfl := Except.ok.inj isMade
      exact comesBack_iff.mp ((comesBack_navigationAddress_iff isTrimmed).mpr notReread)

/-- The HTTPS address of an onion name with a port is searched for when it is entered again. -/
theorem onion_name_with_port_changes_again :
    ¬∀ currentDirectory input : String, IsIdempotentAt currentDirectory input := by
  intro idempotent
  have same := idempotent "/" "example.onion:8080" "https://example.onion:8080" (by decide +kernel)
    "/"
  revert same
  decide +kernel

end Slate.Browser
