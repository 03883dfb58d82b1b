import Slate.Foundation.UrlTargets
import Slate.Browser.EnteredAgain
import Slate.Broadwebd.TorNormalForm

/-!
# The text of an onion URL

The address bar cuts the text of an HTTP URL with an onion host into pieces. The URL library cleans
the text and parses it: what it finds are the scheme and the authority of these pieces, and the
path and the query in what is left of the text behind them.
-/

namespace Slate.Broadwebd.Tor

open Foundation

section Start

variable {front rest start name : List Char} {parts : List Char × List Char} {scheme : String}
  {char : Char}

/-- White space in front of a text that has a scheme is cleaned away. -/
theorem cleaned_of_scheme (spaced : ∀ char ∈ front, Text.isWhitespace char = true)
    (isSplit : UrlStandard.splitScheme (UrlStandard.cleaned (front ++ rest)) = some parts) :
    UrlStandard.cleaned (front ++ rest) = UrlStandard.cleaned rest := by
  by_cases areEdges : ∀ char ∈ front, UrlStandard.isEdge char = true
  · unfold UrlStandard.cleaned
    rw [List.dropWhile_append_of_pos areEdges]
  · exfalso
    have split := @List.takeWhile_append_dropWhile _ UrlStandard.isEdge front
    have visible := List.head?_dropWhile_not UrlStandard.isEdge front
    cases isRest : front.dropWhile UrlStandard.isEdge with
    | nil => exact areEdges (List.dropWhile_eq_nil_iff.mp isRest)
    | cons first others =>
        rw [isRest] at split visible
        have firstVisible : UrlStandard.isEdge first = false := by simpa using visible
        have noStart : UrlStandard.startCleaned (front.takeWhile UrlStandard.isEdge) = [] := by
          unfold UrlStandard.startCleaned
          rw [List.dropWhile_eq_nil_iff.mpr fun char => List.mem_takeWhile_imp, List.filter_nil]
        have isText : front ++ rest = front.takeWhile UrlStandard.isEdge ++
            ([first] ++ (others ++ rest)) := by
          conv_lhs => rw [← split]
          simp only [List.append_assoc, List.cons_append, List.nil_append]
        have isCleaned := @UrlStandard.cleaned_append_visible
          (front.takeWhile UrlStandard.isEdge) (others ++ rest) [first]
          (by simpa using firstVisible) (List.cons_ne_nil _ _)
        rw [← isText, noStart, List.nil_append] at isCleaned
        obtain ⟨name, isName, -, isLetter, -⟩ := UrlStandard.of_splitScheme isSplit
        rw [isCleaned] at isName
        cases name with
        | nil => simp at isLetter
        | cons letter name =>
            obtain rfl : first = letter := (List.cons.inj isName).1
            have isWhite := spaced first (by rw [← split]; simp)
            have isAlpha : first.isAlpha = true := by simpa using isLetter
            have alphanum : first.isAlphanum = true := by simp [Char.isAlphanum, isAlpha]
            rw [Text.isWhitespace_of_alphanum alphanum] at isWhite
            cases isWhite

theorem isAlpha_of_toLower (isLower : char.toLower.isLower = true) : char.isAlpha = true := by
  change (char.isUpper || char.isLower) = true
  by_cases upper : char.isUpper
  · rw [upper, Bool.true_or]
  · rw [Text.toLower_of_not_upper upper] at isLower
    rw [isLower, Bool.or_true]

/-- What an HTTP URL begins with is the name of its scheme, in any case. -/
theorem exists_name (isScheme : scheme = "http" ∨ scheme = "https")
    (isStart : Text.toAsciiLowercase start = scheme.toList ++ "://".toList) :
    ∃ name, start = name ++ "://".toList ∧ Text.toAsciiLowercase name = scheme.toList ∧
      (∀ char ∈ name, UrlStandard.isSchemeChar char = true) ∧
        name.head?.any Char.isAlpha = true := by
  obtain ⟨name, slashes, rfl, isName, areSlashes⟩ := List.map_eq_append_iff.mp isStart
  have letters : ∀ char ∈ name, char.isAlpha = true := by
    intro char isMember
    apply isAlpha_of_toLower
    have inScheme : char.toLower ∈ scheme.toList := by
      rw [← isName]
      exact List.mem_map_of_mem isMember
    have areLower : scheme.toList.all Char.isLower = true := by
      rcases isScheme with rfl | rfl <;> decide
    exact List.all_eq_true.mp areLower _ inScheme
  refine ⟨name, ?_, isName, ?_, ?_⟩
  · rw [List.append_cancel_left_eq]
    match slashes with
    | [colon, first, second] =>
        simp at areSlashes
        obtain ⟨isColon, isFirst, isSecond⟩ := areSlashes
        rw [Text.eq_of_toLower_eq isColon (by decide), Text.eq_of_toLower_eq isFirst (by decide),
          Text.eq_of_toLower_eq isSecond (by decide)]
        rfl
    | [] | [_] | [_, _] | _ :: _ :: _ :: _ :: _ => simp at areSlashes
  · intro char isMember
    simp [UrlStandard.isSchemeChar, Char.isAlphanum, letters char isMember]
  · cases name with
    | nil => rcases isScheme with rfl | rfl <;> simp at isName
    | cons first others => simpa using letters first List.mem_cons_self

end Start

section Reading

variable {trimmed rest host port back name target : List Char} {scheme : String} {char : Char}

/-- What stands behind the authority. -/
def behindAuthority (rest : List Char) : List Char := Text.fromStop Browser.endsAuthority rest

theorem rest_eq (rest : List Char) :
    rest = Browser.authorityOf rest ++ behindAuthority rest :=
  Text.before_append_fromStop.symm

theorem head_behindAuthority :
    ∀ char ∈ (behindAuthority rest).head?, char = '/' ∨ UrlStandard.isMark char = true := by
  intro char isHead
  have stops := List.head?_dropWhile_not (fun char => !Browser.endsAuthority char) rest
  have sameHead : (rest.dropWhile fun char => !Browser.endsAuthority char).head? = some char :=
    isHead
  rw [sameHead] at stops
  simp only [Bool.not_eq_false', Browser.endsAuthority, Bool.or_eq_true,
    decide_eq_true_eq] at stops
  simpa [UrlStandard.isMark, or_assoc] using stops

theorem mem_of_endsAuthority (ends : UrlStandard.endsAuthority char = true) :
    char ∈ "/\\?#".toList := by
  simpa [UrlStandard.endsAuthority, UrlStandard.isSeparator, UrlStandard.isMark, or_assoc]
    using ends

/-- A character of an authority is neither cleaned away nor ends it. -/
theorem visible_of_isHostChar (isHost : UrlStandard.isHostChar char = true ∨ char = ':') :
    UrlStandard.isEdge char = false ∧ UrlStandard.endsAuthority char = false := by
  rcases isHost with isHost | rfl
  · have visible := UrlStandard.isVisible_of_isHostChar isHost
    simp only [UrlStandard.isVisible, Bool.and_eq_true, Bool.not_eq_true'] at visible
    refine ⟨visible.1, ?_⟩
    rw [Bool.eq_false_iff]
    intro ends
    have marks := mem_of_endsAuthority ends
    have noHost : "/\\?#".toList.all fun char => !UrlStandard.isHostChar char := by decide
    have other := List.all_eq_true.mp noHost char marks
    rw [isHost] at other
    cases other
  · decide

/-- A text with a scheme and an authority is cleaned behind them only. -/
theorem cleaned_start {authority behind : List Char}
    (isName : ∀ char ∈ name, UrlStandard.isSchemeChar char = true)
    (areHost : ∀ char ∈ authority, UrlStandard.isHostChar char = true ∨ char = ':') :
    UrlStandard.cleaned (name ++ "://".toList ++ authority ++ behind) =
      name ++ ':' :: '/' :: '/' :: (authority ++ UrlStandard.endCleaned behind) := by
  have visible : ∀ char ∈ name ++ "://".toList ++ authority, UrlStandard.isEdge char = false := by
    intro char isMember
    rcases List.mem_append.mp isMember with inStart | inAuthority
    · rcases List.mem_append.mp inStart with inName | inSlashes
      · exact UrlStandard.isEdge_of_isSchemeChar (isName char inName)
      · have slashes : "://".toList.all fun char => !UrlStandard.isEdge char := by decide
        simpa using List.all_eq_true.mp slashes char inSlashes
    · exact (visible_of_isHostChar (areHost char inAuthority)).1
  rw [UrlStandard.cleaned_append visible (by simp)]
  simp only [List.append_assoc]
  rfl

variable (isUrl : Browser.HttpOnionUrl trimmed scheme rest host port)

include isUrl

/-- The authority is the host, with the port behind a colon if there is one. -/
theorem exists_portText : ∃ portText : Option (List Char),
    Browser.authorityOf rest = host ++ (portText.map (':' :: ·)).getD [] ∧
      portText.getD [] = port := by
  have isParts := isUrl.hostAndPort
  cases split : Text.splitOnce [':'] (Browser.authorityOf rest) with
  | none =>
      rw [split] at isParts
      obtain ⟨rfl, rfl⟩ := Prod.mk.inj isParts
      exact ⟨none, by simp, rfl⟩
  | some parts =>
      rw [split] at isParts
      obtain ⟨front, behind⟩ := parts
      obtain ⟨rfl, rfl⟩ := Prod.mk.inj isParts
      exact ⟨some behind, (Text.splitOnce_char_eq_some_iff.mp split).1, rfl⟩

theorem isHostChar_port : ∀ char ∈ port, UrlStandard.isHostChar char = true := by
  intro char isMember
  apply UrlStandard.isHostChar_of_alphanum
  exact Text.isAlphanum_iff.mpr (.inr (.inr (List.all_eq_true.mp isUrl.digits char isMember)))

theorem isHostChar_authority : ∀ char ∈ Browser.authorityOf rest,
    UrlStandard.isHostChar char = true ∨ char = ':' := by
  intro char isMember
  obtain ⟨portText, isAuthority, isPort⟩ := exists_portText isUrl
  rw [isAuthority] at isMember
  rcases List.mem_append.mp isMember with inHost | inPort
  · exact .inl (isHostChar_of_onion isUrl.onion char inHost)
  · cases portText with
    | none => cases inPort
    | some text =>
        rcases List.mem_cons.mp inPort with isColon | inText
        · exact .inr isColon
        · left
          apply isHostChar_port isUrl
          rwa [← isPort]

theorem isHostChar_torAuthority : ∀ char ∈ Browser.torAuthority host port,
    UrlStandard.isHostChar char = true ∨ char = ':' := by
  intro char isMember
  rcases List.mem_append.mp isMember with inHost | inPort
  · exact .inl (isHostChar_of_onion (isPlainHost_onionHostText isUrl.onion).onion char inHost)
  · split at inPort
    · cases inPort
    · rcases List.mem_cons.mp inPort with isColon | inPort
      · exact .inr isColon
      · exact .inl (isHostChar_port isUrl char inPort)

theorem torAuthority_ne_nil : Browser.torAuthority host port ≠ [] :=
  List.append_ne_nil_of_left_ne_nil
    (ne_nil_of_onion (isPlainHost_onionHostText isUrl.onion).onion) _

theorem authority_ne_nil : Browser.authorityOf rest ≠ [] := by
  obtain ⟨portText, isAuthority, -⟩ := exists_portText isUrl
  rw [isAuthority]
  exact List.append_ne_nil_of_left_ne_nil (ne_nil_of_onion isUrl.onion) _

theorem scheme_cases : ∃ networkScheme : TorNetworkScheme,
    TorNetworkScheme.fromUrlScheme scheme.toList = some networkScheme ∧
      "tor+".toList ++ scheme.toList = networkScheme.torScheme ∧
        UrlStandard.isSpecial scheme.toList = true ∧ scheme.toList ≠ "file".toList := by
  rcases isUrl.isScheme with rfl | rfl
  · exact ⟨.http, by decide⟩
  · exact ⟨.https, by decide⟩

/-- What is left of an HTTP URL of an onion host when it is cleaned. -/
theorem cleaned_trimmed (isText : trimmed = name ++ "://".toList ++ rest)
    (isName : ∀ char ∈ name, UrlStandard.isSchemeChar char = true) :
    UrlStandard.cleaned (trimmed ++ back) = name ++ ':' :: '/' :: '/' ::
      (Browser.authorityOf rest ++ UrlStandard.endCleaned (behindAuthority rest ++ back)) := by
  rw [← cleaned_start isName (isHostChar_authority isUrl), isText]
  conv_lhs => rw [rest_eq rest]
  simp only [List.append_assoc]

end Reading

section Authorities

variable {parsers : UrlStandard.Parsers} {host found tail : List Char} {char : Char}
  {portText : Option (List Char)} {port : Option Nat} {scheme torScheme : List Char}

theorem onionHostText_toAsciiLowercase :
    Browser.onionHostText (Text.toAsciiLowercase host) = Browser.onionHostText host := by
  have trimmed : Text.trimEndMatches '.' (Text.toAsciiLowercase host) =
      Text.toAsciiLowercase (Text.trimEndMatches '.' host) := by
    unfold Text.trimEndMatches Text.toAsciiLowercase
    induction host using List.reverseRecOn with
    | nil => rfl
    | append_singleton front last inductionHypothesis =>
        by_cases isDot : last = '.'
        · rw [isDot, List.map_append, List.map_singleton,
            List.rdropWhile_concat_pos _ _ _ (by decide),
            List.rdropWhile_concat_pos _ _ _ (by decide), inductionHypothesis]
        · have stays : last.toLower ≠ '.' := fun same =>
            isDot (Text.eq_of_toLower_eq same (by decide))
          rw [List.map_append, List.map_singleton,
            List.rdropWhile_concat_neg _ _ _ (by simpa using stays),
            List.rdropWhile_concat_neg _ _ _ (by simpa using isDot), List.map_append,
            List.map_singleton]
  unfold Browser.onionHostText
  rw [trimmed, Text.toAsciiLowercase, Text.toAsciiLowercase, List.map_map]
  apply List.map_congr_left
  intro char _
  exact Text.toLower_toLower

/-- An onion name is no address of digits. -/
theorem exists_letter_of_onion (onion : Browser.isOnionHost host = true) :
    ∃ char ∈ host, char.isDigit = false ∧ char ≠ '.' := by
  have isInfix := Browser.onion_infix_of_isOnionHost onion
  have isMember : 'o' ∈ Text.toAsciiLowercase host := isInfix.subset (by decide)
  obtain ⟨char, inHost, isLower⟩ := List.mem_map.mp isMember
  refine ⟨char, inHost, ?_, ?_⟩
  · rw [Bool.eq_false_iff]
    intro isDigit
    rw [Text.isDigit_iff] at isDigit
    rw [Text.toLower_of_not_upper (by rw [Text.isUpper_iff]; omega)] at isLower
    rw [isLower] at isDigit
    revert isDigit
    decide
  · rintro rfl
    revert isLower
    decide

/-- The host of an HTTP URL is the onion name in lower case. -/
theorem host_of_parseHost (onion : Browser.isOnionHost host = true)
    (isHost : UrlStandard.parseHost parsers true host = some found)
    (foundOnion : Browser.isOnionHost found = true) : found = Text.toAsciiLowercase host := by
  unfold UrlStandard.parseHost UrlStandard.parseDomain at isHost
  rw [if_neg (no_bracket_of_onion onion), if_pos rfl] at isHost
  obtain ⟨domain, isDomain, isHost⟩ := Option.bind_eq_some_iff.mp isHost
  split at isHost
  · cases isHost
  · split at isHost
    · obtain ⟨address, -, rfl⟩ := Option.map_eq_some_iff.mp isHost
      obtain ⟨char, isMember, noDigit, noDot⟩ := exists_letter_of_onion foundOnion
      have isOctet {value : Nat} (isMember : char ∈ Nat.toDigits 10 value) : False := by
        rw [Json.isDigit_of_mem_toDigits value char isMember] at noDigit
        cases noDigit
      simp only [UrlStandard.writeIpv4, List.cons_append, List.append_assoc, List.mem_append,
        List.mem_cons] at isMember
      rcases isMember with inOctet | isDot | inOctet | isDot | inOctet | isDot | inOctet
      · exact (isOctet inOctet).elim
      · exact absurd isDot noDot
      · exact (isOctet inOctet).elim
      · exact absurd isDot noDot
      · exact (isOctet inOctet).elim
      · exact absurd isDot noDot
      · exact (isOctet inOctet).elim
    · obtain rfl := Option.some.inj isHost
      have unescaped : UrlStandard.Unescaped host := by
        intro high low _ _ isInfix
        have isOnion := Browser.isOnionHostChar_of_isOnionHost onion
          (isInfix.subset List.mem_cons_self)
        revert isOnion
        decide
      have isText : UrlStandard.percentDecode (host.flatMap String.utf8EncodeChar) =
          host.flatMap String.utf8EncodeChar := UrlStandard.decoded_eq_iff.mpr unescaped
      rw [isText] at isDomain
      apply parsers.ascii_plain host domain _ isDomain
      intro char isMember
      have isOnion := Browser.isOnionHostChar_of_isOnionHost onion isMember
      simpa [Browser.isOnionHostChar, or_assoc] using isOnion

/-- A port that is the default of its scheme, and one that is not given, are the same port. -/
theorem parsePort_alike {digits : List Char} (ordinary : UrlStandard.isSpecial torScheme = false)
    (areDigits : digits.all Char.isDigit = true)
    (isPort : UrlStandard.parsePort scheme portText = some port)
    (isText : portText.getD [] = digits) :
    ∃ other, UrlStandard.parsePort torScheme (if digits = [] then none else some digits) =
      some other ∧ ∀ default, UrlStandard.defaultPort scheme = some default →
        port.getD default = other.getD default := by
  cases digits with
  | nil =>
      rw [if_pos rfl]
      refine ⟨none, rfl, fun default _ => ?_⟩
      have isNone : port = none := by
        cases portText with
        | none => exact (Option.some.inj isPort).symm
        | some text =>
            obtain rfl : text = [] := isText
            exact (Option.some.inj isPort).symm
      rw [isNone]
  | cons first others =>
      have isPortText : portText = some (first :: others) := by
        cases portText with
        | none => cases isText
        | some text => rw [← isText, Option.getD_some]
      rw [if_neg (List.cons_ne_nil _ _)]
      rw [isPortText] at isPort
      unfold UrlStandard.parsePort at isPort ⊢
      dsimp only at isPort ⊢
      rw [if_pos areDigits] at isPort ⊢
      split at isPort
      · cases isPort
      · rename_i small
        rw [if_neg small, UrlStandard.defaultPort_of_ordinary ordinary, if_neg (by simp)]
        refine ⟨_, rfl, fun default isDefault => ?_⟩
        split at isPort
        · rename_i same
          rw [isDefault] at same
          rw [← Option.some.inj isPort, Option.getD_none, Option.getD_some]
          exact Option.some.inj same
        · rw [← Option.some.inj isPort, Option.getD_some]

theorem isTrimmed_bounds (trimmed : UrlStandard.isTrimmed char = true) :
    char.toNat ≤ 0x20 ∨ 0x80 ≤ char.toNat := by
  simp only [UrlStandard.isTrimmed, UrlStandard.isEdge, Text.isWhitespace, Bool.or_eq_true,
    Bool.and_eq_true, decide_eq_true_eq] at trimmed
  omega

theorem large_of_visible (trimmed : UrlStandard.isTrimmed char = true)
    (visible : UrlStandard.isEdge char = false) : 0x80 ≤ char.toNat := by
  have bounds := isTrimmed_bounds trimmed
  simp only [UrlStandard.isEdge, decide_eq_false_iff_not] at visible
  omega

theorem not_digit_of_isTrimmed (trimmed : UrlStandard.isTrimmed char = true) :
    char.isDigit = false := by
  have bounds := isTrimmed_bounds trimmed
  rw [Bool.eq_false_iff, Ne, Text.isDigit_iff]
  omega

theorem ne_mark_of_isTrimmed (trimmed : UrlStandard.isTrimmed char = true) :
    UrlStandard.isHostMark char = false ∧ UrlStandard.endsAuthority char = false := by
  have bounds := isTrimmed_bounds trimmed
  have marks : "@:[]/\\?#".toList.all fun mark =>
      decide (0x20 < mark.toNat) && decide (mark.toNat < 0x80) := by decide
  have other (isMark : char ∈ "@:[]/\\?#".toList) : False := by
    have within := List.all_eq_true.mp marks char isMark
    rw [Bool.and_eq_true, decide_eq_true_iff, decide_eq_true_iff] at within
    omega
  constructor
  · rw [Bool.eq_false_iff]
    intro isMark
    have hostMarks : "@:[]".toList ⊆ "@:[]/\\?#".toList := by decide
    exact other (hostMarks (List.contains_iff_mem.mp isMark))
  · rw [Bool.eq_false_iff]
    intro ends
    have endMarks : "/\\?#".toList ⊆ "@:[]/\\?#".toList := by decide
    exact other (endMarks (mem_of_endsAuthority ends))

/-- White space beyond ASCII behind an onion host or its port makes the authority none. -/
theorem parseAuthority_append_trimmed (special : UrlStandard.isSpecial scheme = true)
    (onion : Browser.isOnionHost host = true) (areDigits : ∀ text ∈ portText, text.all Char.isDigit)
    (trimmed : ∀ char ∈ tail, UrlStandard.isTrimmed char = true)
    (isMember : char ∈ tail) (space : Text.isWhitespace char = true)
    (visible : UrlStandard.isEdge char = false) :
    UrlStandard.parseAuthority parsers scheme
      (host ++ (portText.map (':' :: ·)).getD [] ++ tail) = none := by
  have noMark : ∀ char ∈ host, UrlStandard.isHostMark char = false := fun char isMember =>
    UrlStandard.not_hostMark_of_isHostChar (isHostChar_of_onion onion char isMember)
  have tailMark : ∀ char ∈ tail, UrlStandard.isHostMark char = false := fun char isMember =>
    (ne_mark_of_isTrimmed (trimmed char isMember)).1
  have noBracket : (host ++ tail).head? ≠ some '[' := by
    rw [List.head?_append_of_ne_nil _ (ne_nil_of_onion onion)]
    exact no_bracket_of_onion onion
  cases portText with
  | none =>
      have noDomain : UrlStandard.parseHost parsers true (host ++ tail) = none := by
        unfold UrlStandard.parseHost UrlStandard.parseDomain
        rw [if_neg noBracket, if_pos rfl, parsers.ascii_unspaced _ char
          (List.mem_append_right host isMember) space (large_of_visible (trimmed char isMember)
            visible)]
        rfl
      have whole := @UrlStandard.parseAuthority_append parsers scheme (host ++ tail) none
        (List.append_ne_nil_of_left_ne_nil (ne_nil_of_onion onion) tail)
        (by simpa [or_imp, forall_and] using ⟨noMark, tailMark⟩) (by simp)
      rw [special, noDomain, Option.map_none, Option.getD_none, List.append_nil] at whole
      simpa using whole
  | some text =>
      have noPort : UrlStandard.parsePort scheme (some (text ++ tail)) = none := by
        obtain ⟨first, others, isText⟩ := List.exists_cons_of_ne_nil
          (List.append_ne_nil_of_right_ne_nil text (List.ne_nil_of_mem isMember))
        have noDigits : ¬(text ++ tail).all Char.isDigit = true := by
          intro areDigits
          have isDigit := List.all_eq_true.mp areDigits char (List.mem_append_right text isMember)
          rw [not_digit_of_isTrimmed (trimmed char isMember)] at isDigit
          cases isDigit
        rw [isText] at noDigits ⊢
        unfold UrlStandard.parsePort
        dsimp only
        rw [if_neg noDigits]
      have noSign : '@' ∉ text ++ tail := by
        rw [List.mem_append, not_or]
        constructor
        · intro inText
          have isDigit := List.all_eq_true.mp (areDigits text rfl) '@' inText
          revert isDigit
          decide
        · intro inTail
          have isMark := tailMark '@' inTail
          revert isMark
          decide
      have whole := @UrlStandard.parseAuthority_append parsers scheme host (some (text ++ tail))
        (ne_nil_of_onion onion) noMark (by simpa using noSign)
      rw [noPort] at whole
      simp only [Option.map_some, Option.getD_some, Option.map_none] at whole ⊢
      rw [List.append_assoc, List.cons_append, whole]
      cases UrlStandard.parseHost parsers (UrlStandard.isSpecial scheme) host <;> rfl

end Authorities

section Entered

variable {parsers : UrlStandard.Parsers} {trimmed rest host port front back input : List Char}
  {scheme : String} {url : UrlStandard.Url}

/-- What is left of the text behind the authority of an input. -/
def cleanedBehind (rest back : List Char) : List Char :=
  UrlStandard.endCleaned (behindAuthority rest ++ back)

/-- What follows an authority stays in front, cleaned or not. -/
theorem head_endCleaned {behind : List Char}
    (ends : ∀ char ∈ (behind : List Char).head?, char = '/' ∨ UrlStandard.isMark char = true)
    (nonempty : behind ≠ []) (back : List Char) :
    ∃ first others, behind = first :: others ∧ UrlStandard.endCleaned (behind ++ back) =
      first :: UrlStandard.endCleaned (others ++ back) := by
  obtain ⟨first, others, rfl⟩ := List.exists_cons_of_ne_nil nonempty
  refine ⟨first, others, rfl, ?_⟩
  rw [List.cons_append, UrlStandard.endCleaned_cons]
  rcases ends first rfl with rfl | isMark
  · decide
  · simp only [UrlStandard.isMark, Bool.or_eq_true, decide_eq_true_eq] at isMark
    rcases isMark with rfl | rfl <;> decide

theorem head_cleanedBehind
    (nothingBehind : behindAuthority rest = [] → cleanedBehind rest back = []) :
    ∀ char ∈ (cleanedBehind rest back).head?, char = '/' ∨ UrlStandard.isMark char = true := by
  intro char isHead
  by_cases nothing : behindAuthority rest = []
  · rw [nothingBehind nothing] at isHead
    cases isHead
  · obtain ⟨first, others, isBehind, isCleaned⟩ :=
      head_endCleaned (@head_behindAuthority rest) nothing back
    rw [cleanedBehind, isCleaned] at isHead
    obtain rfl := Option.some.inj isHead
    apply @head_behindAuthority rest
    rw [isBehind]
    rfl

variable (isUrl : Browser.HttpOnionUrl trimmed scheme rest host port)

include isUrl

theorem passes_authority :
    ∀ char ∈ Browser.authorityOf rest, UrlStandard.endsAuthority char = false :=
  fun char isMember => (visible_of_isHostChar (isHostChar_authority isUrl char isMember)).2

section Parsed

variable (isInput : input = front ++ (trimmed ++ back))
  (frontSpaced : ∀ char ∈ front, Text.isWhitespace char = true)
  (parsed : UrlStandard.parse parsers input = some url)

include isInput frontSpaced parsed

/-- An input begins with its scheme and its authority, but for what is cleaned away. -/
theorem exists_cleaned : ∃ name, UrlStandard.cleaned input = name ++ ':' :: '/' :: '/' ::
      (Browser.authorityOf rest ++ cleanedBehind rest back) ∧
    Text.toAsciiLowercase name = scheme.toList ∧
      (∀ char ∈ name, UrlStandard.isSchemeChar char = true) ∧
        name.head?.any Char.isAlpha = true := by
  obtain ⟨start, isTrimmed, isStart⟩ := isUrl.exists_start
  obtain ⟨name, rfl, isName, areNames, isLetter⟩ := exists_name isUrl.isScheme isStart
  obtain ⟨parts, isSplit, -⟩ := Option.bind_eq_some_iff.mp parsed
  refine ⟨name, ?_, isName, areNames, isLetter⟩
  rw [isInput] at isSplit ⊢
  rw [cleaned_of_scheme frontSpaced isSplit]
  exact cleaned_trimmed isUrl isTrimmed areNames

/-- White space that is not cleaned away stands behind no authority that is read. -/
theorem cleanedBehind_eq_nil (backSpaced : ∀ char ∈ back, Text.isWhitespace char = true)
    (nothing : behindAuthority rest = []) : cleanedBehind rest back = [] := by
  obtain ⟨name, isClean, isName, areNames, isLetter⟩ :=
    exists_cleaned isUrl isInput frontSpaced parsed
  obtain ⟨networkScheme, -, -, special, noFile⟩ := scheme_cases isUrl
  by_contra something
  rw [cleanedBehind, nothing, List.nil_append] at something isClean
  have hasOther : ¬∀ char ∈ back, UrlStandard.isEdge char = true := by
    intro areEdges
    apply something
    exact @UrlStandard.endCleaned_append_edges [] back areEdges
  push Not at hasOther
  obtain ⟨char, inBack, visible⟩ := hasOther
  rw [Ne, Bool.not_eq_true] at visible
  have trimmedChars : ∀ char ∈ UrlStandard.endCleaned back, UrlStandard.isTrimmed char = true := by
    intro char isMember
    have inBack := (List.rdropWhile_prefix _ _).subset (List.mem_of_mem_filter isMember)
    rw [UrlStandard.isTrimmed, backSpaced char inBack, Bool.or_true]
  have stays : char ∈ UrlStandard.endCleaned back := by
    obtain ⟨before, after, rfl⟩ := List.append_of_mem inBack
    rw [UrlStandard.endCleaned_append_cons visible]
    simp
  obtain ⟨portText, isAuthority, isPort⟩ := exists_portText isUrl
  have areDigits : ∀ text ∈ portText, text.all Char.isDigit = true := by
    intro text isText
    rw [isText, Option.getD_some] at isPort
    rw [isPort]
    exact isUrl.digits
  have noAuthority := @parseAuthority_append_trimmed parsers _ _ _ _ _ special isUrl.onion
    areDigits trimmedChars stays (backSpaced char inBack) visible
  have passes : ∀ char ∈ Browser.authorityOf rest ++ UrlStandard.endCleaned back,
      UrlStandard.endsAuthority char = false := by
    intro char isMember
    rcases List.mem_append.mp isMember with inAuthority | inTail
    · exact passes_authority isUrl char inAuthority
    · exact (ne_mark_of_isTrimmed (trimmedChars char inTail)).2
  have isParsed := @UrlStandard.parse_of_cleaned parsers input name
    (Browser.authorityOf rest ++ UrlStandard.endCleaned back) [] (by simpa using isClean)
    areNames isLetter (by rwa [isName]) passes (List.append_ne_nil_of_left_ne_nil
      (authority_ne_nil isUrl) _) (by simp)
  rw [isName, parsed, isAuthority, noAuthority] at isParsed
  cases isParsed

/-- What the text of an input is read as, part by part. -/
theorem parse_entered (backSpaced : ∀ char ∈ back, Text.isWhitespace char = true) :
    UrlStandard.splitScheme (UrlStandard.cleaned input) = some (scheme.toList,
        '/' :: '/' :: (Browser.authorityOf rest ++ cleanedBehind rest back)) ∧
      ∃ authority, UrlStandard.parseAuthority parsers scheme.toList
          (Browser.authorityOf rest) = some authority ∧
        url = UrlStandard.withAuthority scheme.toList
          ((UrlStandard.splitTarget (cleanedBehind rest back)).2.map
            (UrlStandard.encode UrlStandard.inSpecialQuerySet))
          ((UrlStandard.splitMark '#' (cleanedBehind rest back)).2.map
            (UrlStandard.encode UrlStandard.inFragmentSet))
          (authority, .segments (UrlStandard.parsePath true
            (UrlStandard.splitTarget (cleanedBehind rest back)).1)) := by
  obtain ⟨name, isClean, isName, areNames, isLetter⟩ :=
    exists_cleaned isUrl isInput frontSpaced parsed
  obtain ⟨networkScheme, -, -, special, noFile⟩ := scheme_cases isUrl
  have nothingBehind := cleanedBehind_eq_nil isUrl isInput frontSpaced parsed backSpaced
  have isParsed := @UrlStandard.parse_of_cleaned parsers _ _ _ _ isClean areNames isLetter
    (by rwa [isName]) (passes_authority isUrl) (authority_ne_nil isUrl)
    (head_cleanedBehind nothingBehind)
  rw [isName, parsed, special] at isParsed
  constructor
  · rw [isClean, UrlStandard.splitScheme_append areNames isLetter, isName]
  · obtain ⟨authority, isAuthority, isFound⟩ := Option.map_eq_some_iff.mp isParsed.symm
    exact ⟨authority, isAuthority, isFound.symm⟩

end Parsed

end Entered

end Slate.Broadwebd.Tor
