import Slate.Foundation.Json
import Slate.Foundation.PercentCoding

/-!
# URLs that are read from what is written of them

Every text that was encoded stands as it is when it is encoded again. A URL with an authority,
of a scheme that is not special, is the one its own text is parsed to.
-/

namespace Slate.Foundation.UrlStandard

section Sets

variable {inSet : Char → Bool} {text : List Char} {char : Char}

theorem spares_inQuerySet : SparesEscapes inQuerySet := by
  constructor
  · decide
  · intro char isDigit
    have outside := spares_inPathSet.2 char isDigit
    rw [inPathSet, Bool.or_eq_false_iff] at outside
    exact outside.1

theorem spares_inSpecialQuerySet : SparesEscapes inSpecialQuerySet := by
  constructor
  · decide
  · intro char isDigit
    rw [inSpecialQuerySet, spares_inQuerySet.2 char isDigit, Bool.false_or,
      decide_eq_false_iff_not]
    rintro rfl
    revert isDigit
    decide

theorem spares_inUserinfoSet : SparesEscapes inUserinfoSet := by
  constructor
  · decide
  · intro char isDigit
    rw [inUserinfoSet, spares_inPathSet.2 char isDigit, Bool.false_or]
    by_contra isMark
    rw [Bool.not_eq_false, List.contains_iff_mem] at isMark
    have noDigit : "/:;=@[\\]|".toList.all fun mark => !isHexDigit mark := by decide
    have other := List.all_eq_true.mp noDigit char isMark
    rw [isDigit] at other
    cases other

theorem isHexDigit_hexDigit {digit : Nat} (small : digit < 16) :
    isHexDigit (Text.hexDigit digit) = true := by
  revert digit
  decide

theorem not_inSet_of_mem_percentEncodeByte {byte : UInt8} (spares : SparesEscapes inSet)
    (isMember : char ∈ Text.percentEncodeByte byte) : inSet char = false := by
  have small := byte.toNat_lt
  simp only [Text.percentEncodeByte, List.mem_cons, List.not_mem_nil, or_false] at isMember
  rcases isMember with rfl | rfl | rfl
  · exact spares.1
  · exact spares.2 _ (isHexDigit_hexDigit (by omega))
  · exact spares.2 _ (isHexDigit_hexDigit (by omega))

/-- What was encoded has nothing left to encode. -/
theorem not_inSet_of_mem_encode (spares : SparesEscapes inSet) (isMember : char ∈ encode inSet text) :
    inSet char = false := by
  obtain ⟨original, -, isWritten⟩ := List.mem_flatMap.mp isMember
  unfold percentEncode at isWritten
  split at isWritten
  · obtain ⟨byte, -, isWritten⟩ := List.mem_flatMap.mp isWritten
    exact not_inSet_of_mem_percentEncodeByte spares isWritten
  · rename_i outside
    rw [List.mem_singleton.mp isWritten]
    simpa using outside

/-- A text without characters to encode is written as it is. -/
theorem encode_of_outside (outside : ∀ char ∈ text, inSet char = false) :
    encode inSet text = text := by
  induction text with
  | nil => rfl
  | cons first rest inductionHypothesis =>
      obtain ⟨firstOutside, restOutside⟩ := List.forall_mem_cons.mp outside
      rw [encode_cons, percentEncode, firstOutside, if_neg Bool.false_ne_true,
        inductionHypothesis restOutside, List.singleton_append]

end Sets

section Authorities

variable {parsers : Parsers} {scheme host rest text : List Char} {port : Nat} {char : Char}

/-- A character that a host, as it is, may consist of. -/
def isHostChar (char : Char) : Bool := !isForbiddenHostChar char && !inC0ControlSet char

theorem not_forbidden_of_alphanum (alphanum : char.isAlphanum = true) :
    isForbiddenHostChar char = false := by
  have forbidden : ("\x00\t\n\r #/:<>?@[\\]^|".toList.all fun char => !char.isAlphanum) =
      true := by decide
  rw [Bool.eq_false_iff]
  intro isForbidden
  have isListed : char ∈ "\x00\t\n\r #/:<>?@[\\]^|".toList := by
    simpa [isForbiddenHostChar, isTabOrNewline, or_assoc] using isForbidden
  have other := List.all_eq_true.mp forbidden char isListed
  rw [alphanum] at other
  cases other

theorem isHostChar_of_alphanum (alphanum : char.isAlphanum = true) : isHostChar char = true := by
  have outside := not_inPathSet_of_alphanum alphanum
  rw [inPathSet, inQuerySet, Bool.or_assoc, Bool.or_eq_false_iff] at outside
  rw [isHostChar, not_forbidden_of_alphanum alphanum, outside.1]
  rfl

theorem defaultPort_of_ordinary (ordinary : isSpecial scheme = false) :
    defaultPort scheme = none := by
  unfold defaultPort
  rw [if_neg, if_neg, if_neg]
  · rintro rfl
    revert ordinary
    decide
  · rintro (rfl | rfl) <;>
    · revert ordinary
      decide
  · rintro (rfl | rfl) <;>
    · revert ordinary
      decide

theorem notMem_of_isHostChar (areHost : ∀ char ∈ host, isHostChar char = true)
    (other : isHostChar char = false) : char ∉ host := by
  intro isMember
  rw [areHost char isMember] at other
  cases other

/-- A character that a host has only in brackets, or in front of which it ends. -/
def isHostMark (char : Char) : Bool := "@:[]".toList.contains char

theorem not_hostMark_of_isHostChar (isHost : isHostChar char = true) : isHostMark char = false := by
  rw [Bool.eq_false_iff]
  intro isMark
  have marks : "@:[]".toList.all fun char => !isHostChar char := by decide
  have other := List.all_eq_true.mp marks char (List.contains_iff_mem.mp isMark)
  rw [isHost] at other
  cases other

theorem splitPort_append (noMark : ∀ char ∈ host, isHostMark char = false) :
    splitPort false (host ++ rest) = (host ++ (splitPort false rest).1, (splitPort false rest).2) := by
  induction host with
  | nil => rfl
  | cons first host inductionHypothesis =>
      obtain ⟨firstHost, others⟩ := List.forall_mem_cons.mp noMark
      have noColon : first ≠ ':' := by
        rintro rfl
        revert firstHost
        decide
      have noOpening : first ≠ '[' := by
        rintro rfl
        revert firstHost
        decide
      rw [List.cons_append, splitPort, if_neg (by simp [noColon]), if_neg noOpening, ite_self,
        inductionHypothesis others]
      rfl

/-- A host without brackets and a port are parsed on their own. -/
theorem parseAuthority_append {portText : Option (List Char)} (nonempty : host ≠ [])
    (noMark : ∀ char ∈ host, isHostMark char = false) (noSign : ∀ text ∈ portText, '@' ∉ text) :
    parseAuthority parsers scheme (host ++ (portText.map (':' :: ·)).getD []) =
      (parseHost parsers (isSpecial scheme) host).bind fun found =>
        (parsePort scheme portText).map fun port => ⟨[], [], found, port⟩ := by
  have hostNoSign : '@' ∉ host := by
    intro isMember
    have noMark := noMark '@' isMember
    revert noMark
    decide
  have absent : '@' ∉ host ++ (portText.map (':' :: ·)).getD [] := by
    rw [List.mem_append, not_or]
    refine ⟨hostNoSign, ?_⟩
    cases portText with
    | none => simp
    | some text => simpa using noSign text rfl
  have isSplit : splitPort false (host ++ (portText.map (':' :: ·)).getD []) =
      (host, portText) := by
    rw [splitPort_append noMark]
    cases portText <;> simp [splitPort]
  unfold parseAuthority
  simp only [splitUserinfo, if_neg absent, isSplit]
  simp [nonempty, encode]
  cases parseHost parsers (isSpecial scheme) host with
  | none => rfl
  | some found => cases parsePort scheme portText <;> rfl

theorem parsePort_toDigits (ordinary : isSpecial scheme = false) (small : port ≤ 65535) :
    parsePort scheme (some (Nat.toDigits 10 port)) = some (some port) := by
  obtain ⟨first, others, isText⟩ := List.exists_cons_of_ne_nil (Json.toDigits_ne_nil port)
  have areDigits := Json.isDigit_of_mem_toDigits port
  have isValue := Json.ofDigits_toDigits port
  rw [isText] at areDigits isValue ⊢
  unfold parsePort
  rw [Json.ofDigits] at isValue
  dsimp only
  rw [if_pos (List.all_eq_true.mpr areDigits), isValue, if_neg (by omega),
    defaultPort_of_ordinary ordinary, if_neg (by simp)]

/-- The text of a port behind a host. -/
def writePort (port : Option Nat) : List Char :=
  (port.map fun port => ':' :: Nat.toDigits 10 port).getD []

theorem parseHost_of_areHost (areHost : ∀ char ∈ host, isHostChar char = true) :
    parseHost parsers false host = some host := by
  have noBracket : host.head? ≠ some '[' := fun isHead =>
    notMem_of_isHostChar areHost (by decide) (List.mem_of_mem_head? isHead)
  have allowed : ∀ char ∈ host, isForbiddenHostChar char = false ∧
      inC0ControlSet char = false := by
    intro char isMember
    simpa [isHostChar] using areHost char isMember
  unfold parseHost parseVerbatimHost
  rw [if_neg noBracket, if_neg Bool.false_ne_true, if_neg,
    encode_of_outside fun char isMember => (allowed char isMember).2]
  simpa using fun char isMember => (allowed char isMember).1

/-- A host and a port are read from their own text. -/
theorem parseAuthority_write {port : Option Nat} (ordinary : isSpecial scheme = false)
    (nonempty : host ≠ []) (areHost : ∀ char ∈ host, isHostChar char = true)
    (small : ∀ number ∈ port, number ≤ 65535) :
    parseAuthority parsers scheme (host ++ writePort port) = some ⟨[], [], host, port⟩ := by
  have noSign : ∀ text ∈ port.map (Nat.toDigits 10), '@' ∉ text := by
    intro text isText isMember
    obtain ⟨port, -, rfl⟩ := Option.map_eq_some_iff.mp isText
    have isDigit := Json.isDigit_of_mem_toDigits port _ isMember
    revert isDigit
    decide
  have isPort : parsePort scheme (port.map (Nat.toDigits 10)) = some port := by
    cases port with
    | none => rfl
    | some port => exact parsePort_toDigits ordinary (small port rfl)
  have isText : writePort port = ((port.map (Nat.toDigits 10)).map (':' :: ·)).getD [] := by
    rw [writePort, Option.map_map]
    rfl
  rw [isText, parseAuthority_append nonempty (fun char isMember =>
    not_hostMark_of_isHostChar (areHost char isMember)) noSign, ordinary,
    parseHost_of_areHost areHost, isPort]
  rfl

end Authorities

section Paths

variable {segments : List (List Char)} {segment : List Char} {char : Char}

theorem splitSegments_write (written : ∀ part ∈ segment :: segments, IsWritten false part) :
    splitSegments false (segment ++ writeSegments segments) = segment :: segments := by
  induction segments generalizing segment with
  | nil =>
      rw [writeSegments, List.flatMap_nil, List.append_nil]
      exact splitSegments_of_plain (written segment List.mem_cons_self).plain
  | cons next rest inductionHypothesis =>
      obtain ⟨isWritten, others⟩ := List.forall_mem_cons.mp written
      rw [writeSegments_cons, splitSegments_append (by decide),
        splitSegments_of_plain isWritten.plain, inductionHypothesis others,
        List.singleton_append]

/-- The segments of a path are read from its own text. -/
theorem parsePath_write (written : ∀ part ∈ segments, IsWritten false part) :
    parsePath false (writeSegments segments) = segments := by
  cases segments with
  | nil => rfl
  | cons segment rest =>
      have slash : isSeparator false '/' = true := by decide
      rw [writeSegments_cons, parsePath, if_pos slash, parseSegments_eq,
        splitSegments_write written,
        addSegments_of_noDots fun part isMember => (written part isMember).noDots,
        List.nil_append]

theorem addSegments_ne_nil {place : List (List Char)} (nonempty : segments ≠ []) :
    addSegments place segments ≠ [] := by
  induction segments generalizing place with
  | nil => exact absurd rfl nonempty
  | cons segment rest inductionHypothesis =>
      cases rest with
      | nil =>
          rw [addSegments]
          split
          · simp
          · split <;> simp
      | cons next others =>
          simp only [addSegments]
          split
          · exact inductionHypothesis (List.cons_ne_nil next others)
          · split <;> exact inductionHypothesis (List.cons_ne_nil next others)

/-- A special URL has a path. -/
theorem parsePath_ne_nil {text : List Char} : parsePath true text ≠ [] := by
  have ofSegments (text : List Char) : parseSegments true text ≠ [] :=
    addSegments_ne_nil splitSegments_ne_nil
  cases text with
  | nil => exact ofSegments []
  | cons first rest =>
      rw [parsePath]
      split <;> exact ofSegments _

theorem IsWritten.ordinary {special : Bool} (written : IsWritten special segment) :
    IsWritten false segment := by
  refine ⟨fun char isMember => ?_, written.noDots⟩
  have plain := written.plain char isMember
  simp only [isPathChar, isSeparator, Bool.and_eq_true, Bool.not_eq_true', Bool.or_eq_false_iff,
    Bool.false_and] at plain ⊢
  exact ⟨plain.1, plain.2.1, trivial⟩

end Paths

section Whole

variable {parsers : Parsers} {url : Url} {host text : List Char} {segments : List (List Char)}
  {char mark : Char}

/-- What a URL must be for its own text to be parsed to it. -/
structure ReadsBack (url : Url) (host : List Char) (segments : List (List Char)) : Prop where
  isName : ∀ char ∈ url.scheme, isSchemeChar char = true
  isLetter : url.scheme.head?.any Char.isAlpha = true
  isLower : Text.toAsciiLowercase url.scheme = url.scheme
  ordinary : isSpecial url.scheme = false
  noCredentials : url.username = [] ∧ url.password = []
  isHost : url.host = some host
  nonempty : host ≠ []
  areHost : ∀ char ∈ host, isHostChar char = true
  smallPort : ∀ port ∈ url.port, port ≤ 65535
  isPath : url.path = .segments segments
  written : ∀ segment ∈ segments, IsWritten false segment
  isQuery : ∀ text ∈ url.query, ∀ char ∈ text, inQuerySet char = false
  noFragment : url.fragment = none

/-- A character that is cleaned away nowhere and begins no fragment. -/
def isVisible (char : Char) : Bool := !isEdge char && char ≠ '#'

theorem isVisible_of_outside (outside : inQuerySet char = false) : isVisible char = true := by
  have noMark : char ≠ '#' := by
    rintro rfl
    revert outside
    decide
  have noSpace : char.toNat ≠ 0x20 := by
    intro isSpace
    have same : char = ' ' := by rw [← Char.ofNat_toNat char, isSpace]
    rw [same] at outside
    revert outside
    decide
  simp only [inQuerySet, inC0ControlSet, isC0Control, Bool.or_eq_false_iff,
    decide_eq_false_iff_not] at outside
  simp only [isVisible, isEdge, Bool.and_eq_true, Bool.not_eq_true', decide_eq_false_iff_not,
    decide_eq_true_eq]
  exact ⟨by omega, noMark⟩

theorem isVisible_of_isPathChar {special : Bool} (isPath : isPathChar special char = true) :
    isVisible char = true := by
  apply isVisible_of_outside
  simp only [isPathChar, inPathSet, Bool.and_eq_true, Bool.not_eq_true',
    Bool.or_eq_false_iff] at isPath
  exact isPath.1.1

theorem isPathChar_of_digit (isDigit : char.isDigit = true) : isPathChar false char = true := by
  have alphanum : char.isAlphanum = true := by simp [Char.isAlphanum, isDigit]
  have noSlash : char ≠ '/' := by
    rintro rfl
    revert isDigit
    decide
  simp [isPathChar, isSeparator, not_inPathSet_of_alphanum alphanum, noSlash]

theorem isVisible_of_isHostChar (isHost : isHostChar char = true) : isVisible char = true := by
  have noMark : char ≠ '#' := by
    rintro rfl
    revert isHost
    decide
  have noSpace : char.toNat ≠ 0x20 := by
    intro isSpace
    have same : char = ' ' := by rw [← Char.ofNat_toNat char, isSpace]
    rw [same] at isHost
    revert isHost
    decide
  simp only [isHostChar, inC0ControlSet, isC0Control, Bool.and_eq_true, Bool.not_eq_true',
    Bool.or_eq_false_iff, decide_eq_false_iff_not] at isHost
  simp only [isVisible, isEdge, Bool.and_eq_true, Bool.not_eq_true', decide_eq_false_iff_not,
    decide_eq_true_eq]
  exact ⟨by omega, noMark⟩

theorem splitMark_of_notMem (absent : mark ∉ text) : splitMark mark text = (text, none) := by
  have passes : ∀ char ∈ text, decide (char ≠ mark) = true := by
    intro char isMember
    rw [decide_eq_true_eq]
    rintro rfl
    exact absent isMember
  rw [splitMark, List.takeWhile_eq_self_iff.mpr passes, List.dropWhile_eq_nil_iff.mpr passes]

theorem splitMark_append {rest : List Char} (absent : mark ∉ text) :
    splitMark mark (text ++ mark :: rest) = (text, some rest) := by
  have passes : ∀ char ∈ text, decide (char ≠ mark) = true := by
    intro char isMember
    rw [decide_eq_true_eq]
    rintro rfl
    exact absent isMember
  rw [splitMark, List.takeWhile_append_of_pos passes, List.dropWhile_append_of_pos passes,
    List.takeWhile_cons_of_neg (by simp), List.dropWhile_cons_of_neg (by simp), List.append_nil]

theorem cleaned_of_visible (visible : ∀ char ∈ text, isVisible char = true) :
    cleaned text = text := by
  have noEdge : ∀ char ∈ text, isEdge char = false := by
    intro char isMember
    have isVisible := visible char isMember
    simp only [UrlStandard.isVisible, Bool.and_eq_true, Bool.not_eq_true'] at isVisible
    exact isVisible.1
  cases text with
  | nil => rfl
  | cons first rest =>
      have whole := @cleaned_append [] _ noEdge (List.cons_ne_nil first rest)
      simpa using whole

namespace ReadsBack

variable (readsBack : ReadsBack url host segments)

include readsBack

/-- The text between the scheme and the query. -/
theorem writeWithoutFragment_eq : url.writeWithoutFragment = url.scheme ++ ':' ::
    (('/' :: '/' :: (host ++ writePort url.port ++ writeSegments segments)) ++
      (url.query.map ('?' :: ·)).getD []) := by
  obtain ⟨noName, noPassword⟩ := readsBack.noCredentials
  simp [Url.writeWithoutFragment, Url.writeHierarchy, Url.writeAuthority, readsBack.isHost,
    readsBack.isPath, noName, noPassword, Path.write, writePort]

theorem visible_authority : ∀ char ∈ host ++ writePort url.port,
    isVisible char = true ∧ isSeparator false char = false ∧ char ≠ '?' := by
  intro char isMember
  rcases List.mem_append.mp isMember with inHost | inPort
  · have isHost := readsBack.areHost char inHost
    refine ⟨isVisible_of_isHostChar isHost, ?_, ?_⟩
    · simp only [isSeparator, Bool.false_and, Bool.or_false, decide_eq_false_iff_not]
      rintro rfl
      revert isHost
      decide
    · rintro rfl
      revert isHost
      decide
  · cases isPort : url.port with
    | none => simp [writePort, isPort] at inPort
    | some port =>
        rw [isPort] at inPort
        rcases List.mem_cons.mp inPort with rfl | isDigit
        · decide
        · have isPath := isPathChar_of_digit (Json.isDigit_of_mem_toDigits port _ isDigit)
          refine ⟨isVisible_of_isPathChar isPath, ?_, ?_⟩
          · rw [isPathChar, Bool.and_eq_true, Bool.not_eq_true', Bool.not_eq_true'] at isPath
            exact isPath.2
          · rintro rfl
            revert isPath
            decide

theorem visible_path : ∀ char ∈ writeSegments segments, isVisible char = true ∧ char ≠ '?' := by
  intro char isMember
  obtain ⟨segment, isSegment, isWritten⟩ := List.mem_flatMap.mp isMember
  rcases List.mem_cons.mp isWritten with rfl | inSegment
  · decide
  · have isPath := (readsBack.written segment isSegment).plain char inSegment
    refine ⟨isVisible_of_isPathChar isPath, ?_⟩
    rintro rfl
    revert isPath
    decide

theorem visible_body : ∀ char ∈ '/' :: '/' :: (host ++ writePort url.port ++
    writeSegments segments), isVisible char = true ∧ char ≠ '?' := by
  intro char isMember
  rcases List.mem_cons.mp isMember with rfl | isMember
  · decide
  rcases List.mem_cons.mp isMember with rfl | isMember
  · decide
  rcases List.mem_append.mp isMember with inAuthority | inPath
  · have visible := readsBack.visible_authority char inAuthority
    exact ⟨visible.1, visible.2.2⟩
  · exact readsBack.visible_path char inPath

theorem visible_query : ∀ char ∈ (url.query.map ('?' :: ·)).getD [], isVisible char = true := by
  intro char isMember
  cases isQuery : url.query with
  | none => simp [isQuery] at isMember
  | some text =>
      rw [isQuery] at isMember
      rcases List.mem_cons.mp isMember with rfl | inText
      · decide
      · exact isVisible_of_outside (readsBack.isQuery text isQuery char inText)

theorem visible_rest : ∀ char ∈ ('/' :: '/' :: (host ++ writePort url.port ++
    writeSegments segments)) ++ (url.query.map ('?' :: ·)).getD [], isVisible char = true := by
  intro char isMember
  rcases List.mem_append.mp isMember with inBody | inQuery
  · exact (readsBack.visible_body char inBody).1
  · exact readsBack.visible_query char inQuery

theorem cleaned_writeWithoutFragment : cleaned url.writeWithoutFragment =
    url.writeWithoutFragment := by
  apply cleaned_of_visible
  rw [readsBack.writeWithoutFragment_eq]
  intro char isMember
  rcases List.mem_append.mp isMember with inScheme | isMember
  · have isName := readsBack.isName char inScheme
    have noMark : char ≠ '#' := by
      rintro rfl
      revert isName
      decide
    simp [isVisible, isEdge_of_isSchemeChar isName, noMark]
  rcases List.mem_cons.mp isMember with rfl | inRest
  · decide
  · exact readsBack.visible_rest char inRest

theorem splitMark_query : splitMark '?' (('/' :: '/' :: (host ++ writePort url.port ++
    writeSegments segments)) ++ (url.query.map ('?' :: ·)).getD []) =
      ('/' :: '/' :: (host ++ writePort url.port ++ writeSegments segments), url.query) := by
  have absent : '?' ∉ '/' :: '/' :: (host ++ writePort url.port ++ writeSegments segments) :=
    fun isMember => (readsBack.visible_body '?' isMember).2 rfl
  cases url.query with
  | none =>
      rw [Option.map_none, Option.getD_none, List.append_nil]
      exact splitMark_of_notMem absent
  | some text =>
      rw [Option.map_some, Option.getD_some]
      exact splitMark_append absent

theorem parseHierarchy_eq : parseHierarchy parsers url.scheme (host ++ writePort url.port ++
    writeSegments segments) = some (⟨[], [], host, url.port⟩, .segments segments) := by
  have passes : ∀ char ∈ host ++ writePort url.port, (!isSeparator false char) = true := by
    intro char isMember
    rw [Bool.not_eq_true']
    exact (readsBack.visible_authority char isMember).2.1
  have stops : Text.before (isSeparator false) (writeSegments segments) = [] ∧
      Text.fromStop (isSeparator false) (writeSegments segments) = writeSegments segments := by
    cases segments with
    | nil => exact ⟨rfl, rfl⟩
    | cons segment rest => exact ⟨rfl, rfl⟩
  have isAuthority : Text.before (isSeparator false) (host ++ writePort url.port ++
      writeSegments segments) = host ++ writePort url.port := by
    unfold Text.before at stops ⊢
    rw [List.takeWhile_append_of_pos passes, stops.1, List.append_nil]
  have isPath : Text.fromStop (isSeparator false) (host ++ writePort url.port ++
      writeSegments segments) = writeSegments segments := by
    unfold Text.fromStop at stops ⊢
    rw [List.dropWhile_append_of_pos passes, stops.2]
  unfold parseHierarchy
  rw [readsBack.ordinary]
  dsimp only
  rw [isAuthority, isPath, parsePath_write readsBack.written, parseAuthority_write
    readsBack.ordinary readsBack.nonempty readsBack.areHost readsBack.smallPort]
  rfl

/-- The URL is what its own text is parsed to. -/
theorem parse_writeWithoutFragment : parse parsers url.writeWithoutFragment = some url := by
  have noFile : url.scheme ≠ "file".toList := by
    intro isFile
    have ordinary := readsBack.ordinary
    rw [isFile] at ordinary
    revert ordinary
    decide
  have noFragmentMark : '#' ∉ ('/' :: '/' :: (host ++ writePort url.port ++
      writeSegments segments)) ++ (url.query.map ('?' :: ·)).getD [] := by
    intro isMember
    have visible := readsBack.visible_rest '#' isMember
    revert visible
    decide
  have sameQuery : url.query.map (encode inQuerySet) = url.query := by
    cases isQuery : url.query with
    | none => rfl
    | some text =>
        rw [Option.map_some, encode_of_outside (readsBack.isQuery text isQuery)]
  have isUrl : withAuthority url.scheme url.query none
      (⟨[], [], host, url.port⟩, .segments segments) = url := by
    rw [← readsBack.noFragment, withAuthority, ← readsBack.isHost, ← readsBack.isPath]
    obtain ⟨noName, noPassword⟩ := readsBack.noCredentials
    cases url
    simp_all
  unfold parse
  rw [readsBack.cleaned_writeWithoutFragment, readsBack.writeWithoutFragment_eq,
    splitScheme_append readsBack.isName readsBack.isLetter, readsBack.isLower]
  simp only [Option.bind_eq_bind, Option.bind_some, splitMark_of_notMem noFragmentMark,
    readsBack.splitMark_query, if_neg noFile, readsBack.ordinary, if_neg Bool.false_ne_true,
    sameQuery, Option.map_none, readsBack.parseHierarchy_eq, Option.map_some, isUrl]

end ReadsBack

end Whole

section Parsed

variable {parsers : Parsers} {url : Url} {scheme host text : List Char} {authority : Authority}
  {port : Nat} {char : Char}

theorem query_of_parse (parsed : parse parsers text = some url) :
    ∀ query ∈ url.query, ∀ char ∈ query, inQuerySet char = false := by
  have outside {queryText : Option (List Char)} {inSet : Char → Bool}
      (isSet : inSet = inSpecialQuerySet ∨ inSet = inQuerySet) :
      ∀ query ∈ queryText.map (encode inSet), ∀ char ∈ query, inQuerySet char = false := by
    intro query isQuery char isMember
    obtain ⟨original, -, rfl⟩ := Option.map_eq_some_iff.mp isQuery
    rcases isSet with rfl | rfl
    · have outside := not_inSet_of_mem_encode spares_inSpecialQuerySet isMember
      rw [inSpecialQuerySet, Bool.or_eq_false_iff] at outside
      exact outside.1
    · exact not_inSet_of_mem_encode spares_inQuerySet isMember
  unfold parse at parsed
  obtain ⟨⟨scheme, behind⟩, isSplit, parsed⟩ := Option.bind_eq_some_iff.mp parsed
  dsimp only at parsed
  split at parsed
  · obtain ⟨found, -, rfl⟩ := Option.map_eq_some_iff.mp parsed
    apply outside
    split
    · exact .inl rfl
    · exact .inr rfl
  · split at parsed
    · obtain ⟨found, -, rfl⟩ := Option.map_eq_some_iff.mp parsed
      exact outside (.inl rfl)
    · split at parsed
      · obtain ⟨found, -, rfl⟩ := Option.map_eq_some_iff.mp parsed
        exact outside (.inr rfl)
      · cases parsed
        exact outside (.inr rfl)
      · cases parsed
        exact outside (.inr rfl)

/-- A URL with a host, but for files, has its authority and its path from one text. -/
theorem hierarchy_of_parse (parsed : parse parsers text = some url)
    (noFile : url.scheme ≠ "file".toList) (isHost : url.host = some host) :
    ∃ hierarchy authority path,
      parseHierarchy parsers url.scheme hierarchy = some (authority, path) ∧
        url = withAuthority url.scheme url.query url.fragment (authority, path) := by
  unfold parse at parsed
  obtain ⟨⟨scheme, behind⟩, isSplit, parsed⟩ := Option.bind_eq_some_iff.mp parsed
  dsimp only at parsed
  split at parsed
  · rename_i isFile
    obtain ⟨found, -, rfl⟩ := Option.map_eq_some_iff.mp parsed
    exact absurd isFile noFile
  · split at parsed
    · obtain ⟨⟨authority, path⟩, isHierarchy, rfl⟩ := Option.map_eq_some_iff.mp parsed
      exact ⟨_, authority, path, isHierarchy, rfl⟩
    · split at parsed
      · obtain ⟨⟨authority, path⟩, isHierarchy, rfl⟩ := Option.map_eq_some_iff.mp parsed
        exact ⟨_, authority, path, isHierarchy, rfl⟩
      · cases parsed
        cases isHost
      · cases parsed
        cases isHost

theorem head_parseVerbatim {marked : Bool} (noSlash : text.head? ≠ some '/') :
    (parseVerbatim marked text).head? ≠ some '/' := by
  have ofEncode {rest text : List Char} (noSlash : text.head? ≠ some '/')
      (restNoSlash : rest.head? ≠ some '/') :
      (encode inC0ControlSet text ++ rest).head? ≠ some '/' := by
    cases text with
    | nil => simpa [encode] using restNoSlash
    | cons first others =>
        rw [encode_cons, percentEncode, List.append_assoc]
        split
        · obtain ⟨byte, bytes, isChar⟩ : ∃ byte bytes,
              String.utf8EncodeChar first = byte :: bytes :=
            List.exists_cons_of_ne_nil String.utf8EncodeChar_ne_nil
          simp [isChar, Text.percentEncodeByte]
        · simpa using noSlash
  unfold parseVerbatim
  split
  · apply ofEncode
    · cases text with
      | nil => simp
      | cons first others => cases others <;> simp_all
    · simp
  · have whole := @ofEncode [] text noSlash (by simp)
    rwa [List.append_nil] at whole

/-- What the path of a URL without a host is. -/
theorem path_of_parse_without_host (parsed : parse parsers text = some url)
    (noFile : url.scheme ≠ "file".toList) (noHost : url.host = none) :
    (∃ segments, url.path = .segments segments ∧
        ∀ segment ∈ segments, IsWritten false segment) ∨
      ∃ path, url.path = .verbatim path ∧ path.head? ≠ some '/' := by
  unfold parse at parsed
  obtain ⟨⟨scheme, behind⟩, isSplit, parsed⟩ := Option.bind_eq_some_iff.mp parsed
  dsimp only at parsed
  split at parsed
  · rename_i isFile
    obtain ⟨found, -, rfl⟩ := Option.map_eq_some_iff.mp parsed
    exact absurd isFile noFile
  · split at parsed
    · obtain ⟨found, -, rfl⟩ := Option.map_eq_some_iff.mp parsed
      cases noHost
    · split at parsed
      · obtain ⟨found, -, rfl⟩ := Option.map_eq_some_iff.mp parsed
        cases noHost
      · rename_i segments _ _
        cases parsed
        left
        refine ⟨_, rfl, fun segment isMember => ?_⟩
        apply @isWritten_of_mem_parsePath false ('/' :: segments)
        rwa [parsePath, if_pos (by decide)]
      · rename_i noSlash
        cases parsed
        right
        refine ⟨_, rfl, head_parseVerbatim fun isHead => ?_⟩
        obtain ⟨segments, isBody⟩ := List.head?_eq_some_iff.mp isHead
        exact noSlash segments isBody

/-- What stands behind the scheme of a URL without a host begins with no two slashes. -/
theorem writeHierarchy_of_parse (parsed : parse parsers text = some url)
    (noFile : url.scheme ≠ "file".toList) (noHost : url.host = none) (rest : List Char) :
    url.writeHierarchy ++ (url.query.map ('?' :: ·)).getD [] ≠ '/' :: '/' :: rest := by
  have noSlash : ((url.query.map ('?' :: ·)).getD []).head? ≠ some '/' := by
    cases url.query <;> simp
  intro same
  unfold Url.writeHierarchy at same
  rw [noHost] at same
  rcases path_of_parse_without_host parsed noFile noHost with
    ⟨segments, isPath, written⟩ | ⟨path, isPath, pathNoSlash⟩
  · rw [isPath] at same
    match segments with
    | [] => simp_all [Path.write, writeSegments]
    | [[]] => simp_all [Path.write, writeSegments]
    | [] :: next :: rest => simp_all
    | (first :: others) :: rest =>
        have isPathChar := (written (first :: others) List.mem_cons_self).plain first
          List.mem_cons_self
        obtain rfl : first = '/' := by simp_all [Path.write, writeSegments]
        revert isPathChar
        decide
  · rw [isPath] at same
    cases path <;> simp_all [Path.write]

theorem parsePort_bounds {portText : Option (List Char)} {portOf : Option Nat}
    (isPort : parsePort scheme portText = some portOf) :
    ∀ port ∈ portOf, port ≤ 65535 ∧ defaultPort scheme ≠ some port := by
  unfold parsePort at isPort
  intro port isMember
  split at isPort
  · cases isPort
    cases isMember
  · cases isPort
    cases isMember
  · split at isPort
    · dsimp only at isPort
      split at isPort
      · cases isPort
      · rename_i small
        split at isPort
        · cases isPort
          cases isMember
        · rename_i notDefault
          cases isPort
          cases isMember
          exact ⟨not_lt.mp small, notDefault⟩
    · cases isPort

theorem not_forbidden_of_parseVerbatimHost (isHost : parseVerbatimHost text = some host) :
    ∀ char ∈ host, isForbiddenHostChar char = false := by
  have spares : SparesEscapes isForbiddenHostChar := by
    constructor
    · decide
    · intro char isDigit
      exact not_forbidden_of_alphanum (isAlphanum_of_isHexDigit isDigit)
  unfold parseVerbatimHost at isHost
  split at isHost
  · cases isHost
  · rename_i allowed
    obtain rfl := Option.some.inj isHost
    intro char isMember
    obtain ⟨original, isOriginal, isWritten⟩ := List.mem_flatMap.mp isMember
    unfold percentEncode at isWritten
    split at isWritten
    · obtain ⟨byte, -, isWritten⟩ := List.mem_flatMap.mp isWritten
      exact not_inSet_of_mem_percentEncodeByte spares isWritten
    · rw [List.mem_singleton.mp isWritten]
      simp only [List.any_eq_true, not_exists, not_and, Bool.not_eq_true] at allowed
      exact allowed original isOriginal

theorem not_upper_of_isDigit (isDigit : char.isDigit = true) : char.isUpper = false := by
  rw [Text.isDigit_iff] at isDigit
  rw [Bool.eq_false_iff, Ne, Text.isUpper_iff]
  omega

/-- The host of a special URL is in lower case, unless it stands in brackets. -/
theorem not_upper_of_parseDomain (isHost : parseDomain parsers text = some host) :
    ∀ char ∈ host, char.isUpper = false := by
  have ofDigits (value : Nat) : ∀ char ∈ Nat.toDigits 10 value, char.isUpper = false :=
    fun char isMember => not_upper_of_isDigit (Json.isDigit_of_mem_toDigits value char isMember)
  unfold parseDomain at isHost
  obtain ⟨domain, isDomain, isHost⟩ := Option.bind_eq_some_iff.mp isHost
  split at isHost
  · cases isHost
  · split at isHost
    · obtain ⟨address, -, rfl⟩ := Option.map_eq_some_iff.mp isHost
      intro char isMember
      unfold writeIpv4 at isMember
      simp only [List.cons_append, List.append_assoc, List.mem_append, List.mem_cons] at isMember
      rcases isMember with inOctet | rfl | inOctet | rfl | inOctet | rfl | inOctet
      · exact ofDigits _ char inOctet
      · decide
      · exact ofDigits _ char inOctet
      · decide
      · exact ofDigits _ char inOctet
      · decide
      · exact ofDigits _ char inOctet
    · obtain rfl := Option.some.inj isHost
      exact fun char isMember => (parsers.ascii_lower _ _ isDomain char isMember).2

/-- What is known of an authority that was parsed. -/
structure AuthorityParsed (parsers : Parsers) (scheme : List Char) (authority : Authority) :
    Prop where
  username : ∀ char ∈ authority.username, inUserinfoSet char = false
  password : ∀ char ∈ authority.password, inUserinfoSet char = false
  host : ∃ hostText, parseHost parsers (isSpecial scheme) hostText = some authority.host
  port : ∀ port ∈ authority.port, port ≤ 65535 ∧ defaultPort scheme ≠ some port

theorem authorityParsed_of_parseAuthority
    (isAuthority : parseAuthority parsers scheme text = some authority) :
    AuthorityParsed parsers scheme authority := by
  unfold parseAuthority at isAuthority
  dsimp only at isAuthority
  split at isAuthority
  · cases isAuthority
  · split at isAuthority
    · cases isAuthority
    · obtain ⟨host, isHost, isAuthority⟩ := Option.bind_eq_some_iff.mp isAuthority
      obtain ⟨port, isPort, isAuthority⟩ := Option.bind_eq_some_iff.mp isAuthority
      cases isAuthority
      exact ⟨fun char => not_inSet_of_mem_encode spares_inUserinfoSet,
        fun char => not_inSet_of_mem_encode spares_inUserinfoSet, ⟨_, isHost⟩,
        parsePort_bounds isPort⟩

/-- What is known of a URL with a host. -/
theorem parts_of_parse (parsed : parse parsers text = some url)
    (noFile : url.scheme ≠ "file".toList) (isHost : url.host = some host) :
    AuthorityParsed parsers url.scheme ⟨url.username, url.password, host, url.port⟩ ∧
      ∃ pathText, url.path = .segments (parsePath (isSpecial url.scheme) pathText) := by
  obtain ⟨hierarchy, authority, path, isHierarchy, isUrl⟩ := hierarchy_of_parse parsed noFile isHost
  unfold parseHierarchy at isHierarchy
  obtain ⟨found, isAuthority, isHierarchy⟩ := Option.bind_eq_some_iff.mp isHierarchy
  cases isHierarchy
  have sameHost : host = authority.host := by
    rw [isUrl] at isHost
    exact (Option.some.inj isHost).symm
  have username : url.username = authority.username := by rw [isUrl]; rfl
  have password : url.password = authority.password := by rw [isUrl]; rfl
  have port : url.port = authority.port := by rw [isUrl]; rfl
  have isPath : url.path = .segments (parsePath (isSpecial url.scheme)
      (Text.fromStop (isSeparator (isSpecial url.scheme)) hierarchy)) := by rw [isUrl]; rfl
  rw [sameHost, username, password, port]
  exact ⟨authorityParsed_of_parseAuthority isAuthority, _, isPath⟩

end Parsed

end Slate.Foundation.UrlStandard
