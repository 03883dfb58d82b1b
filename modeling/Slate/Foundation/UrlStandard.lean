import Mathlib.Data.List.Basic
import Slate.Foundation.Text
import Slate.Foundation.Utf8

/-!
# URLs as the URL standard parses them

A text is cleaned of white space at its ends, of tabs and of newlines, and taken apart: the scheme
in front, the fragment and the query behind, the authority and the path between. Special
schemes have authorities with domains and take backslashes for slashes. How domains become
ASCII, the texts of addresses and the paths of files are parameters.
-/

namespace Slate.Foundation.UrlStandard

inductive Path where
  /-- The path of a URL that does not go on with a slash behind its scheme. -/
  | verbatim (text : List Char)
  | segments (segments : List (List Char))
  deriving DecidableEq, Repr

structure Url where
  scheme : List Char
  username : List Char
  password : List Char
  host : Option (List Char)
  port : Option Nat
  path : Path
  query : Option (List Char)
  fragment : Option (List Char)
  deriving DecidableEq, Repr

section Characters

def isC0Control (char : Char) : Bool := char.toNat ≤ 0x1F

/-- What is trimmed at the ends of a text. -/
def isEdge (char : Char) : Bool := char.toNat ≤ 0x20

def isTabOrNewline (char : Char) : Bool := char = '\t' || char = '\n' || char = '\r'

def isHexDigit (char : Char) : Bool :=
  char.isDigit || ('a' ≤ char && char ≤ 'f') || ('A' ≤ char && char ≤ 'F')

def isForbiddenHostChar (char : Char) : Bool :=
  char = '\x00' || isTabOrNewline char || " #/:<>?@[\\]^|".toList.contains char

def isForbiddenDomainChar (char : Char) : Bool :=
  isForbiddenHostChar char || isC0Control char || char = '%' || char = '\x7F'

def inC0ControlSet (char : Char) : Bool := isC0Control char || 0x7E < char.toNat

def inFragmentSet (char : Char) : Bool :=
  inC0ControlSet char || " \"<>\x60".toList.contains char

def inQuerySet (char : Char) : Bool := inC0ControlSet char || " \"#<>".toList.contains char

def inSpecialQuerySet (char : Char) : Bool := inQuerySet char || char = '\''

def inPathSet (char : Char) : Bool := inQuerySet char || "?^\x60\x7b\x7d".toList.contains char

def inUserinfoSet (char : Char) : Bool := inPathSet char || "/:;=@[\\]|".toList.contains char

def percentEncode (inSet : Char → Bool) (char : Char) : List Char :=
  if inSet char then (String.utf8EncodeChar char).flatMap Text.percentEncodeByte else [char]

def encode (inSet : Char → Bool) (text : List Char) : List Char :=
  text.flatMap (percentEncode inSet)

def hexValue (digit : Char) : Nat :=
  if digit.isDigit then digit.toNat - 48 else digit.toLower.toNat - 87

def hexByte (high low : UInt8) : Option UInt8 :=
  let high := Char.ofNat high.toNat
  let low := Char.ofNat low.toNat
  if isHexDigit high && isHexDigit low then
    some (UInt8.ofNat (16 * hexValue high + hexValue low))
  else none

def percentDecode : List UInt8 → List UInt8
  | [] => []
  | [byte] => [byte]
  | [first, second] => [first, second]
  | first :: second :: third :: rest =>
    if first = 0x25 then
      match hexByte second third with
      | some byte => byte :: percentDecode rest
      | none => first :: percentDecode (second :: third :: rest)
    else first :: percentDecode (second :: third :: rest)

attribute [local grind =] percentDecode

end Characters

section Schemes

def isSpecial (scheme : List Char) : Bool :=
  ["http", "https", "ws", "wss", "ftp", "file"].any fun special => special.toList == scheme

def defaultPort (scheme : List Char) : Option Nat :=
  if scheme = "http".toList ∨ scheme = "ws".toList then some 80
  else if scheme = "https".toList ∨ scheme = "wss".toList then some 443
  else if scheme = "ftp".toList then some 21
  else none

def isSchemeChar (char : Char) : Bool :=
  char.isAlphanum || char = '+' || char = '-' || char = '.'

/-- The scheme in lower case, and the text behind its colon. -/
def splitScheme (text : List Char) : Option (List Char × List Char) :=
  let name := text.takeWhile isSchemeChar
  match text.head?, text.dropWhile isSchemeChar with
  | some first, ':' :: rest =>
    if first.isAlpha then some (Text.toAsciiLowercase name, rest) else none
  | _, _ => none

end Schemes

/-- The parts of the standard that are left open. Nothing is known of addresses and files; of
domains it is known that they come out in lower case, as they are but for that if they consist
of letters, digits, hyphens and dots, and not at all with white space beyond ASCII. -/
structure Parsers where
  domainToAscii : List UInt8 → Option (List Char)
  parseIpv4 : List Char → Option UInt32
  /-- The text of the address, without brackets. -/
  parseIpv6 : List Char → Option (List Char)
  parseFile : List Char → Option (Option (List Char) × Path)
  ascii_lower : ∀ (bytes : List UInt8) (domain : List Char), domainToAscii bytes = some domain →
    ∀ char ∈ domain, char.toNat < 0x80 ∧ char.isUpper = false
  ascii_plain : ∀ (text domain : List Char),
    (∀ char ∈ text, char.isAlphanum ∨ char = '-' ∨ char = '.') →
      domainToAscii (text.flatMap String.utf8EncodeChar) = some domain →
        domain = Text.toAsciiLowercase text
  ascii_unspaced : ∀ (text : List Char) (char : Char), char ∈ text → Text.isWhitespace char = true →
    0x80 ≤ char.toNat → domainToAscii (percentDecode (text.flatMap String.utf8EncodeChar)) = none

section Hosts

variable (parsers : Parsers)

/-- A label that is a number: of decimal digits, or of hexadecimal ones behind `0x`. -/
def isNumberLabel : List Char → Bool
  | '0' :: 'x' :: digits => digits.all isHexDigit
  | '0' :: 'X' :: digits => digits.all isHexDigit
  | label => !label.isEmpty && label.all Char.isDigit

def endsInNumber (domain : List Char) : Bool :=
  let labels := domain.splitOn '.'
  match labels.reverse with
  | [] => false
  | [] :: last :: _ => isNumberLabel last
  | last :: _ => isNumberLabel last

def writeIpv4 (address : UInt32) : List Char :=
  let octet (unit : Nat) := Nat.toDigits 10 (address.toNat / unit % 256)
  octet 0x1000000 ++ '.' :: octet 0x10000 ++ '.' :: octet 0x100 ++ '.' :: octet 1

/-- A host that is no domain and no address: what it may not contain, and what is encoded. -/
def parseVerbatimHost (text : List Char) : Option (List Char) :=
  if text.any isForbiddenHostChar then none else some (encode inC0ControlSet text)

def parseDomain (text : List Char) : Option (List Char) := do
  let domain ← parsers.domainToAscii (percentDecode (text.flatMap String.utf8EncodeChar))
  if domain = [] ∨ domain.any isForbiddenDomainChar then none
  else if endsInNumber domain then (parsers.parseIpv4 domain).map writeIpv4
  else some domain

def parseHost (special : Bool) (text : List Char) : Option (List Char) :=
  if text.head? = some '[' then
    if text.getLast? = some ']' then
      (parsers.parseIpv6 text.tail.dropLast).map fun address => '[' :: address ++ [']']
    else none
  else if special then parseDomain parsers text
  else parseVerbatimHost text

end Hosts

section Authorities

structure Authority where
  username : List Char
  password : List Char
  host : List Char
  port : Option Nat
  deriving DecidableEq, Repr

/-- The text before the last sign, if there is one, and the text behind it. -/
def splitUserinfo (authority : List Char) : Option (List Char) × List Char :=
  if '@' ∈ authority then
    (some (authority.rdropWhile (· ≠ '@')).dropLast, authority.rtakeWhile (· ≠ '@'))
  else (none, authority)

/-- The text before the first colon outside of brackets, and the text behind it. -/
def splitPort (inBrackets : Bool) : List Char → List Char × Option (List Char)
  | [] => ([], none)
  | char :: rest =>
    if char = ':' ∧ inBrackets = false then ([], some rest)
    else
      let (host, port) :=
        splitPort (if char = '[' then true else if char = ']' then false else inBrackets) rest
      (char :: host, port)

def parsePort (scheme : List Char) : Option (List Char) → Option (Option Nat)
  | none => some none
  | some [] => some none
  | some digits =>
    if digits.all Char.isDigit then
      let port := digits.foldl (fun value digit => 10 * value + (digit.toNat - 48)) 0
      if 65535 < port then none
      else if defaultPort scheme = some port then some none
      else some (some port)
    else none

def parseAuthority (parsers : Parsers) (scheme authority : List Char) : Option Authority := do
  let (userinfo, hostAndPort) := splitUserinfo authority
  if userinfo.isSome ∧ hostAndPort = [] then none
  else
    let credentials := userinfo.getD []
    let (hostText, portText) := splitPort false hostAndPort
    if hostText = [] ∧ (portText.isSome ∨ isSpecial scheme) then none
    else
      let host ← parseHost parsers (isSpecial scheme) hostText
      let port ← parsePort scheme portText
      some {
        username := encode inUserinfoSet (credentials.takeWhile (· ≠ ':'))
        password := encode inUserinfoSet (credentials.dropWhile (· ≠ ':')).tail
        host
        port }

end Authorities

section Paths

def isSingleDot (segment : List Char) : Bool :=
  let lower := Text.toAsciiLowercase segment
  lower == ".".toList || lower == "%2e".toList

def isDoubleDot (segment : List Char) : Bool :=
  let lower := Text.toAsciiLowercase segment
  lower == "..".toList || lower == ".%2e".toList || lower == "%2e.".toList ||
    lower == "%2e%2e".toList

/-- Segments are added to a path one by one; dots at the end of it leave an empty segment. -/
def addSegments (path : List (List Char)) : List (List Char) → List (List Char)
  | [] => path
  | [last] =>
    if isDoubleDot last then path.dropLast ++ [[]]
    else if isSingleDot last then path ++ [[]]
    else path ++ [last]
  | segment :: rest =>
    if isDoubleDot segment then addSegments path.dropLast rest
    else if isSingleDot segment then addSegments path rest
    else addSegments (path ++ [segment]) rest

def isSeparator (special : Bool) (char : Char) : Bool :=
  char = '/' || (special && char = '\\')

/-- The segments of a text behind the separator that it may begin with. -/
def parseSegments (special : Bool) (text : List Char) : List (List Char) :=
  addSegments [] ((text.splitOnP (isSeparator special)).map (encode inPathSet))

def parsePath (special : Bool) : List Char → List (List Char)
  | [] => if special then parseSegments special [] else []
  | first :: rest =>
    if isSeparator special first then parseSegments special rest
    else parseSegments special (first :: rest)

/-- A space right in front of a query or a fragment is encoded. -/
def parseVerbatim (marked : Bool) (text : List Char) : List Char :=
  if marked ∧ text.getLast? = some ' ' then encode inC0ControlSet text.dropLast ++ "%20".toList
  else encode inC0ControlSet text

def writeSegments (segments : List (List Char)) : List Char :=
  segments.flatMap fun segment => '/' :: segment

def Path.write : Path → List Char
  | .verbatim text => text
  | .segments parts => writeSegments parts

end Paths

section Parsing

variable (parsers : Parsers)

/-- The text before the first mark, and the text behind it if there is one. -/
def splitMark (mark : Char) (text : List Char) : List Char × Option (List Char) :=
  (text.takeWhile (· ≠ mark),
    match text.dropWhile (· ≠ mark) with
    | [] => none
    | _ :: rest => some rest)

/-- The authority and the path of a text that begins with the authority. -/
def parseHierarchy (scheme text : List Char) : Option (Authority × Path) := do
  let stop := isSeparator (isSpecial scheme)
  let authority ← parseAuthority parsers scheme (Text.before stop text)
  some (authority, .segments (parsePath (isSpecial scheme) (Text.fromStop stop text)))

def withAuthority (scheme : List Char) (query fragment : Option (List Char)) :
    Authority × Path → Url
  | (authority, path) => {
    scheme
    username := authority.username
    password := authority.password
    host := some authority.host
    port := authority.port
    path
    query
    fragment }

def withoutAuthority (scheme : List Char) (query fragment host : Option (List Char))
    (path : Path) : Url where
  scheme := scheme
  username := []
  password := []
  host := host
  port := none
  path := path
  query := query
  fragment := fragment

def cleaned (text : List Char) : List Char :=
  ((text.dropWhile isEdge).rdropWhile isEdge).filter fun char => !isTabOrNewline char

def parse (text : List Char) : Option Url := do
  let (scheme, rest) ← splitScheme (cleaned text)
  let (beforeFragment, fragmentText) := splitMark '#' rest
  let (body, queryText) := splitMark '?' beforeFragment
  let querySet := if isSpecial scheme then inSpecialQuerySet else inQuerySet
  let query := queryText.map (encode querySet)
  let fragment := fragmentText.map (encode inFragmentSet)
  if scheme = "file".toList then
    (parsers.parseFile body).map fun (host, path) =>
      withoutAuthority scheme query fragment host path
  else if isSpecial scheme then
    (parseHierarchy parsers scheme (body.dropWhile (isSeparator true))).map
      (withAuthority scheme query fragment)
  else
    match body with
    | '/' :: '/' :: hierarchy =>
      (parseHierarchy parsers scheme hierarchy).map (withAuthority scheme query fragment)
    | '/' :: segments =>
      some (withoutAuthority scheme query fragment none (.segments (parseSegments false segments)))
    | _ =>
      let marked := queryText.isSome || fragmentText.isSome
      some (withoutAuthority scheme query fragment none (.verbatim (parseVerbatim marked body)))

end Parsing

section Writing

def Url.writeAuthority (url : Url) (host : List Char) : List Char :=
  let credentials :=
    if url.username = [] ∧ url.password = [] then []
    else url.username ++ (if url.password = [] then [] else ':' :: url.password) ++ ['@']
  credentials ++ host ++ (url.port.map fun port => ':' :: Nat.toDigits 10 port).getD []

/-- A path that begins with two slashes is told from an authority by a dot in front of it. -/
def Url.writeHierarchy (url : Url) : List Char :=
  match url.host, url.path with
  | some host, path => '/' :: '/' :: url.writeAuthority host ++ path.write
  | none, .segments ([] :: next :: rest) => '/' :: '.' :: writeSegments ([] :: next :: rest)
  | none, path => path.write

def Url.writeWithoutFragment (url : Url) : List Char :=
  url.scheme ++ ':' :: url.writeHierarchy ++ (url.query.map ('?' :: ·)).getD []

def Url.write (url : Url) : List Char :=
  url.writeWithoutFragment ++ (url.fragment.map ('#' :: ·)).getD []

/-- The host, unless it is empty. -/
def Url.hostStr (url : Url) : Option (List Char) := url.host.filter (· ≠ [])

end Writing

section SchemeLemmas

variable {parsers : Parsers} {name rest start text : List Char} {char : Char} {url : Url}

theorem not_tabOrNewline_of_visible (visible : isEdge char = false) :
    isTabOrNewline char = false := by
  unfold isTabOrNewline
  simp only [Bool.or_eq_false_iff, decide_eq_false_iff_not]
  refine ⟨⟨?_, ?_⟩, ?_⟩ <;>
  · rintro rfl
    revert visible
    decide

theorem filter_visible (visible : ∀ char ∈ start, isEdge char = false) :
    (start.filter fun char => !isTabOrNewline char) = start := by
  rw [List.filter_eq_self]
  intro char isMember
  rw [not_tabOrNewline_of_visible (visible char isMember)]
  rfl

/-- Nothing is cleaned away in front of what follows visible characters. -/
theorem cleaned_append (visible : ∀ char ∈ start, isEdge char = false) (nonempty : start ≠ []) :
    cleaned (start ++ rest) =
      start ++ (rest.rdropWhile isEdge).filter fun char => !isTabOrNewline char := by
  obtain ⟨first, others, rfl⟩ := List.exists_cons_of_ne_nil nonempty
  have firstVisible := visible first List.mem_cons_self
  rw [cleaned, List.cons_append, List.dropWhile_cons_of_neg (by simp [firstVisible]),
    ← List.cons_append, Text.rdropWhile_append_of_neg visible, List.filter_append,
    filter_visible visible]

theorem isEdge_of_isSchemeChar (isName : isSchemeChar char = true) : isEdge char = false := by
  unfold isSchemeChar at isName
  simp only [Bool.or_eq_true, decide_eq_true_eq] at isName
  rcases isName with ((alphanum | rfl) | rfl) | rfl
  · have bounds := Text.isAlphanum_bounds alphanum
    simp only [isEdge, decide_eq_false_iff_not]
    omega
  · decide
  · decide
  · decide

theorem splitScheme_append (isName : ∀ char ∈ name, isSchemeChar char = true)
    (isLetter : name.head?.any Char.isAlpha = true) :
    splitScheme (name ++ ':' :: rest) = some (Text.toAsciiLowercase name, rest) := by
  have atColon : isSchemeChar ':' = false := by decide
  obtain ⟨first, others, rfl⟩ : ∃ first others, name = first :: others := by
    cases name with
    | nil => simp at isLetter
    | cons first others => exact ⟨first, others, rfl⟩
  unfold splitScheme
  rw [List.takeWhile_append_of_pos isName, List.dropWhile_append_of_pos isName,
    List.takeWhile_cons_of_neg (by simp [atColon]), List.dropWhile_cons_of_neg (by simp [atColon]),
    List.append_nil]
  simpa using isLetter

/-- A text with a scheme begins with its name and a colon. -/
theorem of_splitScheme {scheme behind : List Char}
    (isSplit : splitScheme text = some (scheme, behind)) :
    ∃ name, text = name ++ ':' :: behind ∧ (∀ char ∈ name, isSchemeChar char = true) ∧
      name.head?.any Char.isAlpha = true ∧ scheme = Text.toAsciiLowercase name := by
  have whole := List.takeWhile_append_dropWhile (p := isSchemeChar) (l := text)
  unfold splitScheme at isSplit
  dsimp only at isSplit
  split at isSplit
  · rename_i first rest isHead isRest
    simp only [Option.ite_none_right_eq_some, Option.some.injEq, Prod.mk.injEq] at isSplit
    obtain ⟨isLetter, rfl, rfl⟩ := isSplit
    refine ⟨text.takeWhile isSchemeChar, ?_, fun char => List.mem_takeWhile_imp, ?_, rfl⟩
    · rw [← isRest, whole]
    · obtain ⟨others, rfl⟩ : ∃ others, text = first :: others := List.head?_eq_some_iff.mp isHead
      have inName : isSchemeChar first = true := by
        simp [isSchemeChar, Char.isAlphanum, isLetter]
      simp [inName, isLetter]
  · cases isSplit

/-- The scheme of a text is that of every text it begins. -/
theorem splitScheme_extended {scheme behind : List Char}
    (isSplit : splitScheme text = some (scheme, behind)) (more : List Char) :
    splitScheme (text ++ more) = some (scheme, behind ++ more) := by
  obtain ⟨name, rfl, isName, isLetter, rfl⟩ := of_splitScheme isSplit
  rw [List.append_assoc, List.cons_append]
  exact splitScheme_append isName isLetter

/-- What is cleaned in front of a visible character does not depend on what follows it. -/
theorem cleaned_isPrefix (visible : isEdge char = false)
    (notEdge : ∃ other ∈ text, isEdge other = false) (more : List Char) :
    cleaned text <+: cleaned (text ++ char :: more) := by
  have startKept : (text ++ char :: more).dropWhile isEdge =
      text.dropWhile isEdge ++ char :: more := by
    obtain ⟨other, isMember, isVisible⟩ := notEdge
    rw [List.dropWhile_append, if_neg]
    rw [List.isEmpty_iff, List.dropWhile_eq_nil_iff]
    intro allEdge
    rw [allEdge other isMember] at isVisible
    cases isVisible
  unfold cleaned
  rw [startKept, Text.rdropWhile_append_cons visible, List.filter_append]
  exact ((List.rdropWhile_prefix _ _).filter _).trans (List.prefix_append _ _)

theorem exists_scheme_of_parse (parsed : parse parsers text = some url) :
    ∃ behind, splitScheme (cleaned text) = some (url.scheme, behind) := by
  unfold parse at parsed
  obtain ⟨⟨scheme, behind⟩, isSplit, parsed⟩ := Option.bind_eq_some_iff.mp parsed
  refine ⟨behind, ?_⟩
  have sameScheme : url.scheme = scheme := by
    dsimp only at parsed
    split at parsed
    · obtain ⟨found, -, rfl⟩ := Option.map_eq_some_iff.mp parsed
      rfl
    · split at parsed
      · obtain ⟨found, -, rfl⟩ := Option.map_eq_some_iff.mp parsed
        rfl
      · split at parsed
        · obtain ⟨found, -, rfl⟩ := Option.map_eq_some_iff.mp parsed
          rfl
        · cases parsed
          rfl
        · cases parsed
          rfl
  rw [isSplit, sameScheme]

/-- What a text begins with is its scheme. -/
theorem scheme_of_parse (isName : ∀ char ∈ name, isSchemeChar char = true)
    (isLetter : name.head?.any Char.isAlpha = true)
    (parsed : parse parsers (name ++ ':' :: rest) = some url) :
    url.scheme = Text.toAsciiLowercase name := by
  obtain ⟨behind, isSplit⟩ := exists_scheme_of_parse parsed
  have visible : ∀ char ∈ name ++ [':'], isEdge char = false := by
    intro char isMember
    rcases List.mem_append.mp isMember with inName | isColon
    · exact isEdge_of_isSchemeChar (isName char inName)
    · rw [List.mem_singleton.mp isColon]
      decide
  have isText : name ++ ':' :: rest = (name ++ [':']) ++ rest := by simp
  rw [isText, cleaned_append visible (by simp), List.append_assoc, List.singleton_append,
    splitScheme_append isName isLetter] at isSplit
  exact (Prod.mk.inj (Option.some.inj isSplit)).1.symm

end SchemeLemmas

section Ascii

variable {char : Char} {text : List Char} {byte : UInt8} {bytes : List UInt8}

theorem isHexDigit_ascii (isDigit : isHexDigit char = true) : char.toNat < 0x80 := by
  have code : char.toNat = char.val.toNat := rfl
  have nine : '9'.val.toNat = 57 := rfl
  have lower : 'f'.val.toNat = 102 := rfl
  have upper : 'F'.val.toNat = 70 := rfl
  simp only [isHexDigit, Char.isDigit, Bool.or_eq_true, Bool.and_eq_true, decide_eq_true_eq,
    Char.le_def, ge_iff_le, UInt32.le_iff_toNat_le] at isDigit
  omega

theorem hexByte_eq_none {high low : UInt8} (other : 0x80 ≤ high.toNat ∨ 0x80 ≤ low.toNat) :
    hexByte high low = none := by
  have sameCode (byte : UInt8) : (Char.ofNat byte.toNat).toNat = byte.toNat := by
    have small := byte.toNat_lt
    have isValid : byte.toNat.isValidChar := .inl (by omega)
    rw [Char.ofNat, dif_pos isValid]
    rfl
  unfold hexByte
  simp only [ite_eq_right_iff, Bool.and_eq_true, reduceCtorEq, imp_false, not_and]
  intro highDigit lowDigit
  have highSmall := isHexDigit_ascii highDigit
  have lowSmall := isHexDigit_ascii lowDigit
  rw [sameCode] at highSmall lowSmall
  omega

/-- No byte outside of ASCII is taken for a part of an escape. -/
theorem mem_percentDecode (isMember : byte ∈ bytes) (other : 0x80 ≤ byte.toNat) :
    byte ∈ percentDecode bytes := by
  induction bytes using percentDecode.induct with
  | case1 => cases isMember
  | case2 | case3 => exact isMember
  | case4 second third rest decoded isDecoded inductionHypothesis =>
      rw [percentDecode, if_pos rfl, isDecoded]
      apply List.mem_cons_of_mem
      rcases List.mem_cons.mp isMember with rfl | isMember
      · exact absurd other (by decide)
      rcases List.mem_cons.mp isMember with rfl | isMember
      · rw [hexByte_eq_none (.inl other)] at isDecoded
        cases isDecoded
      rcases List.mem_cons.mp isMember with rfl | inRest
      · rw [hexByte_eq_none (.inr other)] at isDecoded
        cases isDecoded
      · exact inductionHypothesis inRest
  | case5 second third rest undecoded inductionHypothesis =>
      rw [percentDecode, if_pos rfl, undecoded]
      rcases List.mem_cons.mp isMember with rfl | inRest
      · exact List.mem_cons_self
      · exact List.mem_cons_of_mem _ (inductionHypothesis inRest)
  | case6 first second third rest noEscape inductionHypothesis =>
      rw [percentDecode, if_neg noEscape]
      rcases List.mem_cons.mp isMember with rfl | inRest
      · exact List.mem_cons_self
      · exact List.mem_cons_of_mem _ (inductionHypothesis inRest)

theorem toLower_ofNat {code : Nat} (ascii : code < 0x80) :
    (Char.ofNat code).toLower.toNat < 0x80 ∧ (Char.ofNat code).toLower.isUpper = false := by
  revert code
  decide

/-- Parsers that put domains of ASCII into lower case, and know no others, no addresses and no
files. -/
def asciiParsers : Parsers where
  domainToAscii bytes :=
    if bytes.all (· < 0x80) then
      some (bytes.map fun byte => (Char.ofNat byte.toNat).toLower)
    else none
  parseIpv4 _ := none
  parseIpv6 _ := none
  parseFile _ := none
  ascii_lower := by
    intro bytes domain isDomain char isMember
    obtain ⟨small, isDomain⟩ := Option.ite_none_right_eq_some.mp isDomain
    obtain rfl := Option.some.inj isDomain
    obtain ⟨byte, isByte, rfl⟩ := List.mem_map.mp isMember
    apply toLower_ofNat
    exact UInt8.lt_iff_toNat_lt.mp (of_decide_eq_true (List.all_eq_true.mp small byte isByte))
  ascii_plain := by
    intro text domain plain isDomain
    obtain ⟨-, isDomain⟩ := Option.ite_none_right_eq_some.mp isDomain
    obtain rfl := Option.some.inj isDomain
    have ascii : ∀ char ∈ text, char.toNat < 0x80 := by
      intro char isMember
      rcases plain char isMember with alphanum | rfl | rfl
      · have bounds := Text.isAlphanum_bounds alphanum
        omega
      · decide
      · decide
    rw [Utf8.flatMap_utf8EncodeChar ascii, List.map_map]
    apply List.map_congr_left
    intro char isMember
    have small := ascii char isMember
    have sameCode : (UInt8.ofNat char.toNat).toNat = char.toNat := by
      rw [UInt8.toNat_ofNat']
      omega
    simp only [Function.comp_apply, sameCode, Char.ofNat_toNat]
  ascii_unspaced := by
    intro text char isMember _ other
    have nonempty : String.utf8EncodeChar char ≠ [] := String.utf8EncodeChar_ne_nil
    obtain ⟨byte, isByte⟩ := List.exists_mem_of_ne_nil _ nonempty
    have large := Utf8.utf8EncodeChar_nonascii other isByte
    have isDecoded := mem_percentDecode (List.mem_flatMap.mpr ⟨char, isMember, isByte⟩) large
    rw [if_neg]
    rw [List.all_eq_true]
    intro small
    have isSmall := UInt8.lt_iff_toNat_lt.mp (of_decide_eq_true (small byte isDecoded))
    have bound : (0x80 : UInt8).toNat = 0x80 := rfl
    omega

end Ascii

end Slate.Foundation.UrlStandard
