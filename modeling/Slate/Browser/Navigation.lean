import Mathlib.Data.List.SplitOn
import Slate.Foundation.Text

/-!
# What the address bar makes of its input

The input is tried against nine rules in order: onion URLs, supported schemes, IPFS paths and
content names, onion names, local pages and plain hosts. What none of them takes is searched
for.
-/

namespace Slate.Browser

open Foundation

inductive NavigationError where
  | empty
  deriving DecidableEq, Repr

def startsWith (text : List Char) (start : String) : Bool := decide (start.toList <+: text)

def endsAuthority (char : Char) : Bool := char = '/' || char = '?' || char = '#'

section Onion

def isOnionLabel (label : List Char) : Bool :=
  !label.isEmpty && label.all fun char => char.isLower || char.isDigit || char = '-'

def isOnionHost (host : List Char) : Bool :=
  let host := Text.toAsciiLowercase (Text.trimEndMatches '.' host)
  if ".onion".toList <:+ host then
    let name := host.take (host.length - ".onion".length)
    !name.isEmpty && (name.splitOn '.').all isOnionLabel
  else false

/-- An onion host as it stands in a Tor address. -/
def onionHostText (host : List Char) : List Char :=
  Text.toAsciiLowercase (Text.trimEndMatches '.' host)

def normalizeOnionAddress (input : List Char) : Option (List Char) :=
  if input.any Text.isWhitespace then none
  else
    let name := Text.before endsAuthority input
    if !isOnionHost name then none
    else
      let address := "tor+http://".toList ++ onionHostText name
      match Text.fromStop endsAuthority input with
      | [] => some (address ++ ['/'])
      | '?' :: rest => some (address ++ '/' :: '?' :: rest)
      | rest => some (address ++ rest)

/-- The scheme of an HTTP URL and what stands behind its slashes. -/
def splitHttpScheme (input : List Char) : Option (String × List Char) :=
  let lower := Text.toAsciiLowercase input
  if startsWith lower "http://" then some ("http", input.drop "http://".length)
  else if startsWith lower "https://" then some ("https", input.drop "https://".length)
  else none

def normalizeHttpOnionUrl (input : List Char) : Option (List Char) := do
  let (sourceScheme, rest) ← splitHttpScheme input
  let authority := Text.before endsAuthority rest
  if authority = [] ∨ '@' ∈ authority then none
  else
    let (host, port) := (Text.splitOnce [':'] authority).getD (authority, [])
    if !isOnionHost host then none
    else if port ≠ [] ∧ !port.all Char.isDigit then none
    else
      let address := "tor+".toList ++ sourceScheme.toList ++ "://".toList ++ onionHostText host ++
        (if port = [] then [] else ':' :: port)
      match Text.before (· = '#') (Text.fromStop endsAuthority rest) with
      | [] => some (address ++ ['/'])
      | '?' :: suffix => some (address ++ '/' :: '?' :: suffix)
      | suffix => some (address ++ suffix)

def isHttpUrlWithOnionHint (lower : List Char) : Bool :=
  (startsWith lower "http://" || startsWith lower "https://") &&
    Text.contains lower ".onion".toList

end Onion

section Ipfs

def normalizeIpfsPathAddress (input : List Char) : Option (List Char) :=
  let path := if input.head? = some '/' then input.drop 1 else input
  let lower := Text.toAsciiLowercase path
  let scheme :=
    if startsWith lower "ipfs/" then some "ipfs"
    else if startsWith lower "ipns/" then some "ipns"
    else none
  match scheme with
  | none => none
  | some scheme =>
    let rest := path.drop "ipfs/".length
    if rest = [] ∨ rest.any Text.isWhitespace then none
    else if Text.before endsAuthority rest = [] then none
    else some (scheme.toList ++ "://".toList ++ rest)

def isCidv0Like (input : List Char) : Bool :=
  input.length = 46 && startsWith input "Qm" &&
    input.all fun char =>
      "123456789ABCDEFGHJKLMNPQRSTUVWXYZabcdefghijkmnopqrstuvwxyz".toList.contains char

def isCidv1Base32Like (input : List Char) : Bool :=
  32 ≤ input.length && (startsWith input "bafy" || startsWith input "bafk") &&
    input.all fun char => char.isLower || ('2' ≤ char && char ≤ '7')

def normalizeBareIpfsCid (input : List Char) : Option (List Char) :=
  if isCidv0Like input then some ("ipfs://".toList ++ input)
  else
    let lower := Text.toAsciiLowercase input
    if isCidv1Base32Like lower && input.all Char.isAlphanum then
      some ("ipfs://".toList ++ lower)
    else none

end Ipfs

section Search

def encodeQueryChar (char : Char) : List Char :=
  if char.isAlphanum || char = '-' || char = '_' || char = '.' || char = '~' then [char]
  else if Text.isWhitespace char then ['+']
  else (String.utf8EncodeChar char).flatMap Text.percentEncodeByte

def encodeQuery (input : List Char) : List Char := input.flatMap encodeQueryChar

def searchAddress (input : List Char) : List Char :=
  "slate://search?q=".toList ++ encodeQuery input

end Search

section LocalFiles

def looksLikeLocalHtmlPath (lower : List Char) : Bool :=
  decide (".html".toList <:+ lower) || decide (".htm".toList <:+ lower)

def isPlainPathByte (byte : UInt8) : Bool :=
  let char := Char.ofNat byte.toNat
  char.isAlphanum || char = '/' || char = '.' || char = '-' || char = '_' || char = '~'

def percentEncodeFilePath (input : List Char) : List Char :=
  (input.flatMap String.utf8EncodeChar).flatMap fun byte =>
    if isPlainPathByte byte then [Char.ofNat byte.toNat] else Text.percentEncodeByte byte

/-- The text of a path below a directory. -/
def joinPath (directory path : List Char) : List Char :=
  if path.head? = some '/' then path
  else if directory = [] ∨ directory.getLast? = some '/' then directory ++ path
  else directory ++ '/' :: path

def localFileAddress (currentDirectory input : List Char) : List Char :=
  "file://".toList ++ percentEncodeFilePath (joinPath currentDirectory input)

end LocalFiles

section Hosts

def isIpv4Segment (segment : List Char) : Bool := !segment.isEmpty && segment.all Char.isDigit

def isIpv4Like (input : List Char) : Bool :=
  let segments := input.splitOn '.'
  segments.all isIpv4Segment && segments.length = 4

def looksLikeHost (input : List Char) : Bool :=
  !input.any Text.isWhitespace &&
    (input.contains '.' || startsWith input "localhost" ||
      isIpv4Like (Text.before (· = ':') input))

end Hosts

def hasSupportedScheme (lower : List Char) : Bool :=
  startsWith lower "slate://" || startsWith lower "https://" || startsWith lower "http://" ||
    startsWith lower "tor+http://" || startsWith lower "tor+https://" ||
    startsWith lower "ipfs://" || startsWith lower "ipns://" || startsWith lower "i2p://" ||
    startsWith lower "gemini://" || startsWith lower "magnet:" || startsWith lower "file://"

/-- The address of an input that is not empty. The directory is the one in which a relative
path is looked up. -/
def navigationAddress (currentDirectory trimmed : List Char) : List Char :=
  let lower := Text.toAsciiLowercase trimmed
  match normalizeHttpOnionUrl trimmed with
  | some address => address
  | none =>
  if isHttpUrlWithOnionHint lower then searchAddress trimmed
  else if hasSupportedScheme lower then trimmed
  else
  match normalizeIpfsPathAddress trimmed with
  | some address => address
  | none =>
  match normalizeBareIpfsCid trimmed with
  | some address => address
  | none =>
  match normalizeOnionAddress trimmed with
  | some address => address
  | none =>
  if looksLikeLocalHtmlPath lower then localFileAddress currentDirectory trimmed
  else if Text.contains lower "://".toList then searchAddress trimmed
  else if looksLikeHost trimmed then
    if startsWith lower "localhost" || Text.contains lower ".i2p".toList then
      "http://".toList ++ trimmed
    else "https://".toList ++ trimmed
  else searchAddress trimmed

def normalizeNavigationInput (currentDirectory input : String) : Except NavigationError String :=
  let trimmed := Text.trim input.toList
  if trimmed = [] then .error .empty
  else .ok (String.ofList (navigationAddress currentDirectory.toList trimmed))

end Slate.Browser
