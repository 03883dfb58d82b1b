import Slate.Foundation.Utf8
import Slate.Foundation.UrlStandard
import Slate.Broadwebd.Http

/-!
# Content types and dispositions

A response without a telling content type is sniffed: a body that begins like a page is HTML,
and otherwise the path of the URL decides. The sniffing looks at the first bytes only, which need
not end with a character.
-/

namespace Slate.Broadwebd

open Foundation

section ContentTypes

def mediaType (contentType : List Char) : List Char :=
  Text.toAsciiLowercase (Text.trim (Text.before (· = ';') contentType))

def isGenericBinaryContentType (contentType : List Char) : Bool :=
  mediaType contentType = "application/octet-stream".toList ||
    mediaType contentType = "binary/octet-stream".toList

def isHtmlContentType : Option String → Bool
  | none => false
  | some contentType =>
    mediaType contentType.toList = "text/html".toList ||
      mediaType contentType.toList = "application/xhtml+xml".toList

def htmlPrefixes : List String :=
  ["<!doctype html", "<html", "<head", "<body", "<title", "<main", "<section", "<article",
    "<header", "<nav", "<div", "<p", "<h1", "<h2", "<h3", "<h4", "<h5", "<h6", "<style", "<script"]

def isHtmlBodyPrefix (start : List Char) : Bool :=
  htmlPrefixes.any fun htmlPrefix => decide (htmlPrefix.toList <+: start)

def contentTypeFromHtmlBody (body : List UInt8) : Option String :=
  match Utf8.decode (body.take 256) with
  | none => none
  | some start =>
    if isHtmlBodyPrefix (Text.toAsciiLowercase (start.dropWhile Text.isWhitespace)) then
      some "text/html; charset=utf-8"
    else none

/-- The text behind the last dot, or the whole text. -/
def extensionOf (path : List Char) : List Char := path.rtakeWhile (· ≠ '.')

def contentTypeOfExtension (extension : String) : Option String :=
  match extension with
  | "html" | "htm" => some "text/html; charset=utf-8"
  | "xhtml" => some "application/xhtml+xml"
  | "css" => some "text/css"
  | "js" | "mjs" => some "application/javascript"
  | "json" => some "application/json"
  | "svg" => some "image/svg+xml"
  | "png" => some "image/png"
  | "jpg" | "jpeg" => some "image/jpeg"
  | "gif" => some "image/gif"
  | "webp" => some "image/webp"
  | "ico" => some "image/x-icon"
  | "wasm" => some "application/wasm"
  | "txt" => some "text/plain; charset=utf-8"
  | _ => none

variable (parsers : UrlStandard.Parsers)

def contentTypeFromPath (url : String) : Option String :=
  (UrlStandard.parse parsers url.toList).bind fun url =>
    contentTypeOfExtension
      (String.ofList (extensionOf (Text.toAsciiLowercase url.path.write)))

def inferContentType (finalUrl : String) (headerContentType : Option String)
    (body : List UInt8) : Option String :=
  let headerContentType :=
    (headerContentType.map fun contentType => Text.trim contentType.toList).filter (· ≠ [])
  ((headerContentType.filter fun contentType =>
      !isGenericBinaryContentType contentType).map String.ofList) <|>
    contentTypeFromHtmlBody body <|> contentTypeFromPath parsers finalUrl <|>
    headerContentType.map String.ofList

end ContentTypes

section Dispositions

/-- The value of the first header of a name, whatever its case. -/
def headerValue (headers : List HttpHeader) (name : String) : Option String :=
  (headers.find? fun header =>
    Text.toAsciiLowercase header.name.toList == Text.toAsciiLowercase name.toList).map
      HttpHeader.value

def isAttachmentResponse (headers : List HttpHeader) : Bool :=
  (headerValue headers "content-disposition").any fun value =>
    Text.toAsciiLowercase (Text.trim (Text.before (· = ';') value.toList)) = "attachment".toList

def unquoteHeaderValue (value : List Char) : List Char :=
  match value with
  | '"' :: rest => if rest.getLast? = some '"' then rest.dropLast else value
  | _ => value

/-- The first parameter named `filename` that is not empty. -/
def contentDispositionFilename (headers : List HttpHeader) : Option String :=
  (headerValue headers "content-disposition").bind fun value =>
    ((value.toList.splitOn ';').drop 1).findSome? fun parameter =>
      (Text.splitOnce ['='] parameter).bind fun (name, value) =>
        if Text.toAsciiLowercase (Text.trim name) = "filename".toList then
          let filename := unquoteHeaderValue (Text.trim value)
          if filename = [] then none else some (String.ofList filename)
        else none

variable (parsers : UrlStandard.Parsers)

def suggestedFilename (finalUrl : String) : String :=
  let lastSegment :=
    (UrlStandard.parse parsers finalUrl.toList).bind fun url =>
      match url.path with
      | .verbatim _ => none
      | .segments segments => segments.getLast?
  ((lastSegment.filter (· ≠ [])).map String.ofList).getD "download"

def responseDisposition (statusCode : UInt16) (finalUrl : String) (contentType : Option String)
    (headers : List HttpHeader) : FetchDisposition :=
  if ¬(200 ≤ statusCode ∧ statusCode ≤ 299) then .errorPage statusCode
  else if isAttachmentResponse headers then
    .download ((contentDispositionFilename headers).getD (suggestedFilename parsers finalUrl))
  else if isHtmlContentType contentType then .renderHtml
  else .download (suggestedFilename parsers finalUrl)

def HttpFetchResponse.new (finalUrl : String) (statusCode : UInt16) (contentType : Option String)
    (headers : List HttpHeader) (body : List UInt8) : HttpFetchResponse where
  finalUrl := finalUrl
  statusCode := statusCode
  contentType := contentType
  headers := headers
  body := body
  disposition := responseDisposition parsers statusCode finalUrl contentType headers
  route := none
  download := none

end Dispositions

section Sniffing

variable {parsers : UrlStandard.Parsers} {text : List Char} {finalUrl : String}
  {header : Option String}

/-- Behind white space the text begins with the start of a page, whose bytes are among the first
ones. -/
def StartsAsPage (text : List Char) : Prop :=
  ∃ htmlPrefix ∈ htmlPrefixes,
    htmlPrefix.toList <+: Text.toAsciiLowercase (text.dropWhile Text.isWhitespace) ∧
      (Utf8.encode (text.takeWhile Text.isWhitespace)).length + htmlPrefix.length ≤ 256

/-- No content type, an empty one or that of any binary. -/
def Untelling (header : Option String) : Prop :=
  ∀ contentType ∈ header, Text.trim contentType.toList = [] ∨
    isGenericBinaryContentType (Text.trim contentType.toList)

/-- The first bytes of the text end with a character. -/
def CutBetweenCharacters (text : List Char) : Prop :=
  ∃ start, start <+: text ∧ Utf8.encode start = (Utf8.encode text).take 256

/-- The path of the URL ends like the name of a page. -/
def NamesPage (parsers : UrlStandard.Parsers) (finalUrl : String) : Prop :=
  ∃ url, UrlStandard.parse parsers finalUrl.toList = some url ∧
    extensionOf (Text.toAsciiLowercase url.path.write) ∈ ["html".toList, "htm".toList]

theorem toNat_lt_of_toLower {char : Char} (ascii : char.toLower.toNat < 0x80) :
    char.toNat < 0x80 := by
  unfold Char.toLower at ascii
  split at ascii
  · rename_i upper
    have atMost : char.val.toNat ≤ 90 := UInt32.le_iff_toNat_le.mp upper.2
    have code : char.toNat = char.val.toNat := rfl
    omega
  · exact ascii

theorem ascii_of_htmlPrefix {htmlPrefix : String} (isPrefix : htmlPrefix ∈ htmlPrefixes) :
    htmlPrefix.toList.head? = some '<' ∧ ∀ char ∈ htmlPrefix.toList, char.toNat < 0x80 := by
  have all : htmlPrefixes.all fun htmlPrefix => htmlPrefix.toList.head? = some '<' &&
      htmlPrefix.toList.all (·.toNat < 0x80) := by decide
  have isAscii := List.all_eq_true.mp all htmlPrefix isPrefix
  simpa only [Bool.and_eq_true, decide_eq_true_eq, List.all_eq_true] using isAscii

/-- Where the bytes are cut between characters, the start of a page is still there. -/
theorem contentTypeFromHtmlBody_of_cut (starts : StartsAsPage text)
    (cut : CutBetweenCharacters text) :
    contentTypeFromHtmlBody (Utf8.encode text) = some "text/html; charset=utf-8" := by
  obtain ⟨htmlPrefix, isHtml, ⟨behind, isStart⟩, inBounds⟩ := starts
  obtain ⟨start, -, isCut⟩ := cut
  obtain ⟨opens, ascii⟩ := ascii_of_htmlPrefix isHtml
  obtain ⟨page, rest, isRest, isPage, -⟩ := List.map_eq_append_iff.mp isStart.symm
  have isText : text = (text.takeWhile Text.isWhitespace ++ page) ++ rest := by
    rw [List.append_assoc, ← isRest, List.takeWhile_append_dropWhile]
  have pageAscii : ∀ char ∈ page, char.toNat < 0x80 := by
    intro char isMember
    apply toNat_lt_of_toLower
    apply ascii
    rw [← isPage]
    exact List.mem_map_of_mem isMember
  have pageLength : (Utf8.encode page).length = htmlPrefix.length := by
    rw [Utf8.encode, Utf8.flatMap_utf8EncodeChar pageAscii, List.length_map,
      ← String.length_toList, ← isPage, List.length_map]
  -- the start of the page lies before the cut
  have isFront : Utf8.encode (text.takeWhile Text.isWhitespace ++ page) <+: Utf8.encode start := by
    rw [isCut]
    apply List.prefix_take_iff.mpr
    constructor
    · conv_rhs => rw [isText]
      rw [Utf8.encode_append _ rest]
      exact List.prefix_append _ _
    · rw [Utf8.encode_append, List.length_append, pageLength]
      exact inBounds
  obtain ⟨bytesBehind, same⟩ := isFront
  obtain ⟨others, isOthers, -⟩ := Utf8.isPrefix_of_encode same
  have noSpace : page.head?.any Text.isWhitespace = false := by
    have pageOpens : (page.map Char.toLower).head? = some '<' := by rw [isPage, opens]
    rw [List.head?_map, Option.map_eq_some_iff] at pageOpens
    obtain ⟨first, isFirst, same⟩ := pageOpens
    rw [isFirst, Text.eq_of_toLower_eq same (by decide)]
    decide
  have trimmed : start.dropWhile Text.isWhitespace = page ++ others := by
    rw [isOthers, List.append_assoc, List.dropWhile_append_of_pos]
    · cases page with
      | nil =>
          have pageOpens : ([] : List Char).head? = some '<' := by
            rw [← opens, ← isPage]
            rfl
          cases pageOpens
      | cons first page =>
          apply List.dropWhile_cons_of_neg
          simpa using noSpace
    · intro char isMember
      exact List.mem_takeWhile_imp isMember
  unfold contentTypeFromHtmlBody
  rw [Utf8.decode_eq_some_iff.mpr isCut.symm]
  dsimp only
  rw [if_pos]
  apply List.any_eq_true.mpr
  refine ⟨htmlPrefix, isHtml, decide_eq_true ?_⟩
  rw [trimmed, Text.toAsciiLowercase, List.map_append, isPage]
  exact List.prefix_append _ _

theorem contentTypeFromHtmlBody_of_not_cut (inside : ¬CutBetweenCharacters text) :
    contentTypeFromHtmlBody (Utf8.encode text) = none := by
  unfold contentTypeFromHtmlBody
  cases decoded : Utf8.decode ((Utf8.encode text).take 256) with
  | none => rfl
  | some start =>
      have isCut := Utf8.decode_eq_some_iff.mp decoded
      have same : Utf8.encode start ++ (Utf8.encode text).drop 256 = Utf8.encode text := by
        rw [← isCut, List.take_append_drop]
      obtain ⟨behind, isText, -⟩ := Utf8.isPrefix_of_encode same
      exact absurd ⟨start, ⟨behind, isText.symm⟩, isCut.symm⟩ inside

theorem contentTypeOfExtension_eq_html_iff {extension : String} :
    contentTypeOfExtension extension = some "text/html; charset=utf-8" ↔
      extension = "html" ∨ extension = "htm" := by
  constructor
  · intro isHtml
    unfold contentTypeOfExtension at isHtml
    split at isHtml <;> simp at isHtml ⊢
  · rintro (rfl | rfl) <;> rfl

theorem contentTypeFromPath_eq_html_iff :
    contentTypeFromPath parsers finalUrl = some "text/html; charset=utf-8" ↔
      NamesPage parsers finalUrl := by
  unfold contentTypeFromPath NamesPage
  rw [Option.bind_eq_some_iff]
  apply exists_congr
  intro url
  apply and_congr_right
  intro _
  rw [contentTypeOfExtension_eq_html_iff, List.mem_cons, List.mem_singleton,
    ← String.toList_inj, ← String.toList_inj, String.toList_ofList]

/-- Without a telling header, what decides is the body and then the path. -/
theorem inferContentType_of_untelling {body : List UInt8} (untelling : Untelling header) :
    inferContentType parsers finalUrl header body = some "text/html; charset=utf-8" ↔
      contentTypeFromHtmlBody body = some "text/html; charset=utf-8" ∨
        contentTypeFromHtmlBody body = none ∧
          contentTypeFromPath parsers finalUrl = some "text/html; charset=utf-8" := by
  unfold inferContentType
  generalize isTrimmed : (header.map fun contentType => Text.trim contentType.toList).filter
    (· ≠ []) = trimmed
  have isGeneric : ∀ contentType ∈ trimmed, isGenericBinaryContentType contentType := by
    intro contentType isMember
    rw [← isTrimmed, Option.mem_def, Option.filter_eq_some_iff, Option.map_eq_some_iff] at isMember
    obtain ⟨⟨text, isHeader, rfl⟩, nonempty⟩ := isMember
    rcases untelling text isHeader with empty | generic
    · rw [empty] at nonempty
      cases nonempty
    · exact generic
  have noneSpecific :
      (trimmed.filter fun contentType => !isGenericBinaryContentType contentType) = none := by
    rw [Option.filter_eq_none_iff]
    intro contentType isMember
    simp [isGeneric contentType isMember]
  have fallback : trimmed.map String.ofList ≠ some "text/html; charset=utf-8" := by
    intro isHtml
    obtain ⟨contentType, isMember, same⟩ := Option.map_eq_some_iff.mp isHtml
    have generic := isGeneric contentType isMember
    rw [← String.toList_ofList (l := contentType), same] at generic
    revert generic
    decide
  dsimp only
  rw [noneSpecific]
  cases contentTypeFromHtmlBody body with
  | some contentType => simp
  | none =>
      cases contentTypeFromPath parsers finalUrl with
      | some contentType => simp
      | none => simpa using fallback

/-- A body that begins like a page is taken for one where its first bytes are cut between
characters; otherwise only the name of a page in the path makes it one. -/
theorem sniffed_iff (untelling : Untelling header) (starts : StartsAsPage text) :
    inferContentType parsers finalUrl header (Utf8.encode text) =
        some "text/html; charset=utf-8" ↔
      CutBetweenCharacters text ∨ NamesPage parsers finalUrl := by
  rw [inferContentType_of_untelling untelling, contentTypeFromPath_eq_html_iff]
  by_cases cut : CutBetweenCharacters text
  · simp [contentTypeFromHtmlBody_of_cut starts cut, cut]
  · simp [contentTypeFromHtmlBody_of_not_cut cut, cut]

end Sniffing

section Sample

/-- A page of which a character lies across the cut. -/
def samplePageText : List Char :=
  "<html>".toList ++ List.replicate 249 'a' ++ ['\u00E9']

theorem startsAsPage_samplePageText : StartsAsPage samplePageText :=
  ⟨"<html", by decide, by decide +kernel, by decide +kernel⟩

/-- A short page is sniffed. -/
theorem short_page_sniffed :
    inferContentType UrlStandard.asciiParsers "https://example.com/" none
        (Utf8.encode "<html>".toList) = some "text/html; charset=utf-8" := by
  apply (sniffed_iff _ _).mpr
  · exact .inl ⟨"<html>".toList, List.prefix_rfl, by decide⟩
  · simp [Untelling]
  · exact ⟨"<html", by decide, by decide, by decide⟩

/-- The same page is no HTML once a character lies across the cut. -/
theorem page_with_character_across_cut :
    Untelling none ∧ StartsAsPage samplePageText ∧
      inferContentType UrlStandard.asciiParsers "https://example.com/" none
        (Utf8.encode samplePageText) = none := by
  refine ⟨by simp [Untelling], startsAsPage_samplePageText, ?_⟩
  decide +kernel

end Sample

end Slate.Broadwebd
