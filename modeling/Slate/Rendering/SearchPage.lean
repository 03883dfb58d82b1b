import Slate.Browser.AddressRules

/-!
# The local search page

An input that is no address is written into a search address, and the page for the address shows
it as its heading. The address bar percent-encodes what the page does not decode.
-/

namespace Slate.Rendering

open Foundation Browser

section Html

def escapeHtmlChar (char : Char) : List Char :=
  if char = '&' then "&amp;".toList
  else if char = '<' then "&lt;".toList
  else if char = '>' then "&gt;".toList
  else if char = '"' then "&quot;".toList
  else if char = '\'' then "&#39;".toList
  else [char]

def escapeHtmlText (input : List Char) : List Char := input.flatMap escapeHtmlChar

/-- A text with the character references that escaping writes, as a page shows it. -/
def unescapeHtmlText : List Char → List Char
  | '&' :: 'a' :: 'm' :: 'p' :: ';' :: rest => '&' :: unescapeHtmlText rest
  | '&' :: 'l' :: 't' :: ';' :: rest => '<' :: unescapeHtmlText rest
  | '&' :: 'g' :: 't' :: ';' :: rest => '>' :: unescapeHtmlText rest
  | '&' :: 'q' :: 'u' :: 'o' :: 't' :: ';' :: rest => '"' :: unescapeHtmlText rest
  | '&' :: '#' :: '3' :: '9' :: ';' :: rest => '\'' :: unescapeHtmlText rest
  | char :: rest => char :: unescapeHtmlText rest
  | [] => []

theorem unescapeHtmlText_escapeHtmlText (input : List Char) :
    unescapeHtmlText (escapeHtmlText input) = input := by
  induction input with
  | nil => rfl
  | cons char rest inductionHypothesis =>
      have shown : unescapeHtmlText (escapeHtmlChar char ++ escapeHtmlText rest) =
          char :: unescapeHtmlText (escapeHtmlText rest) := by
        unfold escapeHtmlChar
        split
        · simp [*, unescapeHtmlText]
        split
        · simp [*, unescapeHtmlText]
        split
        · simp [*, unescapeHtmlText]
        split
        · simp [*, unescapeHtmlText]
        split
        · simp [*, unescapeHtmlText]
        rename_i notAmpersand _ _ _ _
        simp [unescapeHtmlText, notAmpersand]
      rw [escapeHtmlText, List.flatMap_cons]
      exact shown.trans (congrArg (char :: ·) inductionHypothesis)

/-- Escaped text opens no tag. -/
theorem not_mem_escapeHtmlText (input : List Char) : '<' ∉ escapeHtmlText input := by
  have each (char : Char) : '<' ∉ escapeHtmlChar char := by
    unfold escapeHtmlChar
    split
    · decide
    split
    · decide
    split
    · decide
    split
    · decide
    split
    · decide
    rename_i notOpening _ _ _
    simpa using Ne.symm notOpening
  intro isMember
  obtain ⟨char, -, isWritten⟩ := List.mem_flatMap.mp isMember
  exact each char isWritten

end Html

section Page

def searchPageHead : List Char :=
  "<!doctype html><html><head><meta charset=\"utf-8\"><title>Search</title>".toList ++
    "<style>body\x7bfont-family:sans-serif;margin:48px;color:#262626;background:#fbfaf8\x7d".toList ++
    "h1\x7bfont-size:34px;color:#0b6b68\x7dp\x7bfont-size:17px\x7d</style></head>".toList ++
    "<body>".toList

def searchPageFoot : List Char :=
  "<p>Local search surface.</p>".toList ++
    "<p>No remote search request has been issued.</p></body></html>".toList

def searchQuery (address : List Char) : List Char :=
  match Text.splitOnce "?q=".toList address with
  | some (_, value) => value.map fun char => if char = '+' then ' ' else char
  | none => []

def searchHtml (address : List Char) : List Char :=
  searchPageHead ++ "<h1>".toList ++ escapeHtmlText (searchQuery address) ++
    "</h1>".toList ++ searchPageFoot

/-- The text of the first heading of a page, as the page shows it. -/
def headingText (html : List Char) : Option (List Char) := do
  let (_, rest) ← Text.splitOnce "<h1>".toList html
  let (heading, _) ← Text.splitOnce "</h1>".toList rest
  some (unescapeHtmlText heading)

theorem splitOnce_of_head {text separator behind : List Char} {first : Char}
    (absent : first ∉ text) :
    Text.splitOnce (first :: separator) (text ++ first :: separator ++ behind) =
      some (text, behind) := by
  induction text with
  | nil => simp [Text.splitOnce]
  | cons head rest inductionHypothesis =>
      have other : first ≠ head := fun same => absent (same ▸ List.mem_cons_self ..)
      have absentInRest : first ∉ rest := fun isMember => absent (List.mem_cons_of_mem _ isMember)
      simp only [List.cons_append, Text.splitOnce, List.cons_prefix_cons, other, false_and,
        if_false]
      rw [inductionHypothesis absentInRest]
      rfl

/-- The page shows the query as its heading. -/
theorem headingText_searchHtml (address : List Char) :
    headingText (searchHtml address) = some (searchQuery address) := by
  have opened := @Text.splitOnce_append (searchPageHead ++ "<h1>".toList)
    searchPageHead [] "<h1>".toList (by decide +kernel)
    (escapeHtmlText (searchQuery address) ++ "</h1>".toList ++ searchPageFoot)
  have closed := @splitOnce_of_head (escapeHtmlText (searchQuery address)) "/h1>".toList
    searchPageFoot '<' (not_mem_escapeHtmlText _)
  have isPage : searchHtml address = searchPageHead ++ "<h1>".toList ++
      (escapeHtmlText (searchQuery address) ++ "</h1>".toList ++ searchPageFoot) := by
    simp only [searchHtml, List.append_assoc]
  have isEnd : "</h1>".toList = '<' :: "/h1>".toList := by decide
  rw [headingText, isPage, opened, isEnd]
  change (Text.splitOnce _ (escapeHtmlText (searchQuery address) ++ '<' :: "/h1>".toList ++
    searchPageFoot)).bind _ = _
  rw [closed]
  exact congrArg some (unescapeHtmlText_escapeHtmlText _)

end Page

section Queries

variable {directory trimmed address : List Char}

def isPlainQueryChar (char : Char) : Bool :=
  char.isAlphanum || char = '-' || char = '_' || char = '.' || char = '~'

/-- A text in which every white space is shown as a blank. -/
def spaced (text : List Char) : List Char :=
  text.map fun char => if Text.isWhitespace char then ' ' else char

/-- The characters that the bar writes as one character, which the page reads back. -/
def isReadBack (char : Char) : Bool := isPlainQueryChar char || Text.isWhitespace char

theorem encodeQueryChar_of_readBack {char : Char} (readBack : isReadBack char) :
    (encodeQueryChar char).map (fun char => if char = '+' then ' ' else char) =
      [if Text.isWhitespace char then ' ' else char] := by
  unfold encodeQueryChar
  split
  · rename_i plain
    have other : char ≠ '+' := by
      rintro rfl
      revert plain
      decide
    have noSpace : Text.isWhitespace char = false := by
      simp only [Bool.or_eq_true, decide_eq_true_eq] at plain
      rcases plain with (((alphanum | rfl) | rfl) | rfl) | rfl
      · exact Text.isWhitespace_of_alphanum alphanum
      all_goals decide
    simp [other, noSpace]
  · rename_i notPlain
    have space : Text.isWhitespace char = true := by
      rw [isReadBack, Bool.or_eq_true] at readBack
      exact readBack.resolve_left notPlain
    simp [space]

theorem encodeQueryChar_length (char : Char) :
    1 ≤ (encodeQueryChar char).length ∧
      ((encodeQueryChar char).length = 1 → isReadBack char) := by
  unfold encodeQueryChar
  split
  · rename_i plain
    exact ⟨by simp, fun _ => by simp [isReadBack, isPlainQueryChar, plain]⟩
  · split
    · rename_i space
      exact ⟨by simp, fun _ => by simp [isReadBack, space]⟩
    · obtain ⟨byte, bytes, isBytes⟩ :
          ∃ byte bytes, String.utf8EncodeChar char = byte :: bytes := by
        cases isBytes : String.utf8EncodeChar char with
        | nil =>
            have length := congrArg List.length isBytes
            rw [String.length_utf8EncodeChar] at length
            exact absurd length (by have := char.utf8Size_pos; simp; omega)
        | cons byte bytes => exact ⟨byte, bytes, rfl⟩
      rw [isBytes, List.flatMap_cons, List.length_append]
      have three : (Text.percentEncodeByte byte).length = 3 := rfl
      exact ⟨by omega, fun one => absurd one (by omega)⟩

/-- A query of the length of its input is read back as a whole. -/
theorem readBack_of_length (input : List Char) :
    input.length ≤ (encodeQuery input).length ∧
      ((encodeQuery input).length = input.length → ∀ char ∈ input, isReadBack char) := by
  induction input with
  | nil => simp [encodeQuery]
  | cons first rest inductionHypothesis =>
      obtain ⟨atLeast, same⟩ := inductionHypothesis
      obtain ⟨one, isOne⟩ := encodeQueryChar_length first
      rw [encodeQuery] at atLeast same
      rw [encodeQuery, List.flatMap_cons, List.length_append, List.length_cons]
      refine ⟨by omega, fun total char isMember => ?_⟩
      rcases List.mem_cons.mp isMember with rfl | inRest
      · exact isOne (by omega)
      · exact same (by omega) char inRest

theorem searchQuery_searchAddress (input : List Char) :
    searchQuery (searchAddress input) =
      (encodeQuery input).map fun char => if char = '+' then ' ' else char := by
  have found := @Text.splitOnce_append "slate://search?q=".toList "slate://search".toList
    [] "?q=".toList (by decide) (encodeQuery input)
  unfold searchQuery searchAddress
  rw [found, List.nil_append]

theorem searchQuery_searchAddress_iff (input : List Char) :
    searchQuery (searchAddress input) = spaced input ↔ ∀ char ∈ input, isReadBack char := by
  rw [searchQuery_searchAddress]
  constructor
  · intro same
    apply (readBack_of_length input).2
    simpa [spaced] using congrArg List.length same
  · intro readBack
    rw [encodeQuery, List.map_flatMap, spaced, List.map_eq_flatMap]
    apply List.flatMap_congr
    exact fun char isMember => encodeQueryChar_of_readBack (readBack char isMember)

/-- A query is shorter than its address. -/
theorem length_searchQuery_lt (nonempty : address ≠ []) :
    (searchQuery address).length < address.length := by
  have positive := List.length_pos_of_ne_nil nonempty
  unfold searchQuery
  split
  · rename_i front value found
    have length := congrArg List.length (Text.eq_of_splitOnce found)
    have three : "?q=".toList.length = 3 := by decide
    simp only [List.length_append, three] at length
    simp only [List.length_map]
    omega
  · exact positive

theorem searchQuery_of_rule (rule : AddressRule directory trimmed address)
    (isSearch : startsWith address "slate://search") :
    searchQuery address = spaced trimmed ↔ ∀ char ∈ trimmed, isReadBack char := by
  obtain ⟨behind, isAddress⟩ := startsWith_iff.mp isSearch
  have isInternal : address.head? = some 's' := by
    rw [← isAddress]
    exact head_append (by decide)
  rcases rule.internal isInternal with rfl | ⟨rfl, -⟩
  · exact searchQuery_searchAddress_iff trimmed
  · -- A search address that was entered itself stands in no query.
    have colon : ':' ∈ address := by
      rw [← isAddress]
      exact List.mem_append_left _ (by decide)
    apply iff_of_false
    · intro same
      have shorter := length_searchQuery_lt (List.ne_nil_of_mem colon)
      have length := congrArg List.length same
      simp only [spaced, List.length_map] at length
      omega
    · intro readBack
      have isColon := readBack ':' colon
      revert isColon
      decide

end Queries

/-- The search page of an address shows the input of which the address was made. -/
def ShowsInput (input address : String) : Prop :=
  headingText (searchHtml address.toList) = some (spaced (Text.trim input.toList))

instance (input address : String) : Decidable (ShowsInput input address) :=
  inferInstanceAs (Decidable (_ = _))

/-- The page shows the input where the bar had nothing to encode in it but white space. -/
theorem showsInput_iff (currentDirectory input address : String)
    (normalized : normalizeNavigationInput currentDirectory input = .ok address)
    (isSearch : startsWith address.toList "slate://search") :
    ShowsInput input address ↔ ∀ char ∈ Text.trim input.toList, isReadBack char := by
  have rule := navigationAddress_rule currentDirectory.toList (Text.trim input.toList)
  unfold normalizeNavigationInput at normalized
  simp only at normalized
  split at normalized
  · cases normalized
  · obtain rfl := Except.ok.inj normalized
    rw [String.toList_ofList] at isSearch
    rw [ShowsInput, String.toList_ofList, headingText_searchHtml, Option.some_inj]
    exact searchQuery_of_rule rule isSearch

/-- A search of two words is shown as it was entered. -/
theorem showsInput_two_words : ShowsInput "servo broadweb" "slate://search?q=servo+broadweb" := by
  have readBack : (Text.trim "servo broadweb".toList).all isReadBack = true := by decide +kernel
  apply (showsInput_iff "/" "servo broadweb" "slate://search?q=servo+broadweb" _ _).mpr
  · exact List.all_eq_true.mp readBack
  · decide +kernel
  · decide +kernel

/-- A percent sign that the bar writes is shown as such. -/
theorem encoded_mark_is_shown :
    ¬∀ currentDirectory input address : String,
      normalizeNavigationInput currentDirectory input = .ok address →
      startsWith address.toList "slate://search" → ShowsInput input address := by
  intro shows
  have shown := shows "/" "what is rust?" "slate://search?q=what+is+rust%3F" (by decide +kernel)
    (by decide +kernel)
  rw [ShowsInput, headingText_searchHtml] at shown
  revert shown
  decide +kernel

end Slate.Rendering
