import Slate.Foundation.Occurrence
import Slate.Rendering.AddressRouting
import Slate.Rendering.SearchPage

/-!
# The base of a document

A document from the daemon gets a base tag for its address. Where it goes is found by a search for
the beginning of a tag, in a text that is not read as HTML: a longer name, a comment or a quoted
`>` is taken for what it looks like.
-/

namespace Slate.Rendering

open Foundation

section Insertion

def containsBaseTag (html : List Char) : Bool :=
  Text.contains (Text.toAsciiLowercase html) "<base".toList

def openingTagEnd (html tagStart : List Char) : Option Nat := do
  let start ← positionOf tagStart (Text.toAsciiLowercase html)
  let offset ← positionOf ['>'] (html.drop start)
  pure (start + offset + 1)

def insertAt (input : List Char) (index : Nat) (value : List Char) : List Char :=
  input.take index ++ value ++ input.drop index

def insertHeadChild (html child : List Char) : List Char :=
  match openingTagEnd html "<head".toList with
  | some position => insertAt html position child
  | none =>
    let head := "<head>".toList ++ child ++ "</head>".toList
    match openingTagEnd html "<html".toList with
    | some position => insertAt html position head
    | none => head ++ html

def baseTag (address : String) : List Char :=
  "<base href=\"".toList ++ escapeHtmlText address.toList ++ "\">".toList

def broadwebHtmlWithDocumentBase (parsers : UrlStandard.Parsers) (address : String)
    (html : List Char) : List Char :=
  if !hasBroadwebdServiceScheme parsers address || containsBaseTag html then html
  else insertHeadChild html (baseTag address)

end Insertion

section Tags

/-- An opening tag: its name in lower case, and the text behind the tag. -/
structure OpeningTag where
  name : List Char
  behind : List Char
  deriving DecidableEq, Repr

def isTagSpace (char : Char) : Bool :=
  char = ' ' || char = '\t' || char = '\n' || char = '\r' || char.toNat = 12

def isTagNameChar (char : Char) : Bool := !(isTagSpace char || char = '/' || char = '>')

/-- Where in a tag its attributes are read. -/
inductive AttributeState where
  | between
  | name
  | afterName
  | beforeValue
  | unquoted
  | quoted (mark : Char)
  deriving DecidableEq, Repr

/-- The state behind a character, unless the character ends the tag. -/
def AttributeState.next (state : AttributeState) (char : Char) : Option AttributeState :=
  match state with
  | .quoted mark => some (if char = mark then .between else .quoted mark)
  | .between =>
    if char = '>' then none
    else if isTagSpace char || char = '/' then some .between
    else some .name
  | .name | .afterName =>
    if char = '>' then none
    else if isTagSpace char then some .afterName
    else if char = '/' then some .between
    else if char = '=' then some .beforeValue
    else some .name
  | .beforeValue =>
    if char = '>' then none
    else if isTagSpace char then some .beforeValue
    else if char = '"' || char = '\'' then some (.quoted char)
    else some .unquoted
  | .unquoted =>
    if char = '>' then none
    else if isTagSpace char then some .between
    else some .unquoted

/-- The text behind a tag. -/
def behindTag : AttributeState → List Char → Option (List Char)
  | _, [] => none
  | state, char :: rest =>
    match state.next char with
    | none => some rest
    | some state => behindTag state rest

def behindMark (text : List Char) : List Char := (text.dropWhile (· ≠ '>')).drop 1

def behindDashes : List Char → List Char
  | [] => []
  | char :: rest =>
    if "-->".toList <+: char :: rest then rest.drop 2
    else if "--!>".toList <+: char :: rest then rest.drop 3
    else behindDashes rest

/-- The text behind a comment, from what follows its four opening characters. -/
def behindComment (text : List Char) : List Char :=
  if ['>'] <+: text then text.drop 1
  else if "->".toList <+: text then text.drop 2
  else behindDashes text

/-- The elements whose content is text. -/
def textElements : List String :=
  ["title", "textarea", "style", "xmp", "iframe", "noembed", "noframes", "script"]

def endsElement (name text : List Char) : Bool :=
  decide ("</".toList ++ name <+: Text.toAsciiLowercase text) &&
    (text.drop (name.length + 2)).head?.any fun char => !isTagNameChar char

def fromElementEnd (name : List Char) : List Char → List Char
  | [] => []
  | char :: rest =>
    if endsElement name (char :: rest) then char :: rest else fromElementEnd name rest

/-- The text behind the content of an element that begins with a text. -/
def behindContent (name text : List Char) : List Char :=
  if name = "plaintext".toList then []
  else if (textElements.map String.toList).contains name then fromElementEnd name text
  else text

/-- The opening tags of a text, as the tokens of HTML have them. -/
def openingTagsWithin : Nat → List Char → List OpeningTag
  | 0, _ => []
  | _ + 1, [] => []
  | fuel + 1, first :: rest =>
    if first ≠ '<' then openingTagsWithin fuel rest
    else if "!--".toList <+: rest then openingTagsWithin fuel (behindComment (rest.drop 3))
    else if rest.head?.any fun char => char = '!' || char = '?' then
      openingTagsWithin fuel (behindMark rest)
    else if rest.head?.any (· = '/') then
      if (rest.drop 1).head?.any Char.isAlpha then
        openingTagsWithin fuel
          ((behindTag .between (rest.drop 1 |>.dropWhile isTagNameChar)).getD [])
      else openingTagsWithin fuel (behindMark rest)
    else if rest.head?.any Char.isAlpha then
      let name := Text.toAsciiLowercase (rest.takeWhile isTagNameChar)
      match behindTag .between (rest.dropWhile isTagNameChar) with
      | none => []
      | some behind => ⟨name, behind⟩ :: openingTagsWithin fuel (behindContent name behind)
    else openingTagsWithin fuel rest

def openingTags (html : List Char) : List OpeningTag := openingTagsWithin html.length html

/-- Where the first opening tag of a name ends. -/
def firstTagEnd (html : List Char) (name : String) : Option Nat :=
  ((openingTags html).find? fun tag => tag.name = name.toList).map fun tag =>
    html.length - tag.behind.length

end Tags

section Suffixes

variable {text behind name : List Char} {tag : OpeningTag}

theorem behindMark_suffix (text : List Char) : behindMark text <:+ text :=
  (List.drop_suffix _ _).trans (List.dropWhile_suffix _)

theorem behindDashes_suffix (text : List Char) : behindDashes text <:+ text := by
  induction text with
  | nil => exact List.suffix_refl _
  | cons char rest inductionHypothesis =>
      rw [behindDashes]
      split
      · exact (List.drop_suffix _ _).trans (List.suffix_cons char rest)
      · split
        · exact (List.drop_suffix _ _).trans (List.suffix_cons char rest)
        · exact inductionHypothesis.trans (List.suffix_cons char rest)

theorem behindComment_suffix (text : List Char) : behindComment text <:+ text := by
  unfold behindComment
  split
  · exact List.drop_suffix _ _
  · split
    · exact List.drop_suffix _ _
    · exact behindDashes_suffix text

theorem behindTag_suffix {state : AttributeState} (ends : behindTag state text = some behind) :
    behind <:+ text := by
  induction text generalizing state with
  | nil => cases ends
  | cons char rest inductionHypothesis =>
      rw [behindTag] at ends
      split at ends
      · rw [← Option.some.inj ends]
        exact List.suffix_cons char rest
      · exact (inductionHypothesis ends).trans (List.suffix_cons char rest)

theorem fromElementEnd_suffix (text : List Char) : fromElementEnd name text <:+ text := by
  induction text with
  | nil => exact List.suffix_refl _
  | cons char rest inductionHypothesis =>
      rw [fromElementEnd]
      split
      · exact List.suffix_refl _
      · exact inductionHypothesis.trans (List.suffix_cons char rest)

theorem behindContent_suffix (text : List Char) : behindContent name text <:+ text := by
  unfold behindContent
  split
  · exact List.nil_suffix
  · split
    · exact fromElementEnd_suffix text
    · exact List.suffix_refl _

/-- What follows a tag is a proper end of the text. -/
theorem behind_suffix (fuel : Nat) (isTag : tag ∈ openingTagsWithin fuel text) :
    tag.behind <:+ text.drop 1 := by
  induction fuel generalizing text with
  | zero => cases isTag
  | succ fuel inductionHypothesis =>
      cases text with
      | nil => cases isTag
      | cons first rest =>
          have later {remaining : List Char} (isEnd : remaining <:+ rest)
              (inEnd : tag ∈ openingTagsWithin fuel remaining) : tag.behind <:+ rest :=
            ((inductionHypothesis inEnd).trans (List.drop_suffix 1 remaining)).trans isEnd
          rw [List.drop_one, List.tail_cons]
          rw [openingTagsWithin] at isTag
          split at isTag
          · exact later (List.suffix_refl _) isTag
          · split at isTag
            · exact later ((behindComment_suffix _).trans (List.drop_suffix 3 rest)) isTag
            · split at isTag
              · exact later (behindMark_suffix _) isTag
              · split at isTag
                · split at isTag
                  · apply later _ isTag
                    cases ends : behindTag .between ((rest.drop 1).dropWhile isTagNameChar) with
                    | none => exact List.nil_suffix
                    | some behind =>
                        exact ((behindTag_suffix ends).trans (List.dropWhile_suffix _)).trans
                          (List.drop_suffix 1 rest)
                  · exact later (behindMark_suffix _) isTag
                · split at isTag
                  · simp only at isTag
                    split at isTag
                    · cases isTag
                    · rename_i behind ends
                      have isEnd := (behindTag_suffix ends).trans (List.dropWhile_suffix _)
                      rcases List.mem_cons.mp isTag with rfl | inRest
                      · exact isEnd
                      · exact later ((behindContent_suffix behind).trans isEnd) inRest
                  · exact later (List.suffix_refl _) isTag

theorem firstTagEnd_pos {html : List Char} {stop : Nat}
    {field : String} (isEnd : firstTagEnd html field = some stop) :
    0 < stop ∧ stop ≤ html.length := by
  obtain ⟨tag, found, rfl⟩ := Option.map_eq_some_iff.mp isEnd
  have shorter := (behind_suffix html.length (List.mem_of_find?_eq_some found)).length_le
  have nonempty : html ≠ [] := by
    rintro rfl
    cases found
  have positive := List.length_pos_of_ne_nil nonempty
  rw [List.length_drop] at shorter
  omega

end Suffixes

section Searches

variable {html tagStart : List Char} {stop : Nat}

/-- The first beginning of a tag, in any case, and the first `>` behind it, which stands before
the position. -/
def EndsFirst (html tagStart : List Char) (stop : Nat) : Prop :=
  ∃ front start middle back, html = front ++ (start ++ (middle ++ '>' :: back)) ∧
    Text.toAsciiLowercase start = tagStart ∧
    ¬tagStart <:+: Text.toAsciiLowercase front ++ tagStart.dropLast ∧ '>' ∉ start ++ middle ∧
    stop = front.length + (start ++ middle).length + 1

/-- No beginning of a tag has a `>` behind it. -/
def NeverEnds (html tagStart : List Char) : Prop :=
  ∀ front start back, html = front ++ (start ++ back) →
    Text.toAsciiLowercase start = tagStart → '>' ∉ start ++ back

theorem positionOf_mark_iff {text : List Char} {position : Nat} :
    positionOf ['>'] text = some position ↔
      ∃ middle back, text = middle ++ '>' :: back ∧ '>' ∉ middle ∧
        middle.length = position := by
  constructor
  · intro found
    obtain ⟨middle, back, rfl, rfl, isFirst⟩ := exists_of_positionOf (by simp) found
    refine ⟨middle, back, rfl, fun isMark => isFirst ?_, rfl⟩
    exact (List.singleton_infix_iff _ _).mpr (List.mem_append_left _ isMark)
  · rintro ⟨middle, back, rfl, noMark, rfl⟩
    apply @positionOf_append _ ['>'] middle back _ (by simp)
    intro within
    apply noMark
    simpa using (List.singleton_infix_iff _ _).mp within

theorem not_mem_of_toAsciiLowercase {start : List Char} (noMark : '>' ∉ tagStart)
    (isStart : Text.toAsciiLowercase start = tagStart) : '>' ∉ start := by
  intro isMark
  apply noMark
  rw [← isStart]
  exact Text.mem_toAsciiLowercase isMark (by decide)

/-- A part of the text in lower case is that of a part of the text. -/
theorem toAsciiLowercase_eq_append {front start back : List Char}
    (same : Text.toAsciiLowercase html = front ++ (start ++ back)) :
    ∃ htmlFront htmlStart htmlBack, html = htmlFront ++ (htmlStart ++ htmlBack) ∧
      Text.toAsciiLowercase htmlFront = front ∧ Text.toAsciiLowercase htmlStart = start ∧
      htmlFront.length = front.length := by
  obtain ⟨htmlFront, rest, rfl, rfl, isRest⟩ := List.map_eq_append_iff.mp same
  obtain ⟨htmlStart, htmlBack, rfl, rfl, -⟩ := List.map_eq_append_iff.mp isRest
  exact ⟨htmlFront, htmlStart, htmlBack, rfl, rfl, rfl, (List.length_map _).symm⟩

theorem openingTagEnd_eq_some_iff (nonempty : tagStart ≠ []) (noMark : '>' ∉ tagStart) :
    openingTagEnd html tagStart = some stop ↔ EndsFirst html tagStart stop := by
  rw [openingTagEnd, Option.bind_eq_bind, Option.bind_eq_some_iff]
  constructor
  · rintro ⟨position, found, ends⟩
    obtain ⟨offset, foundMark, isStop⟩ := Option.bind_eq_some_iff.mp ends
    obtain ⟨front, back, isLower, rfl, isFirst⟩ := exists_of_positionOf nonempty found
    obtain ⟨htmlFront, start, htmlBack, rfl, rfl, isStart, length⟩ :=
      toAsciiLowercase_eq_append isLower
    rw [← length, List.drop_left] at foundMark
    obtain ⟨middle, behind, isText, noMarkBefore, rfl⟩ := positionOf_mark_iff.mp foundMark
    have notInStart := not_mem_of_toAsciiLowercase noMark isStart
    rcases List.append_eq_append_iff.mp isText with ⟨more, rfl, rfl⟩ | ⟨more, rfl, isBehind⟩
    · refine ⟨htmlFront, start, more, behind, by simp, isStart, isFirst, noMarkBefore, ?_⟩
      rw [length]
      exact (Option.some.inj isStop).symm
    · cases more with
      | nil =>
          refine ⟨htmlFront, middle, [], behind, by simp [isBehind], by simpa using isStart,
            isFirst, by simpa using noMarkBefore, ?_⟩
          rw [length, List.append_nil]
          exact (Option.some.inj isStop).symm
      | cons mark more =>
          obtain ⟨rfl, -⟩ := List.cons.inj isBehind
          exact absurd (List.mem_append_right _ List.mem_cons_self) notInStart
  · rintro ⟨front, start, middle, back, rfl, isStart, isFirst, noMarkBefore, rfl⟩
    refine ⟨front.length, ?_, ?_⟩
    · have found := @positionOf_append _ tagStart (Text.toAsciiLowercase front)
        (Text.toAsciiLowercase (middle ++ '>' :: back)) _ nonempty isFirst
      have length : (Text.toAsciiLowercase front).length = front.length := List.length_map _
      rw [Text.toAsciiLowercase_append, Text.toAsciiLowercase_append, isStart, found, length]
    · rw [List.drop_left, ← List.append_assoc, positionOf_mark_iff.mpr
        ⟨start ++ middle, back, rfl, noMarkBefore, rfl⟩]
      rfl

theorem openingTagEnd_eq_none_iff (nonempty : tagStart ≠ []) :
    openingTagEnd html tagStart = none ↔ NeverEnds html tagStart := by
  rw [openingTagEnd, Option.bind_eq_bind]
  constructor
  · intro noEnd front start back isText isStart isMark
    have isLower : Text.toAsciiLowercase html =
        Text.toAsciiLowercase front ++ (tagStart ++ Text.toAsciiLowercase back) := by
      rw [isText, Text.toAsciiLowercase_append, Text.toAsciiLowercase_append, isStart]
    obtain ⟨position, atMost, found⟩ :=
      positionOf_le nonempty (Text.toAsciiLowercase front) (Text.toAsciiLowercase back)
    have length : (Text.toAsciiLowercase front).length = front.length := List.length_map _
    rw [isLower, found, Option.bind_some] at noEnd
    have isBehind : start ++ back <:+ html.drop position := by
      rw [isText, List.drop_append_of_le_length (by omega)]
      exact List.suffix_append _ _
    obtain ⟨middle, behind, isSplit⟩ := List.append_of_mem (isBehind.subset isMark)
    obtain ⟨offset, -, foundMark⟩ := @positionOf_le _ ['>'] _ (by simp) middle behind
    rw [isSplit] at noEnd
    rw [List.singleton_append] at foundMark
    rw [foundMark] at noEnd
    cases noEnd
  · intro neverEnds
    cases found : positionOf tagStart (Text.toAsciiLowercase html) with
    | none => rfl
    | some position =>
        obtain ⟨front, back, isLower, rfl, -⟩ := exists_of_positionOf nonempty found
        obtain ⟨htmlFront, start, htmlBack, rfl, rfl, isStart, length⟩ :=
          toAsciiLowercase_eq_append isLower
        have noMark := neverEnds htmlFront start htmlBack rfl isStart
        rw [Option.bind_some, ← length, List.drop_left, positionOf_eq_none]
        · rfl
        · exact fun isMark => noMark ((List.singleton_infix_iff _ _).mp isMark)

end Searches

section Places

variable {html base : List Char} {place other : DocumentBasePlace}

/-- Where a base tag goes: behind the tag of the head, or in a new head. -/
inductive DocumentBasePlace where
  | inHead (position : Nat)
  | inNewHead (position : Nat)
  deriving DecidableEq, Repr

namespace DocumentBasePlace

def position : DocumentBasePlace → Nat
  | .inHead position => position
  | .inNewHead position => position

/-- What is inserted in front of the base tag and behind it. -/
def wrapper : DocumentBasePlace → List Char × List Char
  | .inHead _ => ([], [])
  | .inNewHead _ => ("<head>".toList, "</head>".toList)

def insert (html base : List Char) (place : DocumentBasePlace) : List Char :=
  html.take place.position ++ (place.wrapper.1 ++ base ++ place.wrapper.2) ++
    html.drop place.position

end DocumentBasePlace

/-- Behind the first tag of the head, else in a new head behind the first tag of the document,
else in a new head at the beginning. -/
def documentBasePlace (html : List Char) : DocumentBasePlace :=
  match firstTagEnd html "head" with
  | some position => .inHead position
  | none => .inNewHead ((firstTagEnd html "html").getD 0)

def searchedPlace (html : List Char) : DocumentBasePlace :=
  match openingTagEnd html "<head".toList with
  | some position => .inHead position
  | none => .inNewHead ((openingTagEnd html "<html".toList).getD 0)

theorem insertHeadChild_eq (html child : List Char) :
    insertHeadChild html child = (searchedPlace html).insert html child := by
  rw [insertHeadChild, searchedPlace]
  cases openingTagEnd html "<head".toList with
  | some position => simp [DocumentBasePlace.insert, DocumentBasePlace.position,
      DocumentBasePlace.wrapper, insertAt]
  | none =>
      cases openingTagEnd html "<html".toList with
      | some position => rfl
      | none => rfl

/-- A window whose first item occurs only once in it does not stand across such an item. -/
theorem infix_append_of_head {Item : Type} {first : Item} {window front back : List Item}
    (once : first ∉ window) (within : first :: window <:+: front ++ first :: back) :
    first :: window <:+: front ∨ first :: window <:+: first :: back := by
  induction front with
  | nil => exact .inr within
  | cons item front inductionHypothesis =>
      rw [List.cons_append, List.infix_cons_iff] at within
      rcases within with here | later
      · left
        apply List.IsPrefix.isInfix
        rw [← List.cons_append] at here
        apply List.prefix_of_prefix_length_le here (List.prefix_append _ _)
        by_contra longer
        have inside : (item :: front).length < (first :: window).length := Nat.lt_of_not_le longer
        have same := here.getElem inside
        rw [List.getElem_append_right le_rfl] at same
        simp only [List.length_cons, Nat.sub_self, List.getElem_cons_zero,
          List.getElem_cons_succ] at same
        exact once (same ▸ List.getElem_mem _)
      · exact (inductionHypothesis later).imp_left fun inFront =>
          inFront.trans (List.suffix_cons item front).isInfix

theorem length_insert (place : DocumentBasePlace) (html base : List Char) :
    (place.insert html base).length =
      html.length + base.length + place.wrapper.1.length + place.wrapper.2.length := by
  have parts := congrArg List.length (List.take_append_drop place.position html)
  simp only [DocumentBasePlace.insert, List.length_append] at parts ⊢
  omega

/-- The first beginning of a base tag is that of the one inserted. -/
theorem base_isFirst (noBase : ¬"<base".toList <:+: html) (place : DocumentBasePlace) :
    ¬"<base".toList <:+: html.take place.position ++ place.wrapper.1 ++
      "<base".toList.dropLast := by
  intro within
  have inTake : ¬"<base".toList <:+: html.take place.position := fun isInfix =>
    noBase (isInfix.trans (List.take_prefix _ _).isInfix)
  cases place with
  | inHead position =>
      rw [DocumentBasePlace.wrapper, List.append_nil] at within
      rcases infix_append_of_head (by decide) within with inFront | inBack
      · exact inTake inFront
      · exact absurd inBack (by decide)
  | inNewHead position =>
      rw [List.append_assoc] at within
      rcases infix_append_of_head (by decide) within with inFront | inBack
      · exact inTake inFront
      · exact absurd inBack (by decide)

/-- In a text without a base tag the place can be told from the result. -/
theorem insert_inj (noBase : ¬"<base".toList <:+: html) {rest : List Char}
    (inside : place.position ≤ html.length) (otherInside : other.position ≤ html.length)
    (same : place.insert html ("<base".toList ++ rest) =
      other.insert html ("<base".toList ++ rest)) : place = other := by
  have lengths := congrArg List.length same
  rw [length_insert, length_insert] at lengths
  have sameWrapper : place.wrapper = other.wrapper := by
    cases place <;> cases other <;> simp [DocumentBasePlace.wrapper] at lengths ⊢ <;> omega
  have split (place : DocumentBasePlace) : place.insert html ("<base".toList ++ rest) =
      (html.take place.position ++ place.wrapper.1) ++ ("<base".toList ++
        (rest ++ place.wrapper.2 ++ html.drop place.position)) := by
    simp [DocumentBasePlace.insert]
  rw [split place, split other] at same
  have fronts := (first_occurrence_unique (by decide) (base_isFirst noBase place)
    (base_isFirst noBase other) same).1
  rw [sameWrapper] at fronts
  have takes := congrArg List.length (List.append_cancel_right fronts)
  rw [List.length_take, List.length_take] at takes
  cases place <;> cases other <;>
    simp_all [DocumentBasePlace.wrapper, DocumentBasePlace.position]

end Places

section Documents

variable {parsers : UrlStandard.Parsers} {address : String} {html : List Char}

/-- The document gets a base tag for its address where such a tag belongs, and nothing else of it
changes. -/
def InsertsBase (parsers : UrlStandard.Parsers) (address : String) (html : List Char) : Prop :=
  broadwebHtmlWithDocumentBase parsers address html =
    (documentBasePlace html).insert html (baseTag address)

/-- Where the searches end is where the tags end: the first text that looks like the beginning of
a tag is that of the tag looked for, and no `>` stands in the tag. -/
structure SearchesEndWithTags (html : List Char) : Prop where
  noBase : ¬"<base".toList <:+: Text.toAsciiLowercase html
  inHead : ∀ stop, firstTagEnd html "head" = some stop → EndsFirst html "<head".toList stop
  noHead : firstTagEnd html "head" = none → NeverEnds html "<head".toList ∧
    (∀ stop, firstTagEnd html "html" = some stop → EndsFirst html "<html".toList stop) ∧
    (firstTagEnd html "html" = none → NeverEnds html "<html".toList)

theorem position_le_of_endsFirst {tagStart : List Char} {stop : Nat}
    (ends : EndsFirst html tagStart stop) : 0 < stop ∧ stop ≤ html.length := by
  obtain ⟨front, start, middle, back, rfl, -, -, -, rfl⟩ := ends
  simp only [List.length_append, List.length_cons]
  omega

theorem openingTagEnd_pos {tagStart : List Char} {stop : Nat} (nonempty : tagStart ≠ [])
    (noMark : '>' ∉ tagStart) (found : openingTagEnd html tagStart = some stop) :
    0 < stop ∧ stop ≤ html.length :=
  position_le_of_endsFirst ((openingTagEnd_eq_some_iff nonempty noMark).mp found)

theorem searchedPlace_inside (html : List Char) :
    (searchedPlace html).position ≤ html.length := by
  rw [searchedPlace]
  cases found : openingTagEnd html "<head".toList with
  | some stop => exact (openingTagEnd_pos (by decide) (by decide) found).2
  | none =>
      cases foundHtml : openingTagEnd html "<html".toList with
      | some stop => exact (openingTagEnd_pos (by decide) (by decide) foundHtml).2
      | none => exact Nat.zero_le _

theorem documentBasePlace_inside (html : List Char) :
    (documentBasePlace html).position ≤ html.length := by
  rw [documentBasePlace]
  cases found : firstTagEnd html "head" with
  | some stop => exact (firstTagEnd_pos found).2
  | none =>
      cases foundHtml : firstTagEnd html "html" with
      | some stop => exact (firstTagEnd_pos foundHtml).2
      | none => exact Nat.zero_le _

theorem getD_eq_iff {found searched : Option Nat}
    (positive : ∀ stop, found = some stop → 0 < stop)
    (searchedPositive : ∀ stop, searched = some stop → 0 < stop) :
    searched.getD 0 = found.getD 0 ↔ searched = found := by
  cases found with
  | none =>
      cases searched with
      | none => simp
      | some stop =>
          have := searchedPositive stop rfl
          simp
          omega
  | some stop =>
      have := positive stop rfl
      cases searched with
      | none =>
          simp
          omega
      | some other => simp

/-- A search and the tags agree on an end. -/
theorem openingTagEnd_eq_iff {tagStart : List Char} (nonempty : tagStart ≠ [])
    (noMark : '>' ∉ tagStart) (ends : Option Nat) :
    openingTagEnd html tagStart = ends ↔
      (∀ stop, ends = some stop → EndsFirst html tagStart stop) ∧
        (ends = none → NeverEnds html tagStart) := by
  cases ends with
  | none =>
      rw [openingTagEnd_eq_none_iff nonempty]
      simp
  | some stop =>
      rw [openingTagEnd_eq_some_iff nonempty noMark]
      simp

/-- The place that is searched for is where the base belongs. -/
theorem searchedPlace_eq_iff (noBase : ¬"<base".toList <:+: Text.toAsciiLowercase html) :
    searchedPlace html = documentBasePlace html ↔ SearchesEndWithTags html := by
  have sameHead := @openingTagEnd_eq_iff html "<head".toList (by decide) (by decide)
    (firstTagEnd html "head")
  have sameHtml := @openingTagEnd_eq_iff html "<html".toList (by decide) (by decide)
    (firstTagEnd html "html")
  have sameEnd := @getD_eq_iff (firstTagEnd html "html") (openingTagEnd html "<html".toList)
    (fun _ isEnd => (firstTagEnd_pos isEnd).1)
    (fun _ found => (openingTagEnd_pos (by decide) (by decide) found).1)
  have agree : searchedPlace html = documentBasePlace html ↔
      openingTagEnd html "<head".toList = firstTagEnd html "head" ∧
        (firstTagEnd html "head" = none →
          openingTagEnd html "<html".toList = firstTagEnd html "html") := by
    rw [searchedPlace, documentBasePlace, ← sameEnd]
    cases openingTagEnd html "<head".toList <;> cases firstTagEnd html "head" <;> simp
  rw [agree, sameHead, sameHtml]
  constructor
  · rintro ⟨⟨inHead, noHead⟩, newHead⟩
    exact ⟨noBase, inHead, fun isNone => ⟨noHead isNone, newHead isNone⟩⟩
  · rintro ⟨-, inHead, noHead⟩
    exact ⟨⟨inHead, fun isNone => (noHead isNone).1⟩, fun isNone => (noHead isNone).2⟩

theorem not_infix_of_lower (noBase : ¬"<base".toList <:+: Text.toAsciiLowercase html) :
    ¬"<base".toList <:+: html := by
  intro within
  apply noBase
  have lower : Text.toAsciiLowercase "<base".toList = "<base".toList := by decide
  rw [← lower]
  exact within.map Char.toLower

/-- A document of the daemon gets its base where it belongs if the searches end with the tags. -/
theorem insertsBase_iff (parsers : UrlStandard.Parsers) (address : String) (html : List Char)
    (isBroadweb : hasBroadwebdServiceScheme parsers address = true) :
    InsertsBase parsers address html ↔ SearchesEndWithTags html := by
  obtain ⟨rest, isTag⟩ : ∃ rest, baseTag address = "<base".toList ++ rest :=
    ⟨" href=\"".toList ++ escapeHtmlText address.toList ++ "\">".toList, rfl⟩
  rw [InsertsBase, broadwebHtmlWithDocumentBase, isBroadweb, Bool.not_true, Bool.false_or,
    containsBaseTag]
  by_cases hasBase : "<base".toList <:+: Text.toAsciiLowercase html
  · rw [if_pos (Text.contains_iff.mpr hasBase)]
    apply iff_of_false
    · intro same
      have lengths := congrArg List.length same
      rw [length_insert, isTag, List.length_append] at lengths
      have five : "<base".toList.length = 5 := rfl
      omega
    · exact fun ends => ends.noBase hasBase
  · rw [if_neg fun contains => hasBase (Text.contains_iff.mp contains), insertHeadChild_eq,
      ← searchedPlace_eq_iff hasBase]
    constructor
    · intro same
      rw [isTag] at same
      exact insert_inj (not_infix_of_lower hasBase) (searchedPlace_inside html)
        (documentBasePlace_inside html) same
    · intro same
      rw [same]

theorem page_gets_base : InsertsBase UrlStandard.asciiParsers "ipfs://bafy/"
    "<html lang=en><head><title>Page</title></head></html>".toList :=
  (insertsBase_iff UrlStandard.asciiParsers "ipfs://bafy/" _ rfl).mpr
    ((searchedPlace_eq_iff (by decide)).mp (by decide))

/-- A header is taken for the head. -/
theorem header_gets_base :
    ¬InsertsBase UrlStandard.asciiParsers "ipfs://bafy/" "<header>Page</header>".toList := by
  have isBroadweb : hasBroadwebdServiceScheme UrlStandard.asciiParsers "ipfs://bafy/" = true := rfl
  rw [InsertsBase, broadwebHtmlWithDocumentBase, isBroadweb]
  decide

end Documents

end Slate.Rendering
