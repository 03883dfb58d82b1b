import Mathlib.Data.List.DropRight
import Slate.Foundation.UrlStandard

/-!
# Paths of URLs

The segments of a path lead up where they are dots and down where they are not. What a text says
behind a place of a path is a walk from there, and only where it never leads up past its beginning
does the path stay at the place.
-/

namespace Slate.Foundation.UrlStandard

section Walks

/-- Where segments lead from a place: up by a number of steps, and down from there. -/
structure Walk where
  up : Nat
  down : List (List Char)
  deriving DecidableEq, Repr

namespace Walk

def parent (walk : Walk) : Walk :=
  if walk.down = [] then ⟨walk.up + 1, []⟩ else ⟨walk.up, walk.down.dropLast⟩

def child (walk : Walk) (segment : List Char) : Walk := ⟨walk.up, walk.down ++ [segment]⟩

def along (walk : Walk) : List (List Char) → Walk
  | [] => walk
  | [last] =>
    if isDoubleDot last then walk.parent.child []
    else if isSingleDot last then walk.child []
    else walk.child last
  | segment :: rest =>
    if isDoubleDot segment then walk.parent.along rest
    else if isSingleDot segment then walk.along rest
    else (walk.child segment).along rest

attribute [local grind =] along

def endsAt (walk : Walk) (place : List (List Char)) : List (List Char) :=
  place.take (place.length - walk.up) ++ walk.down

end Walk

/-- The walk that segments lead on. -/
def walkOf (segments : List (List Char)) : Walk := (⟨0, []⟩ : Walk).along segments

variable {walk : Walk} {place segments : List (List Char)} {segment : List Char}

theorem Walk.dropLast_endsAt : (walk.endsAt place).dropLast = walk.parent.endsAt place := by
  unfold Walk.endsAt Walk.parent
  by_cases isUp : walk.down = []
  · rw [if_pos isUp, isUp, List.append_nil, List.append_nil, List.dropLast_eq_take, List.take_take,
      List.length_take]
    dsimp only
    congr 1
    omega
  · rw [if_neg isUp, List.dropLast_append_of_ne_nil isUp]

theorem Walk.endsAt_child :
    walk.endsAt place ++ [segment] = (walk.child segment).endsAt place := by
  simp [Walk.endsAt, Walk.child]

/-- Adding segments to the end of a walk goes on with the walk. -/
theorem addSegments_endsAt :
    addSegments (walk.endsAt place) segments = (walk.along segments).endsAt place := by
  induction segments generalizing walk with
  | nil => rfl
  | cons segment rest inductionHypothesis =>
      cases rest with
      | nil => simp only [addSegments, Walk.along, apply_ite (Walk.endsAt · place),
          Walk.dropLast_endsAt, Walk.endsAt_child]
      | cons next rest => simp only [addSegments, Walk.along, apply_ite (Walk.endsAt · place),
          Walk.dropLast_endsAt, Walk.endsAt_child, inductionHypothesis]

theorem addSegments_eq_endsAt : addSegments place segments = (walkOf segments).endsAt place := by
  have atPlace : (⟨0, []⟩ : Walk).endsAt place = place := by simp [Walk.endsAt]
  calc addSegments place segments
      = addSegments ((⟨0, []⟩ : Walk).endsAt place) segments := by rw [atPlace]
    _ = (walkOf segments).endsAt place := addSegments_endsAt

def isDots (segment : List Char) : Bool := isSingleDot segment || isDoubleDot segment

/-- Segments that are no dots are passed on the way to others. -/
theorem addSegments_append {front : List (List Char)} (nonempty : segments ≠ [])
    (noDots : ∀ segment ∈ front, isDots segment = false) :
    addSegments place (front ++ segments) = addSegments (place ++ front) segments := by
  induction front generalizing place with
  | nil => simp
  | cons segment rest inductionHypothesis =>
      obtain ⟨noSingle, noDouble⟩ := Bool.or_eq_false_iff.mp (noDots segment List.mem_cons_self)
      obtain ⟨next, others, isRest⟩ : ∃ next others, rest ++ segments = next :: others :=
        List.exists_cons_of_ne_nil (by simp [nonempty])
      rw [List.cons_append, isRest, addSegments, if_neg (by simp [noDouble]),
        if_neg (by simp [noSingle]), ← isRest,
        inductionHypothesis fun other isMember => noDots other (List.mem_cons_of_mem _ isMember),
        List.append_assoc, List.singleton_append]
      simp

theorem addSegments_of_noDots (noDots : ∀ segment ∈ segments, isDots segment = false) :
    addSegments place segments = place ++ segments := by
  cases segments using List.reverseRecOn with
  | nil => simp [addSegments]
  | append_singleton front last =>
      obtain ⟨noSingle, noDouble⟩ := Bool.or_eq_false_iff.mp (noDots last (by simp))
      rw [addSegments_append (by simp) fun other isMember => noDots other (by simp [isMember]),
        addSegments, if_neg (by simp [noDouble]), if_neg (by simp [noSingle]), List.append_assoc]

theorem mem_addSegments (isMember : segment ∈ addSegments place segments) :
    segment ∈ place ∨ segment = [] ∨ segment ∈ segments ∧ isDots segment = false := by
  induction segments generalizing place with
  | nil => exact .inl isMember
  | cons first rest inductionHypothesis =>
      cases rest with
      | nil =>
          rw [addSegments] at isMember
          split at isMember
          · rcases List.mem_append.mp isMember with inPlace | isLast
            · exact .inl (List.dropLast_subset _ inPlace)
            · exact .inr (.inl (List.mem_singleton.mp isLast))
          · split at isMember
            · rcases List.mem_append.mp isMember with inPlace | isLast
              · exact .inl inPlace
              · exact .inr (.inl (List.mem_singleton.mp isLast))
            · rename_i noDouble noSingle
              rcases List.mem_append.mp isMember with inPlace | isLast
              · exact .inl inPlace
              · obtain rfl := List.mem_singleton.mp isLast
                exact .inr (.inr ⟨List.mem_cons_self, by simp [isDots, noDouble, noSingle]⟩)
      | cons next rest =>
          have behind (found : segment ∈ place ∨ segment = [] ∨
              segment ∈ next :: rest ∧ isDots segment = false) :
              segment ∈ place ∨ segment = [] ∨
                segment ∈ first :: next :: rest ∧ isDots segment = false :=
            found.imp_right fun found => found.imp_right fun found =>
              ⟨List.mem_cons_of_mem _ found.1, found.2⟩
          rw [addSegments] at isMember
          · split at isMember
            · apply behind
              exact (inductionHypothesis isMember).imp_left fun inPlace =>
                List.dropLast_subset _ inPlace
            · split at isMember
              · exact behind (inductionHypothesis isMember)
              · rename_i noDouble noSingle
                rcases inductionHypothesis isMember with inPlace | others
                · rcases List.mem_append.mp inPlace with inPlace | isFirst
                  · exact .inl inPlace
                  · obtain rfl := List.mem_singleton.mp isFirst
                    exact .inr (.inr ⟨List.mem_cons_self, by simp [isDots, noDouble, noSingle]⟩)
                · exact behind (.inr others)
          · simp

end Walks

section Segments

variable {special : Bool} {text front behind : List Char} {segment : List Char} {char : Char}
  {parts others : List (List Char)}

/-- The segments of a text, before dots lead anywhere. -/
def splitSegments (special : Bool) (text : List Char) : List (List Char) :=
  (text.splitOnP (isSeparator special)).map (encode inPathSet)

theorem parseSegments_eq :
    parseSegments special text = addSegments [] (splitSegments special text) := rfl

theorem splitSegments_ne_nil : splitSegments special text ≠ [] := by
  simp [splitSegments]

theorem splitSegments_append {separator : Char} (separates : isSeparator special separator = true) :
    splitSegments special (front ++ separator :: behind) =
      splitSegments special front ++ splitSegments special behind := by
  rw [splitSegments, List.splitOnP_append_cons _ _ separates, List.map_append]
  rfl

/-- A character that a path writes as it is. -/
def isPathChar (special : Bool) (char : Char) : Bool :=
  !inPathSet char && !isSeparator special char

theorem encode_of_plain (plain : ∀ char ∈ text, inPathSet char = false) :
    encode inPathSet text = text := by
  unfold encode
  induction text with
  | nil => rfl
  | cons first rest inductionHypothesis =>
      rw [List.flatMap_cons, inductionHypothesis fun char isMember =>
        plain char (List.mem_cons_of_mem _ isMember), percentEncode,
        if_neg (by simp [plain first List.mem_cons_self])]
      rfl

theorem splitSegments_of_plain (plain : ∀ char ∈ text, isPathChar special char = true) :
    splitSegments special text = [text] := by
  simp only [isPathChar, Bool.and_eq_true, Bool.not_eq_true'] at plain
  rw [splitSegments, List.splitOnP_eq_singleton fun char isMember => (plain char isMember).2,
    List.map_singleton, encode_of_plain fun char isMember => (plain char isMember).1]

theorem isPathChar_percentEncodeByte {byte : UInt8} (isMember : char ∈ Text.percentEncodeByte byte) :
    isPathChar special char = true := by
  have digits : "%0123456789ABCDEF".toList.all fun char =>
      isPathChar true char && isPathChar false char := by decide
  have isDigit : char ∈ "%0123456789ABCDEF".toList := by
    have whole : "%0123456789ABCDEF".toList = '%' :: "0123456789ABCDEF".toList := rfl
    rw [whole]
    simp only [Text.percentEncodeByte, List.mem_cons, List.not_mem_nil, or_false] at isMember
    rcases isMember with rfl | rfl | rfl
    · exact List.mem_cons_self
    · exact List.mem_cons_of_mem _ (Text.hexDigit_mem _)
    · exact List.mem_cons_of_mem _ (Text.hexDigit_mem _)
  have both := List.all_eq_true.mp digits char isDigit
  rw [Bool.and_eq_true] at both
  cases special with
  | true => exact both.1
  | false => exact both.2

/-- What a path consists of needs no encoding and no splitting any more. -/
theorem isPathChar_of_mem_splitSegments (isPart : segment ∈ splitSegments special text)
    (isMember : char ∈ segment) : isPathChar special char = true := by
  obtain ⟨part, inText, rfl⟩ := List.mem_map.mp isPart
  obtain ⟨original, inPart, isWritten⟩ := List.mem_flatMap.mp isMember
  unfold percentEncode at isWritten
  split at isWritten
  · obtain ⟨byte, -, isWritten⟩ := List.mem_flatMap.mp isWritten
    exact isPathChar_percentEncodeByte isWritten
  · rename_i isPlain
    obtain rfl := List.mem_singleton.mp isWritten
    simp [isPathChar, isPlain, Text.not_separates_of_mem_splitOnP inText inPart]

/-- A segment as it stands in a path. -/
structure IsWritten (special : Bool) (segment : List Char) : Prop where
  plain : ∀ char ∈ segment, isPathChar special char = true
  noDots : isDots segment = false

theorem isWritten_of_mem_parsePath (isMember : segment ∈ parsePath special text) :
    IsWritten special segment := by
  have ofSegments {text : List Char} (isMember : segment ∈ parseSegments special text) :
      IsWritten special segment := by
    rw [parseSegments_eq] at isMember
    rcases mem_addSegments isMember with absent | rfl | ⟨isPart, noDots⟩
    · cases absent
    · exact ⟨by simp, by decide⟩
    · exact ⟨fun char => isPathChar_of_mem_splitSegments isPart, noDots⟩
  unfold parsePath at isMember
  split at isMember
  · split at isMember
    · exact ofSegments isMember
    · cases isMember
  · split at isMember
    · exact ofSegments isMember
    · exact ofSegments isMember

theorem writeSegments_append :
    writeSegments (parts ++ others) = writeSegments parts ++ writeSegments others := by
  simp [writeSegments]

theorem writeSegments_cons :
    writeSegments (segment :: parts) = '/' :: (segment ++ writeSegments parts) := by
  simp [writeSegments]

/-- What a path may go on with behind one of its segments. -/
def EndsOrSlashes (rest : List Char) : Prop := rest = [] ∨ rest.head? = some '/'

theorem endsOrSlashes_writeSegments : EndsOrSlashes (writeSegments parts) := by
  cases parts with
  | nil => exact .inl rfl
  | cons segment parts => exact .inr rfl

theorem append_inj_of_endsOrSlashes {rest otherRest : List Char} (noSlash : '/' ∉ front)
    (otherNoSlash : '/' ∉ behind) (ends : EndsOrSlashes rest) (otherEnds : EndsOrSlashes otherRest)
    (same : front ++ rest = behind ++ otherRest) : front = behind ∧ rest = otherRest := by
  have passes {text : List Char} (noSlash : '/' ∉ text) :
      ∀ char ∈ text, decide (char = '/') = false := by
    intro char isMember
    rw [decide_eq_false_iff_not]
    rintro rfl
    exact noSlash isMember
  have stops {text : List Char} (ends : EndsOrSlashes text) :
      ∀ char ∈ text.head?, decide (char = '/') = true := by
    intro char isHead
    rcases ends with rfl | isSlash
    · cases isHead
    · rw [isSlash] at isHead
      simpa using isHead.symm
  exact Text.append_inj_of_stops (passes noSlash) (passes otherNoSlash) (stops ends)
    (stops otherEnds) same

/-- A path begins with the text of segments, up to the end of one of its own, exactly where it
begins with the segments. -/
theorem writeSegments_isPrefix_iff (noSlash : ∀ segment ∈ parts, '/' ∉ segment)
    (otherNoSlash : ∀ segment ∈ others, '/' ∉ segment) :
    (∃ rest, writeSegments others = writeSegments parts ++ rest ∧ EndsOrSlashes rest) ↔
      parts <+: others := by
  constructor
  · rintro ⟨rest, same, ends⟩
    induction parts generalizing others with
    | nil => exact List.nil_prefix
    | cons segment parts inductionHypothesis =>
        cases others with
        | nil => simp [writeSegments] at same
        | cons other others =>
            obtain ⟨segmentNoSlash, partsNoSlash⟩ := List.forall_mem_cons.mp noSlash
            obtain ⟨otherSegmentNoSlash, othersNoSlash⟩ := List.forall_mem_cons.mp otherNoSlash
            rw [writeSegments_cons, writeSegments_cons, List.cons_append, List.append_assoc] at same
            have behindEnds : EndsOrSlashes (writeSegments parts ++ rest) := by
              cases parts with
              | nil => exact ends
              | cons segment parts => exact .inr rfl
            obtain ⟨rfl, sameRest⟩ := append_inj_of_endsOrSlashes otherSegmentNoSlash segmentNoSlash
              endsOrSlashes_writeSegments behindEnds (List.cons.inj same).2
            exact List.cons_prefix_cons.mpr
              ⟨rfl, inductionHypothesis partsNoSlash othersNoSlash sameRest⟩
  · rintro ⟨rest, rfl⟩
    exact ⟨writeSegments rest, writeSegments_append, endsOrSlashes_writeSegments⟩

/-- Trimming slashes takes empty segments off the end. -/
theorem trimEndMatches_writeSegments (noSlash : ∀ segment ∈ parts, '/' ∉ segment) :
    Text.trimEndMatches '/' (writeSegments parts) = writeSegments (parts.rdropWhile (· = [])) := by
  unfold Text.trimEndMatches
  induction parts using List.reverseRecOn with
  | nil => rfl
  | append_singleton front last inductionHypothesis =>
      have frontNoSlash : ∀ segment ∈ front, '/' ∉ segment := fun segment isMember =>
        noSlash segment (by simp [isMember])
      have lastNoSlash : '/' ∉ last := noSlash last (by simp)
      cases last using List.reverseRecOn with
      | nil =>
          have isText : writeSegments (front ++ [[]]) = writeSegments front ++ ['/'] := by
            simp [writeSegments]
          rw [isText, List.rdropWhile_concat_pos _ _ _ (by simp),
            List.rdropWhile_concat_pos _ _ _ (by simp), inductionHypothesis frontNoSlash]
      | append_singleton start char _ =>
          have isText : writeSegments (front ++ [start ++ [char]]) =
              writeSegments front ++ '/' :: start ++ [char] := by
            simp [writeSegments]
          have isOther : ¬(char == '/') = true := by
            rw [beq_iff_eq]
            rintro rfl
            exact lastNoSlash (by simp)
          rw [isText, List.rdropWhile_concat_neg (· == '/') _ _ isOther,
            List.rdropWhile_concat_neg _ _ _ (by simp)]
          simp [writeSegments]

end Segments

section Texts

variable {parsers : Parsers} {text front rest : List Char} {url : Url}

def isMark (char : Char) : Bool := char = '?' || char = '#'

/-- The authority and the path of a special URL, of which the text behind the scheme is given. -/
def hierarchyText (behindScheme : List Char) : List Char :=
  (Text.before isMark behindScheme).dropWhile (isSeparator true)

/-- The text of the path. -/
def pathText (behindScheme : List Char) : List Char :=
  Text.fromStop (isSeparator true) (hierarchyText behindScheme)

/-- A text without what is cleaned away in front and inside of it. -/
def startCleaned (text : List Char) : List Char :=
  (text.dropWhile isEdge).filter fun char => !isTabOrNewline char

theorem takeWhile_takeWhile_marks :
    (text.takeWhile (· ≠ '#')).takeWhile (· ≠ '?') = Text.before isMark text := by
  rw [List.takeWhile_takeWhile]
  unfold Text.before isMark
  congr 1
  funext char
  by_cases isQuery : char = '?' <;> by_cases isFragment : char = '#' <;> simp [isQuery, isFragment]

theorem parseAuthority_nil {scheme : List Char} (special : isSpecial scheme = true) :
    parseAuthority parsers scheme [] = none := by
  simp [parseAuthority, splitUserinfo, splitPort, special]

/-- A special URL, but for files, has an authority, and behind it the path that its text says. -/
theorem path_of_parse (parsed : parse parsers text = some url)
    (special : isSpecial url.scheme = true) (noFile : url.scheme ≠ "file".toList) :
    ∃ behindScheme, splitScheme (cleaned text) = some (url.scheme, behindScheme) ∧
      hierarchyText behindScheme ≠ [] ∧
        url.path = .segments (parsePath true (pathText behindScheme)) := by
  unfold parse at parsed
  obtain ⟨⟨scheme, behindScheme⟩, isSplit, parsed⟩ := Option.bind_eq_some_iff.mp parsed
  have isBody : ((behindScheme.takeWhile (· ≠ '#')).takeWhile (· ≠ '?')).dropWhile
      (isSeparator true) = hierarchyText behindScheme := by
    rw [takeWhile_takeWhile_marks]
    rfl
  dsimp only [splitMark] at parsed
  rw [isBody] at parsed
  split at parsed
  · rename_i isFile
    obtain ⟨found, -, rfl⟩ := Option.map_eq_some_iff.mp parsed
    exact absurd isFile noFile
  · split at parsed
    · rename_i isSpecial
      obtain ⟨⟨authority, path⟩, isHierarchy, rfl⟩ := Option.map_eq_some_iff.mp parsed
      unfold parseHierarchy at isHierarchy
      obtain ⟨found, isAuthority, isPath⟩ := Option.bind_eq_some_iff.mp isHierarchy
      obtain ⟨rfl, rfl⟩ := Prod.mk.inj (Option.some.inj isPath)
      refine ⟨behindScheme, isSplit, ?_, ?_⟩
      · intro absent
        rw [absent] at isAuthority
        exact absurd (isAuthority.symm.trans (parseAuthority_nil isSpecial)) (by simp)
      · simp only [withAuthority, isSpecial]
        rfl
    · rename_i other
      have sameScheme : url.scheme = scheme := by
        split at parsed
        · obtain ⟨found, -, rfl⟩ := Option.map_eq_some_iff.mp parsed
          rfl
        · cases parsed
          rfl
        · cases parsed
          rfl
      rw [sameScheme] at special
      exact absurd special other

/-- What follows a path's text and begins with a slash goes on with the path, up to a mark. -/
theorem pathText_append (noMark : ∀ char ∈ front, isMark char = false)
    (nonempty : hierarchyText front ≠ []) :
    pathText (front ++ '/' :: rest) = pathText front ++ '/' :: Text.before isMark rest := by
  have slash : isMark '/' = false := by decide
  have isFront : Text.before isMark front = front := by
    unfold Text.before
    rw [List.takeWhile_eq_self_iff]
    simpa using noMark
  have isBefore : Text.before isMark (front ++ '/' :: rest) =
      front ++ '/' :: Text.before isMark rest := by
    unfold Text.before
    rw [List.takeWhile_append_of_pos (by simpa using noMark),
      List.takeWhile_cons_of_pos (by simp [slash])]
  unfold pathText
  unfold hierarchyText at nonempty ⊢
  rw [isFront] at nonempty
  rw [isBefore, isFront, List.dropWhile_append, if_neg (by simpa using nonempty),
    Text.fromStop_append_stop (by decide)]

theorem cleaned_append_visible {middle : List Char}
    (visible : ∀ char ∈ middle, isEdge char = false) (nonempty : middle ≠ []) :
    cleaned (front ++ (middle ++ rest)) = startCleaned front ++ (middle ++
      (rest.rdropWhile isEdge).filter fun char => !isTabOrNewline char) := by
  obtain ⟨first, others, rfl⟩ := List.exists_cons_of_ne_nil nonempty
  have firstVisible := visible first List.mem_cons_self
  have isStart : (front ++ (first :: others ++ rest)).dropWhile isEdge =
      front.dropWhile isEdge ++ (first :: others ++ rest) := by
    rw [List.dropWhile_append]
    split
    · rename_i isEmpty
      rw [List.isEmpty_iff] at isEmpty
      rw [isEmpty, List.cons_append, List.dropWhile_cons_of_neg (by simp [firstVisible]),
        List.nil_append]
    · rfl
  unfold cleaned startCleaned
  rw [isStart, List.cons_append, Text.rdropWhile_append_cons firstVisible, ← List.cons_append,
    Text.rdropWhile_append_of_neg visible, List.filter_append, List.filter_append,
    filter_visible visible]

theorem startCleaned_append_visible {middle : List Char}
    (visible : ∀ char ∈ middle, isEdge char = false) :
    startCleaned (front ++ middle) = startCleaned front ++ middle := by
  unfold startCleaned
  rw [List.dropWhile_append]
  split
  · rename_i isEmpty
    rw [List.isEmpty_iff] at isEmpty
    have isMiddle : middle.dropWhile isEdge = middle := by
      cases middle with
      | nil => rfl
      | cons first others =>
          exact List.dropWhile_cons_of_neg (by simp [visible first List.mem_cons_self])
    rw [isEmpty, isMiddle, filter_visible visible, List.filter_nil, List.nil_append]
  · rw [List.filter_append, filter_visible visible]

/-- What is cleaned away at the end of a text only. -/
theorem exists_edges (text : List Char) :
    ∃ edges, startCleaned text = cleaned text ++ edges ∧
      ∀ char ∈ edges, isEdge char = true ∧ isTabOrNewline char = false := by
  refine ⟨((text.dropWhile isEdge).rtakeWhile isEdge).filter fun char => !isTabOrNewline char,
    ?_, ?_⟩
  · unfold startCleaned cleaned
    rw [← List.filter_append]
    congr 1
    rw [List.rdropWhile, List.rtakeWhile, ← List.reverse_append, List.takeWhile_append_dropWhile,
      List.reverse_reverse]
  · intro char isMember
    obtain ⟨inEdges, visible⟩ := List.mem_filter.mp isMember
    exact ⟨List.mem_rtakeWhile_imp inEdges, by simpa using visible⟩

end Texts

section Places

variable {front rest edges slashes : List Char} {others empties : List (List Char)}
  {last name : List Char} {char : Char}

/-- The segments of the path's text, none where it is empty. -/
def pathSegments (behindScheme : List Char) : List (List Char) :=
  match pathText behindScheme with
  | [] => []
  | _ :: text => splitSegments true text

theorem isSeparator_of_pathText {text : List Char} (isText : pathText front = char :: text) :
    isSeparator true char = true := by
  have isHead := List.head?_dropWhile_not (fun char => !isSeparator true char) (hierarchyText front)
  have sameHead : (List.dropWhile (fun char => !isSeparator true char)
      (hierarchyText front)).head? = some char := by
    change (pathText front).head? = some char
    rw [isText]
    rfl
  rw [sameHead] at isHead
  simpa using isHead

theorem parsePath_append : parsePath true (pathText front ++ '/' :: rest) =
    addSegments [] (pathSegments front ++ splitSegments true rest) := by
  have slash : isSeparator true '/' = true := by decide
  unfold pathSegments
  cases isText : pathText front with
  | nil =>
      rw [List.nil_append, List.nil_append, parsePath, if_pos slash]
      rfl
  | cons char text =>
      rw [List.cons_append, parsePath, if_pos (isSeparator_of_pathText isText), parseSegments_eq,
        splitSegments_append slash]

theorem rdropWhile_parsePath (noDots : ∀ segment ∈ pathSegments front, isDots segment = false) :
    (parsePath true (pathText front)).rdropWhile (· = []) =
      (pathSegments front).rdropWhile (· = []) := by
  unfold pathSegments at noDots ⊢
  cases isText : pathText front with
  | nil => rfl
  | cons char text =>
      rw [isText] at noDots
      rw [parsePath, if_pos (isSeparator_of_pathText isText), parseSegments_eq,
        addSegments_of_noDots noDots]
      rfl

theorem isPathChar_of_mem_pathSegments {segment : List Char}
    (isPart : segment ∈ pathSegments front) (isMember : char ∈ segment) :
    isPathChar true char = true := by
  unfold pathSegments at isPart
  split at isPart
  · cases isPart
  · exact isPathChar_of_mem_splitSegments isPart isMember

theorem splitSegments_slashes (areSlashes : ∀ char ∈ slashes, char = '/') :
    ∀ segment ∈ splitSegments true slashes, segment = [] := by
  induction slashes with
  | nil => simp [splitSegments, encode]
  | cons first rest inductionHypothesis =>
      obtain ⟨rfl, areRest⟩ := List.forall_mem_cons.mp areSlashes
      have parts := @splitSegments_append true [] rest '/' (by decide)
      rw [List.nil_append] at parts
      rw [parts]
      intro segment isMember
      rcases List.mem_append.mp isMember with isFirst | inRest
      · simpa [splitSegments, encode] using isFirst
      · exact inductionHypothesis areRest segment inRest

/-- Slashes behind a path add empty segments. -/
theorem pathSegments_slashes (noMark : ∀ char ∈ front, isMark char = false)
    (nonempty : hierarchyText front ≠ []) (areSlashes : ∀ char ∈ slashes, char = '/') :
    ∃ empties, pathSegments (front ++ slashes) = pathSegments front ++ empties ∧
      ∀ segment ∈ empties, segment = [] := by
  cases slashes with
  | nil => exact ⟨[], by simp, by simp⟩
  | cons first slashes =>
      obtain ⟨rfl, areOthers⟩ := List.forall_mem_cons.mp areSlashes
      have noMarks : Text.before isMark slashes = slashes := by
        unfold Text.before
        rw [List.takeWhile_eq_self_iff]
        intro char isMember
        rw [areOthers char isMember]
        decide
      refine ⟨splitSegments true slashes, ?_, splitSegments_slashes areOthers⟩
      unfold pathSegments
      rw [pathText_append noMark nonempty, noMarks]
      cases isText : pathText front with
      | nil => rfl
      | cons char text =>
          dsimp only [List.cons_append]
          exact splitSegments_append (by decide)

theorem splitOnP_append_of_none {separates : Char → Bool}
    (passes : ∀ char ∈ rest, separates char = false) :
    ∃ others last, front.splitOnP separates = others ++ [last] ∧
      (front ++ rest).splitOnP separates = others ++ [last ++ rest] := by
  induction front with
  | nil => exact ⟨[], [], rfl, by simpa using List.splitOnP_eq_singleton passes⟩
  | cons first front inductionHypothesis =>
      obtain ⟨others, last, isFront, isWhole⟩ := inductionHypothesis
      rw [List.cons_append, List.splitOnP_cons_eq_if_modifyHead, List.splitOnP_cons_eq_if_modifyHead,
        isFront, isWhole]
      by_cases isFirst : separates first = true
      · rw [if_pos isFirst, if_pos isFirst]
        exact ⟨[] :: others, last, rfl, rfl⟩
      · rw [if_neg isFirst, if_neg isFirst]
        cases others with
        | nil => exact ⟨[], first :: last, rfl, rfl⟩
        | cons head others => exact ⟨(first :: head) :: others, last, rfl, rfl⟩

theorem isSeparator_of_isEdge (edge : isEdge char = true) : isSeparator true char = false := by
  unfold isSeparator
  simp only [Bool.true_and, Bool.or_eq_false_iff, decide_eq_false_iff_not]
  constructor <;>
  · rintro rfl
    revert edge
    decide

/-- Edges behind a path go into its last segment. -/
theorem pathSegments_edges (noMark : ∀ char ∈ front, isMark char = false)
    (nonempty : hierarchyText front ≠ []) (areEdges : ∀ char ∈ edges, isEdge char = true) :
    pathSegments (front ++ edges) = pathSegments front ∨
      ∃ others last, pathSegments front = others ++ [last] ∧
        pathSegments (front ++ edges) = others ++ [last ++ encode inPathSet edges] := by
  have noSeparator : ∀ char ∈ edges, isSeparator true char = false := fun char isMember =>
    isSeparator_of_isEdge (areEdges char isMember)
  have isFront : Text.before isMark front = front := by
    unfold Text.before
    rw [List.takeWhile_eq_self_iff]
    simpa using noMark
  have isWhole : Text.before isMark (front ++ edges) = front ++ edges := by
    unfold Text.before
    rw [List.takeWhile_eq_self_iff]
    intro char isMember
    rcases List.mem_append.mp isMember with inFront | inEdges
    · simp [noMark char inFront]
    · have edge := areEdges char inEdges
      unfold isMark
      simp only [Bool.not_eq_true', Bool.or_eq_false_iff, decide_eq_false_iff_not]
      constructor <;>
      · rintro rfl
        revert edge
        decide
  have isHierarchy : hierarchyText (front ++ edges) = hierarchyText front ++ edges := by
    unfold hierarchyText at nonempty ⊢
    rw [isFront] at nonempty ⊢
    rw [isWhole, List.dropWhile_append, if_neg (by simpa using nonempty)]
  have noText : Text.fromStop (isSeparator true) edges = [] :=
    Text.fromStop_eq_nil_iff.mpr noSeparator
  unfold pathSegments
  by_cases stops : ∃ char ∈ hierarchyText front, isSeparator true char = true
  · have isText : pathText (front ++ edges) = pathText front ++ edges := by
      unfold pathText
      rw [isHierarchy, Text.fromStop_append_of_stop stops]
    rw [isText]
    cases isPath : pathText front with
    | nil =>
        obtain ⟨char, isMember, separates⟩ := stops
        rw [Text.fromStop_eq_nil_iff.mp isPath char isMember] at separates
        cases separates
    | cons char text =>
        right
        obtain ⟨others, last, isSplit, isWholeSplit⟩ :=
          @splitOnP_append_of_none text edges _ noSeparator
        refine ⟨others.map (encode inPathSet), encode inPathSet last, ?_, ?_⟩
        · simp [splitSegments, isSplit]
        · simp [splitSegments, isWholeSplit, encode]
  · simp only [not_exists, not_and, Bool.not_eq_true] at stops
    have isText : pathText (front ++ edges) = pathText front := by
      unfold pathText
      rw [isHierarchy, Text.fromStop_append_of_none stops, noText]
      exact (Text.fromStop_eq_nil_iff.mpr stops).symm
    rw [isText]
    exact .inl rfl

def dotTexts : List (List Char) :=
  [".".toList, "%2e".toList, "..".toList, ".%2e".toList, "%2e.".toList, "%2e%2e".toList]

theorem lower_of_isDots (areDots : isDots last = true) : Text.toAsciiLowercase last ∈ dotTexts := by
  simpa [isDots, isSingleDot, isDoubleDot, dotTexts, or_assoc] using areDots

theorem percent_of_mem_dotTexts : ∀ text ∈ dotTexts, text.length ≤ 6 ∧ ∀ position < 6,
    text[position]? = some '%' →
      text[position + 1]? = some '2' ∧ text[position + 2]? = some 'e' := by
  decide

theorem escape_of_mem_dotTexts {high low : Char}
    (areDots : front ++ '%' :: high :: low :: rest ∈ dotTexts) : high = '2' ∧ low = 'e' := by
  obtain ⟨short, escapes⟩ := percent_of_mem_dotTexts _ areDots
  have inside : front.length < 6 := by
    simp only [List.length_append, List.length_cons] at short
    omega
  simpa using escapes front.length inside (by simp)

theorem percentEncode_edge (edge : isEdge char = true) : percentEncode inPathSet char =
    ['%', Text.hexDigit (char.toNat / 16), Text.hexDigit (char.toNat % 16)] := by
  have small : char.toNat ≤ 0x20 := of_decide_eq_true edge
  have isEncoded : inPathSet char = true := by
    by_cases isSpace : char.toNat = 0x20
    · have same : char = ' ' := by
        rw [← Char.ofNat_toNat char, isSpace]
      rw [same]
      decide
    · have isControl : isC0Control char = true := decide_eq_true (by omega)
      simp [inPathSet, inQuerySet, inC0ControlSet, isControl]
  rw [percentEncode, if_pos isEncoded, Utf8.utf8EncodeChar_ascii (by omega)]
  have sameCode : (UInt8.ofNat char.toNat).toNat = char.toNat := by
    rw [UInt8.toNat_ofNat']
    omega
  simp [Text.percentEncodeByte, sameCode]

/-- Dots do not end with the encoding of an edge. -/
theorem isDots_append_edges (areEdges : ∀ char ∈ edges, isEdge char = true)
    (nonempty : edges ≠ []) : isDots (last ++ encode inPathSet edges) = false := by
  obtain ⟨front, edge, rfl⟩ : ∃ front edge, edges = front ++ [edge] :=
    ⟨edges.dropLast, edges.getLast nonempty, (List.dropLast_append_getLast nonempty).symm⟩
  have isEdge := areEdges edge (by simp)
  have small : edge.toNat ≤ 0x20 := of_decide_eq_true isEdge
  have other : ∀ code, code ≤ 0x20 → (Text.hexDigit (code / 16)).toLower = '2' →
      (Text.hexDigit (code % 16)).toLower ≠ 'e' := by decide
  apply Bool.eq_false_iff.mpr
  intro areDots
  have isLower := lower_of_isDots areDots
  have isText : Text.toAsciiLowercase (last ++ encode inPathSet (front ++ [edge])) =
      Text.toAsciiLowercase (last ++ encode inPathSet front) ++
        ['%', (Text.hexDigit (edge.toNat / 16)).toLower,
          (Text.hexDigit (edge.toNat % 16)).toLower] := by
    simp [Text.toAsciiLowercase, encode, percentEncode_edge isEdge]
  have noDots := other edge.toNat small
  rw [isText] at isLower
  obtain ⟨isHigh, isLow⟩ := escape_of_mem_dotTexts isLower
  exact noDots isHigh isLow

theorem not_inPathSet_of_alphanum (alphanum : char.isAlphanum) : inPathSet char = false := by
  have bounds := Text.isAlphanum_bounds alphanum
  have noControl : inC0ControlSet char = false := by
    simp only [inC0ControlSet, isC0Control, Bool.or_eq_false_iff, decide_eq_false_iff_not]
    omega
  simp [inPathSet, inQuerySet, noControl]
  refine ⟨⟨?_, ?_, ?_, ?_, ?_⟩, ?_, ?_, ?_, ?_, ?_⟩ <;>
  · rintro rfl
    revert alphanum
    decide

/-- No character of dots is encoded in a path. -/
theorem not_inPathSet_of_lower {text : List Char} (areDots : text ∈ dotTexts)
    (isMember : char.toLower ∈ text) : inPathSet char = false := by
  have whole : ∀ text ∈ dotTexts, text ⊆ ".%2e".toList := by
    decide
  have isLower := whole text areDots isMember
  by_cases upper : char.isUpper
  · apply not_inPathSet_of_alphanum
    exact Text.isAlphanum_iff.mpr (.inl upper)
  · rw [Text.toLower_of_not_upper upper] at isLower
    have plain : ".%2e".toList.all fun char => !inPathSet char := by decide
    simpa using List.all_eq_true.mp plain char isLower

/-- Encoding makes no dots of what are none. -/
theorem isDots_encode (segment : List Char) : isDots (encode inPathSet segment) = isDots segment := by
  by_cases plain : ∀ char ∈ segment, inPathSet char = false
  · rw [encode_of_plain plain]
  · push Not at plain
    obtain ⟨char, inSegment, isEncoded⟩ := plain
    rw [Ne, Bool.not_eq_false] at isEncoded
    obtain ⟨front, rest, rfl⟩ := List.append_of_mem inSegment
    have noDot : char ≠ '.' := by
      rintro rfl
      revert isEncoded
      decide
    obtain ⟨byte, bytes, isChar⟩ : ∃ byte bytes, String.utf8EncodeChar char = byte :: bytes :=
      List.exists_cons_of_ne_nil String.utf8EncodeChar_ne_nil
    have otherByte : byte.toNat ≠ 0x2E := by
      intro isDot
      have absent := @Utf8.not_mem_encode [char] byte (by omega) (by
        rw [isDot, List.mem_singleton]
        exact Ne.symm noDot)
      simp [Utf8.encode, isChar] at absent
    have encodedNoDots : isDots (encode inPathSet (front ++ char :: rest)) = false := by
      rw [Bool.eq_false_iff]
      intro areDots
      have isLower := lower_of_isDots areDots
      have isText : encode inPathSet (front ++ char :: rest) = encode inPathSet front ++
          '%' :: Text.hexDigit (byte.toNat / 16) :: Text.hexDigit (byte.toNat % 16) ::
            (bytes.flatMap Text.percentEncodeByte ++ encode inPathSet rest) := by
        simp [encode, percentEncode, isEncoded, isChar, Text.percentEncodeByte]
      rw [isText, Text.toAsciiLowercase, List.map_append, List.map_cons, List.map_cons,
        List.map_cons] at isLower
      obtain ⟨isHigh, isLow⟩ := escape_of_mem_dotTexts isLower
      have digits : ∀ digit < 16, ((Text.hexDigit digit).toLower = '2' → digit = 2) ∧
          ((Text.hexDigit digit).toLower = 'e' → digit = 14) := by decide
      have small := byte.toNat_lt
      have high := (digits (byte.toNat / 16) (by omega)).1 isHigh
      have low := (digits (byte.toNat % 16) (by omega)).2 isLow
      omega
    rw [encodedNoDots, eq_comm, Bool.eq_false_iff]
    intro areDots
    have isLower : char.toLower ∈ Text.toAsciiLowercase (front ++ char :: rest) :=
      List.mem_map_of_mem inSegment
    have plain := not_inPathSet_of_lower (lower_of_isDots areDots) isLower
    rw [isEncoded] at plain
    cases plain

end Places

end Slate.Foundation.UrlStandard
