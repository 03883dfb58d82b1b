import Slate.Broadwebd.OnionUrlText

/-!
# The ends of onion URLs

What the URL library cleans away at the end of a text depends on what stands there. The address
that the bar writes ends without the fragment and the white space of its input, so it may be
cleaned of more, or of less. A path or a query that goes on at its end is another one.
-/

namespace Slate.Broadwebd.Tor

open Foundation

/-- The end of a text is cleaned away alike with and without what the bar leaves out: in front
of a fragment there is nothing to clean away, and without one the bar trims no more than the
library does. -/
def EndsAlike (input : List Char) : Prop :=
  if '#' ∈ input then
    ∀ char ∈ (UrlStandard.unbroken (Text.before (· = '#') input)).getLast?,
      UrlStandard.isEdge char = false
  else ∀ char ∈ input.rtakeWhile Text.isWhitespace, UrlStandard.isEdge char = true

section Ends

variable {trimmed rest host port front back input start : List Char} {scheme : String}

theorem endCleaned_ne_nil {behind : List Char}
    (ends : ∀ char ∈ behind.head?, char = '/' ∨ UrlStandard.isMark char = true)
    (nonempty : behind ≠ []) : UrlStandard.endCleaned behind ≠ [] := by
  obtain ⟨first, others, rfl, isCleaned⟩ := head_endCleaned ends nonempty []
  rw [List.append_nil] at isCleaned
  rw [isCleaned]
  exact List.cons_ne_nil _ _

/-- White space behind a text that ends in none is all that there is at its end. -/
theorem rtakeWhile_eq (backSpaced : ∀ char ∈ back, Text.isWhitespace char = true)
    (last : ∀ char ∈ start.getLast?, Text.isWhitespace char = false) :
    (start ++ back).rtakeWhile Text.isWhitespace = back := by
  have noneBefore : start.rtakeWhile Text.isWhitespace = [] := by
    rw [List.rtakeWhile_eq_nil_iff]
    intro nonempty
    simp [last _ (List.getLast?_eq_some_getLast nonempty)]
  rw [Text.rtakeWhile_append_of_pos backSpaced, noneBefore, List.nil_append]

/-- In front of a fragment, an end is cleaned away alike if what stands last stays. -/
theorem endsAlike_of_fragment {suffix fragment authority : List Char}
    (isInput : input = start ++ authority ++ (suffix ++ '#' :: fragment))
    (noMark : '#' ∉ start ++ authority ++ suffix) (nonempty : authority ≠ [])
    (visible : ∀ char ∈ authority, UrlStandard.isEdge char = false) :
    EndsAlike input ↔ UrlStandard.unbroken suffix = UrlStandard.endCleaned suffix := by
  have hasMark : '#' ∈ input := by
    rw [isInput]
    simp
  have passes : ∀ char ∈ start ++ authority ++ suffix, (!decide (char = '#')) = true := by
    intro char isMember
    rw [Bool.not_eq_true', decide_eq_false_iff_not]
    rintro rfl
    exact noMark isMember
  have isBefore : Text.before (· = '#') input = start ++ authority ++ suffix := by
    rw [isInput, ← List.append_assoc, Text.before, List.takeWhile_append_of_pos passes,
      List.takeWhile_cons_of_neg (by simp), List.append_nil]
  rw [EndsAlike, if_pos hasMark, isBefore, UrlStandard.unbroken_eq_endCleaned_iff,
    UrlStandard.unbroken_append, UrlStandard.unbroken_append]
  have isAuthority : UrlStandard.unbroken authority = authority :=
    UrlStandard.filter_visible visible
  by_cases noSuffix : UrlStandard.unbroken suffix = []
  · rw [noSuffix, isAuthority, List.append_nil, List.getLast?_append_of_ne_nil _ nonempty]
    refine iff_of_true (fun char isLast => visible char (List.mem_of_getLast? isLast)) ?_
    intro char isLast
    cases isLast
  · rw [List.getLast?_append_of_ne_nil _ noSuffix]

/-- What one of the texts has more at its end than the other, if their ends are not alike. -/
theorem exists_tail (isUrl : Browser.HttpOnionUrl trimmed scheme rest host port)
    (isTrim : Text.trim input = trimmed) (isInput : input = front ++ (trimmed ++ back))
    (frontSpaced : ∀ char ∈ front, Text.isWhitespace char = true)
    (backSpaced : ∀ char ∈ back, Text.isWhitespace char = true)
    (nothingBehind : behindAuthority rest = [] → cleanedBehind rest back = []) :
    ∃ tail, (UrlStandard.splitMark '#' (cleanedBehind rest back)).1 =
        UrlStandard.endCleaned (Browser.targetText rest) ++ tail ∧
      (∀ char ∈ tail, UrlStandard.isTrimmed char = true) ∧
        (UrlStandard.endCleaned (Browser.targetText rest) = [] → tail = []) ∧
          (tail = [] ↔ EndsAlike input) := by
  have noMarkSpaced {spaced : List Char}
      (areSpaced : ∀ char ∈ spaced, Text.isWhitespace char = true) : '#' ∉ spaced := by
    intro isMember
    have isSpace := areSpaced '#' isMember
    revert isSpace
    decide
  obtain ⟨start, isStart, isLower⟩ := isUrl.exists_start
  obtain ⟨name, isStartText, isName, areNames, -⟩ := exists_name isUrl.isScheme isLower
  have isText : input = (front ++ start) ++ Browser.authorityOf rest ++
      (behindAuthority rest ++ back) := by
    rw [isInput, isStart]
    conv_lhs => rw [rest_eq rest]
    simp only [List.append_assoc]
  have visible : ∀ char ∈ Browser.authorityOf rest, UrlStandard.isEdge char = false :=
    fun char isMember => (visible_of_isHostChar (isHostChar_authority isUrl char isMember)).1
  have noMarkStart : '#' ∉ (front ++ start) ++ Browser.authorityOf rest := by
    rw [isStartText]
    simp only [List.mem_append, not_or]
    refine ⟨⟨noMarkSpaced frontSpaced, ?_, by decide⟩, ?_⟩
    · intro inName
      have isSchemeChar := areNames '#' inName
      revert isSchemeChar
      decide
    · intro inAuthority
      have passes := (visible_of_isHostChar (isHostChar_authority isUrl '#' inAuthority)).2
      revert passes
      decide
  by_cases isMember : '#' ∈ behindAuthority rest
  · obtain ⟨target, fragment, isBehind, absent⟩ := List.eq_append_cons_of_mem isMember
    have isTarget : Browser.targetText rest = target := by
      change Text.before (· = '#') (behindAuthority rest) = target
      rw [isBehind, Text.before_append_stop (by decide), Text.before, List.takeWhile_eq_self_iff]
      intro char inTarget
      rw [Bool.not_eq_true', decide_eq_false_iff_not]
      rintro rfl
      exact absent inTarget
    have isCleaned : (UrlStandard.splitMark '#' (cleanedBehind rest back)).1 =
        UrlStandard.unbroken target := by
      rw [cleanedBehind, isBehind, List.append_assoc, List.cons_append,
        UrlStandard.endCleaned_append_cons (by decide), UrlStandard.splitMark_append]
      exact fun inTarget => absent (List.mem_of_mem_filter inTarget)
    have split := UrlStandard.unbroken_eq target
    refine ⟨_, isCleaned.trans (by rw [isTarget, split]), ?_, ?_, ?_⟩
    · intro char inTail
      have isEdge := List.mem_rtakeWhile_imp (List.mem_of_mem_filter inTail)
      rw [UrlStandard.isTrimmed, isEdge, Bool.true_or]
    · intro nothing
      rw [isTarget] at nothing
      have noTarget : target = [] := by
        by_contra nonempty
        apply endCleaned_ne_nil _ nonempty nothing
        intro char isHead
        apply @head_behindAuthority rest
        rw [isBehind, List.head?_append_of_ne_nil _ nonempty]
        exact isHead
      rw [noTarget]
      rfl
    · have isWhole : input = (front ++ start) ++ Browser.authorityOf rest ++
          (target ++ '#' :: (fragment ++ back)) := by
        rw [isText, isBehind, List.append_assoc target, List.cons_append]
      have noMark : '#' ∉ (front ++ start) ++ Browser.authorityOf rest ++ target := fun inText =>
        (List.mem_append.mp inText).elim noMarkStart absent
      rw [endsAlike_of_fragment isWhole noMark (authority_ne_nil isUrl) visible, split,
        List.append_right_eq_self]
  · have isTarget : Browser.targetText rest = behindAuthority rest := by
      change Text.before (· = '#') (behindAuthority rest) = behindAuthority rest
      rw [Text.before, List.takeWhile_eq_self_iff]
      intro char inBehind
      rw [Bool.not_eq_true', decide_eq_false_iff_not]
      rintro rfl
      exact isMember inBehind
    obtain ⟨tail, isTail, trimmedTail, noTail⟩ :=
      UrlStandard.endCleaned_append (behindAuthority rest) back
    have noMark : '#' ∉ cleanedBehind rest back := by
      intro inCleaned
      have inText := (List.rdropWhile_prefix _ _).subset (List.mem_of_mem_filter inCleaned)
      exact (List.mem_append.mp inText).elim isMember (noMarkSpaced backSpaced)
    have noMarkInput : '#' ∉ input := by
      rw [isText]
      exact fun inText => (List.mem_append.mp inText).elim noMarkStart fun inBehind =>
        (List.mem_append.mp inBehind).elim isMember (noMarkSpaced backSpaced)
    refine ⟨tail, ?_, ?_, ?_, ?_⟩
    · rw [UrlStandard.splitMark_of_notMem noMark, isTarget]
      exact isTail
    · intro char inTail
      rw [UrlStandard.isTrimmed, Bool.or_eq_true]
      exact (trimmedTail char inTail).imp id (backSpaced char)
    · intro nothing
      rw [isTarget] at nothing
      have noBehind : behindAuthority rest = [] := by
        by_contra nonempty
        exact endCleaned_ne_nil head_behindAuthority nonempty nothing
      have isNothing := nothingBehind noBehind
      rw [cleanedBehind, isTail] at isNothing
      exact (List.append_eq_nil_iff.mp isNothing).2
    · have nonempty : trimmed ≠ [] := by
        rw [isStart, isStartText]
        simp
      rw [noTail, EndsAlike, if_neg noMarkInput, isInput, ← List.append_assoc,
        rtakeWhile_eq backSpaced]
      rw [List.getLast?_append_of_ne_nil _ nonempty, ← isTrim]
      exact Text.getLast_trim input

end Ends

section Comparison

variable {path query tail written : List Char}

def withSlash (path : List Char) : List Char := if path = [] then ['/'] else path

/-- The segments of a path under the schemes of HTTP and under those of Slate's own. -/
theorem parsePath_eq_iff (isPath : path = [] ∨ ∃ rest, path = '/' :: rest) :
    UrlStandard.parsePath true path = UrlStandard.parsePath false (withSlash path) ↔
      UrlStandard.parseSegments true path.tail = UrlStandard.parseSegments false path.tail := by
  rcases isPath with rfl | ⟨rest, rfl⟩
  · rw [withSlash, if_pos rfl, UrlStandard.parsePath_slash]
    rfl
  · rw [withSlash, if_neg (List.cons_ne_nil _ _), UrlStandard.parsePath_slash,
      UrlStandard.parsePath_slash]
    rfl

theorem parsePath_append_eq_iff (isPath : path = [] ∨ ∃ rest, path = '/' :: rest)
    (trimmed : ∀ char ∈ tail, UrlStandard.isTrimmed char = true)
    (noTail : path = [] → tail = []) :
    UrlStandard.parsePath true (path ++ tail) = UrlStandard.parsePath false (withSlash path) ↔
      tail = [] ∧ UrlStandard.parseSegments true (path ++ tail).tail =
        UrlStandard.parseSegments false (path ++ tail).tail := by
  by_cases empty : tail = []
  · subst empty
    rw [List.append_nil, parsePath_eq_iff isPath]
    exact (and_iff_right rfl).symm
  · apply iff_of_false _ fun both => empty both.1
    rcases isPath with rfl | ⟨rest, rfl⟩
    · exact absurd (noTail rfl) empty
    · rw [withSlash, if_neg (List.cons_ne_nil _ _), List.cons_append, UrlStandard.parsePath_slash,
        UrlStandard.parsePath_slash]
      exact UrlStandard.parseSegments_append_ne empty trimmed

theorem requestTarget_append (isPath : path = [] ∨ ∃ rest, path = '/' :: rest)
    {more : List Char} (isMore : more = [] ∨ more.head? = some '?') :
    Browser.requestTarget (path ++ more) = withSlash path ++ more := by
  rcases isPath with rfl | ⟨rest, rfl⟩
  · rcases isMore with rfl | isMark
    · rfl
    · obtain ⟨others, rfl⟩ := List.head?_eq_some_iff.mp isMark
      rfl
  · rfl

/-- The parts of a text that ends with its query. -/
theorem exists_parts (starts : ∀ char ∈ written.head?, char = '/' ∨ char = '?') :
    ∃ path query, written = path ++ (Option.map ('?' :: ·) query).getD [] ∧ '?' ∉ path ∧
      (path = [] ∨ ∃ rest, path = '/' :: rest) := by
  have ofPath {path more : List Char} (isWritten : written = path ++ more) (absent : '?' ∉ path) :
      path = [] ∨ ∃ rest, path = '/' :: rest := by
    cases path with
    | nil => exact .inl rfl
    | cons first rest =>
        right
        rw [isWritten] at starts
        rcases starts first rfl with rfl | rfl
        · exact ⟨rest, rfl⟩
        · exact absurd List.mem_cons_self absent
  by_cases isMember : '?' ∈ written
  · obtain ⟨path, query, isWritten, absent⟩ := List.eq_append_cons_of_mem isMember
    exact ⟨path, some query, isWritten, absent, ofPath isWritten absent⟩
  · have isWritten : written = written ++ (Option.map ('?' :: ·) none).getD [] := by simp
    exact ⟨written, none, isWritten, isMember, ofPath isWritten isMember⟩

/-- What both read of a text, if one of them reads more at its end. -/
theorem target_eq_iff (starts : ∀ char ∈ written.head?, char = '/' ∨ char = '?')
    (trimmed : ∀ char ∈ tail, UrlStandard.isTrimmed char = true)
    (noTail : written = [] → tail = []) :
    UrlStandard.parsePath true (UrlStandard.splitMark '?' (written ++ tail)).1 =
        UrlStandard.parsePath false
          (UrlStandard.splitMark '?' (Browser.requestTarget written)).1 ∧
      (UrlStandard.splitMark '?' (written ++ tail)).2.map
          (UrlStandard.encode UrlStandard.inSpecialQuerySet) =
        (UrlStandard.splitMark '?' (Browser.requestTarget written)).2.map
          (UrlStandard.encode UrlStandard.inQuerySet) ↔
      tail = [] ∧
        (∀ query ∈ (UrlStandard.splitMark '?' (written ++ tail)).2, '\'' ∉ query) ∧
          UrlStandard.parseSegments true (UrlStandard.splitMark '?' (written ++ tail)).1.tail =
            UrlStandard.parseSegments false
              (UrlStandard.splitMark '?' (written ++ tail)).1.tail := by
  have noMark : '?' ∉ tail := by
    intro isMember
    have isTrimmed := trimmed '?' isMember
    revert isTrimmed
    decide
  obtain ⟨path, query, rfl, absent, isPath⟩ := exists_parts starts
  have absentSlash : '?' ∉ withSlash path := by
    unfold withSlash
    split
    · decide
    · exact absent
  cases query with
  | none =>
      simp only [Option.map_none, Option.getD_none, List.append_nil] at noTail ⊢
      have isTarget := @requestTarget_append path isPath [] (.inl rfl)
      rw [List.append_nil, List.append_nil] at isTarget
      rw [isTarget, UrlStandard.splitMark_of_notMem (by simp [absent, noMark]),
        UrlStandard.splitMark_of_notMem absentSlash]
      have isSame := parsePath_append_eq_iff isPath trimmed noTail
      simpa using isSame
  | some text =>
      have isTarget := @requestTarget_append path isPath ('?' :: text) (.inr rfl)
      simp only [Option.map_some, Option.getD_some, List.append_assoc, List.cons_append]
      rw [isTarget, UrlStandard.splitMark_append absent, UrlStandard.splitMark_append absentSlash]
      simp only [Option.map_some, Option.some.injEq, Option.mem_some_iff, forall_eq']
      rw [parsePath_eq_iff isPath, UrlStandard.encode_special_eq_iff]
      constructor
      · rintro ⟨sameSegments, rfl, noApostrophe⟩
        simpa using ⟨noApostrophe, sameSegments⟩
      · rintro ⟨rfl, noApostrophe, sameSegments⟩
        rw [List.append_nil] at noApostrophe
        exact ⟨sameSegments, rfl, noApostrophe⟩

end Comparison

end Slate.Broadwebd.Tor
