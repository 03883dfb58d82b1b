import Slate.Broadwebd.ContentTypes
import Slate.Broadwebd.KuboNode

/-!
# The names of attachments

The header that names an attachment is a list of parameters with semicolons between them, and a
parameter's value may be quoted. It is split at every semicolon, whether it stands in quotes or
not: a name with a semicolon is cut there, and a quoted value in front of the name may be taken
for the name.
-/

namespace Slate.Broadwebd

open Foundation

section Grammar

def isTokenChar (char : Char) : Bool :=
  char.isAlphanum || "!#$%&'*+-.^_`|~".toList.contains char

def IsToken (text : List Char) : Prop := text ≠ [] ∧ ∀ char ∈ text, isTokenChar char

def IsBlank (text : List Char) : Prop := ∀ char ∈ text, char = ' ' ∨ char = '\t'

/-- A character in quotes, as it is or behind a backslash. -/
inductive QuotedChar where
  | plain (char : Char)
  | escaped (char : Char)
  deriving DecidableEq, Repr

def QuotedChar.write : QuotedChar → List Char
  | .plain char => [char]
  | .escaped char => ['\\', char]

def QuotedChar.WellFormed : QuotedChar → Prop
  | .plain char => char ≠ '"' ∧ char ≠ '\\' ∧ (isControl char = true → char = '\t')
  | .escaped char => isControl char = true → char = '\t'

inductive ParameterValue where
  | token (text : List Char)
  | quoted (text : List QuotedChar)
  deriving DecidableEq, Repr

def ParameterValue.write : ParameterValue → List Char
  | .token text => text
  | .quoted text => '"' :: (text.flatMap QuotedChar.write ++ ['"'])

def ParameterValue.WellFormed : ParameterValue → Prop
  | .token text => IsToken text
  | .quoted text => ∀ char ∈ text, char.WellFormed

/-- A parameter with the blanks around its parts. -/
structure Parameter where
  beforeName : List Char := []
  name : List Char
  afterName : List Char := []
  beforeValue : List Char := []
  value : ParameterValue
  afterValue : List Char := []
  deriving DecidableEq, Repr

def Parameter.write (parameter : Parameter) : List Char :=
  parameter.beforeName ++ parameter.name ++ parameter.afterName ++
    '=' :: (parameter.beforeValue ++ parameter.value.write ++ parameter.afterValue)

structure Parameter.WellFormed (parameter : Parameter) : Prop where
  beforeName : IsBlank parameter.beforeName
  name : IsToken parameter.name
  afterName : IsBlank parameter.afterName
  beforeValue : IsBlank parameter.beforeValue
  value : parameter.value.WellFormed
  afterValue : IsBlank parameter.afterValue

def Parameter.NamesFile (parameter : Parameter) : Prop :=
  Text.toAsciiLowercase parameter.name = "filename".toList

/-- The value of a header: the disposition, and the parameter that names the file among others. -/
structure AttachmentHeader where
  before : List Char := []
  disposition : List Char
  behind : List Char := []
  front : List Parameter
  file : Parameter
  back : List Parameter
  deriving DecidableEq, Repr

def AttachmentHeader.write (header : AttachmentHeader) : List Char :=
  header.before ++ header.disposition ++ header.behind ++
    (header.front ++ header.file :: header.back).flatMap fun parameter => ';' :: parameter.write

/-- The names a header is expected to carry. -/
structure IsAttachmentName (name : List Char) : Prop where
  nonempty : name ≠ []
  chars : ∀ char ∈ name, char ≠ '"' ∧ char ≠ '\\' ∧ isControl char = false

structure AttachmentHeader.WellFormed (header : AttachmentHeader) (name : List Char) : Prop where
  before : IsBlank header.before
  disposition : Text.toAsciiLowercase header.disposition = "attachment".toList
  behind : IsBlank header.behind
  front : ∀ parameter ∈ header.front, parameter.WellFormed ∧ ¬parameter.NamesFile
  file : header.file.WellFormed ∧ header.file.NamesFile
  value : header.file.value = .quoted (name.map .plain)
  back : ∀ parameter ∈ header.back, parameter.WellFormed ∧ ¬parameter.NamesFile

end Grammar

section Pieces

variable {parameter : Parameter} {name text piece : List Char} {char : Char}

/-- What a piece between two semicolons gives for the name of the file. -/
def pieceFilename (piece : List Char) : Option String :=
  (Text.splitOnce ['='] piece).bind fun (name, value) =>
    if Text.toAsciiLowercase (Text.trim name) = "filename".toList then
      let filename := unquoteHeaderValue (Text.trim value)
      if filename = [] then none else some (String.ofList filename)
    else none

/-- The pieces of a parameter behind a semicolon in its value. -/
def Parameter.strayPieces (parameter : Parameter) : List (List Char) :=
  (parameter.write.splitOn ';').tail

/-- The first of the pieces that gives a name. -/
def strayFilename (parameters : List Parameter) : Option String :=
  (parameters.flatMap Parameter.strayPieces).findSome? pieceFilename

theorem IsBlank.isWhitespace (isBlank : IsBlank text) :
    ∀ char ∈ text, Text.isWhitespace char := by
  intro char isMember
  rcases isBlank char isMember with rfl | rfl <;> decide

theorem IsBlank.noMark (isBlank : IsBlank text) :
    ∀ char ∈ text, char ≠ ';' ∧ char ≠ '=' := by
  intro char isMember
  rcases isBlank char isMember with rfl | rfl <;> decide

theorem IsToken.noMark (isToken : IsToken text) :
    ∀ char ∈ text, char ≠ ';' ∧ char ≠ '=' ∧ Text.isWhitespace char = false := by
  intro char isMember
  have isChar := isToken.2 char isMember
  rcases Bool.or_eq_true_iff.mp isChar with alphanum | isMark
  · refine ⟨?_, ?_, Text.isWhitespace_of_alphanum alphanum⟩
    · rintro rfl
      exact absurd alphanum (by decide)
    · rintro rfl
      exact absurd alphanum (by decide)
  · have marks : "!#$%&'*+-.^_`|~".toList.all fun char =>
        decide (char ≠ ';' ∧ char ≠ '=' ∧ Text.isWhitespace char = false) := by decide
    exact of_decide_eq_true (List.all_eq_true.mp marks char (List.contains_iff_mem.mp isMark))

/-- The name of a parameter ends at the first equals sign. -/
theorem pieceFilename_of_name (isBefore : IsBlank parameter.beforeName)
    (isName : IsToken parameter.name) (isAfter : IsBlank parameter.afterName)
    (value : List Char) :
    pieceFilename (parameter.beforeName ++ parameter.name ++ parameter.afterName ++ '=' :: value) =
      if Text.toAsciiLowercase parameter.name = "filename".toList then
        let filename := unquoteHeaderValue (Text.trim value)
        if filename = [] then none else some (String.ofList filename)
      else none := by
  have split : Text.splitOnce ['='] (parameter.beforeName ++ parameter.name ++
      parameter.afterName ++ '=' :: value) =
      some (parameter.beforeName ++ parameter.name ++ parameter.afterName, value) := by
    apply Text.splitOnce_char_eq_some_iff.mpr
    refine ⟨rfl, fun isMark => ?_⟩
    simp only [List.mem_append] at isMark
    rcases isMark with (inBefore | inName) | inAfter
    · exact (isBefore.noMark _ inBefore).2 rfl
    · exact (isName.noMark _ inName).2.1 rfl
    · exact (isAfter.noMark _ inAfter).2 rfl
  have unspaced : Text.Unspaced parameter.name := fun char isMember =>
    (isName.noMark char isMember).2.2
  simp only [pieceFilename, split, Option.bind_some, Text.trim_between isBefore.isWhitespace isAfter.isWhitespace,
    Text.trim_of_unspaced unspaced]

/-- The first piece ends at the first semicolon. -/
theorem splitOn_eq_before_cons (text : List Char) :
    ∃ behind, text.splitOn ';' = Text.before (· = ';') text :: behind := by
  induction text with
  | nil => exact ⟨[], rfl⟩
  | cons char rest inductionHypothesis =>
      obtain ⟨behind, isRest⟩ := inductionHypothesis
      rw [List.splitOn, List.splitOnP_cons_eq_if_modifyHead, ← List.splitOn, isRest]
      by_cases isMark : char = ';'
      · refine ⟨Text.before (· = ';') rest :: behind, ?_⟩
        rw [if_pos (beq_iff_eq.mpr isMark), isMark]
        rfl
      · refine ⟨behind, ?_⟩
        have other : ¬(char == ';') = true := fun same => isMark (beq_iff_eq.mp same)
        have passes : (!decide (char = ';')) = true := by simpa using isMark
        have longer : Text.before (· = ';') (char :: rest) = char :: Text.before (· = ';') rest :=
          List.takeWhile_cons_of_pos passes
        rw [if_neg other, longer]
        rfl

theorem unquote_subset (text : List Char) : unquoteHeaderValue text ⊆ text := by
  rw [unquoteHeaderValue.eq_def]
  split
  · split
    · exact fun char isMember => List.mem_cons_of_mem _ (List.dropLast_subset _ isMember)
    · exact List.Subset.refl _
  · exact List.Subset.refl _

/-- The text of a value with its blanks. -/
def Parameter.valueText (parameter : Parameter) : List Char :=
  parameter.beforeValue ++ parameter.value.write ++ parameter.afterValue

/-- The pieces of a parameter, the first with its name. -/
theorem splitOn_write (wellFormed : parameter.WellFormed) :
    parameter.write.splitOn ';' = (parameter.beforeName ++ parameter.name ++ parameter.afterName ++
      '=' :: Text.before (· = ';') parameter.valueText) :: parameter.strayPieces := by
  obtain ⟨behind, isSplit⟩ := splitOn_eq_before_cons parameter.write
  have passes : ∀ char ∈ parameter.beforeName ++ parameter.name ++ parameter.afterName ++ ['='],
      (!decide (char = ';')) = true := by
    intro char isMember
    simp only [List.mem_append, List.mem_singleton] at isMember
    rw [Bool.not_eq_true', decide_eq_false_iff_not]
    rcases isMember with ((inBefore | inName) | inAfter) | rfl
    · exact (wellFormed.beforeName.noMark char inBefore).1
    · exact (wellFormed.name.noMark char inName).1
    · exact (wellFormed.afterName.noMark char inAfter).1
    · decide
  have first := @List.takeWhile_append_of_pos _ _ _ parameter.valueText passes
  rw [Parameter.strayPieces, isSplit, List.tail_cons]
  congr 1
  simpa [Text.before, Parameter.write, Parameter.valueText] using first

/-- A parameter with another name gives a name of the file only by its stray pieces. -/
theorem findSome?_of_not_namesFile (wellFormed : parameter.WellFormed)
    (other : ¬parameter.NamesFile) :
    (parameter.write.splitOn ';').findSome? pieceFilename =
      parameter.strayPieces.findSome? pieceFilename := by
  rw [Parameter.NamesFile] at other
  rw [splitOn_write wellFormed, List.findSome?_cons, pieceFilename_of_name wellFormed.beforeName
    wellFormed.name wellFormed.afterName, if_neg other]

theorem flatMap_plain (name : List Char) :
    (name.map QuotedChar.plain).flatMap QuotedChar.write = name := by
  induction name with
  | nil => rfl
  | cons char rest inductionHypothesis =>
      rw [List.map_cons, List.flatMap_cons, inductionHypothesis]
      rfl

/-- A quoted name without a semicolon is read whole. -/
theorem findSome?_of_namesFile (wellFormed : parameter.WellFormed)
    (namesFile : parameter.NamesFile) (isName : IsAttachmentName name)
    (isValue : parameter.value = .quoted (name.map .plain)) (whole : ';' ∉ name) :
    (parameter.write.splitOn ';').findSome? pieceFilename = some (String.ofList name) := by
  have isText : parameter.valueText =
      parameter.beforeValue ++ ('"' :: (name ++ ['"'])) ++ parameter.afterValue := by
    rw [Parameter.valueText, isValue, ParameterValue.write, flatMap_plain]
  have passes : ∀ char ∈ parameter.valueText, decide (char = ';') = false := by
    intro char isMember
    rw [isText] at isMember
    simp only [List.mem_append, List.mem_cons, List.not_mem_nil, or_false] at isMember
    rw [decide_eq_false_iff_not]
    rintro rfl
    rcases isMember with (inBefore | isQuote | inName | isQuote) | inAfter
    · exact (wellFormed.beforeValue.noMark _ inBefore).1 rfl
    · exact absurd isQuote (by decide)
    · exact whole inName
    · exact absurd isQuote (by decide)
    · exact (wellFormed.afterValue.noMark _ inAfter).1 rfl
  have unbroken : Text.before (· = ';') parameter.valueText = parameter.valueText := by
    have front := @Text.before_append_fromStop (· = ';') parameter.valueText
    rwa [Text.fromStop_eq_nil_iff.mpr passes, List.append_nil] at front
  have trimmed : Text.trim ('"' :: (name ++ ['"'])) = '"' :: (name ++ ['"']) := by
    have unspaced : Text.Unspaced ['"'] := by decide
    have whole : Text.trim (['"'] ++ (name ++ ['"'])) = _ :=
      Text.trim_append_of_unspaced unspaced (by simp)
    rwa [List.rdropWhile_concat_neg _ _ _ (by decide)] at whole
  have unquoted : unquoteHeaderValue ('"' :: (name ++ ['"'])) = name := by
    rw [unquoteHeaderValue, if_pos (by simp), List.dropLast_concat]
  rw [Parameter.NamesFile] at namesFile
  rw [splitOn_write wellFormed, unbroken, isText, List.findSome?_cons,
    pieceFilename_of_name wellFormed.beforeName wellFormed.name wellFormed.afterName,
    if_pos namesFile, Text.trim_between wellFormed.beforeValue.isWhitespace
      wellFormed.afterValue.isWhitespace, trimmed,
    unquoted]
  simp only [if_neg isName.nonempty]

/-- A name with a semicolon is cut there, and the quote in front of it stays. -/
theorem findSome?_cut (wellFormed : parameter.WellFormed)
    (namesFile : parameter.NamesFile) (isName : IsAttachmentName name)
    (isValue : parameter.value = .quoted (name.map .plain)) (cut : ';' ∈ name) :
    ∃ found, (parameter.write.splitOn ';').findSome? pieceFilename = some found ∧
      found ≠ String.ofList name := by
  obtain ⟨front, back, rfl, noMark⟩ := List.eq_append_cons_of_mem cut
  have isText : parameter.valueText = parameter.beforeValue ++ '"' :: front ++
      ';' :: (back ++ ['"'] ++ parameter.afterValue) := by
    rw [Parameter.valueText, isValue, ParameterValue.write, flatMap_plain]
    simp
  have firstPiece : Text.before (· = ';') parameter.valueText =
      parameter.beforeValue ++ ('"' :: front) ++ [] := by
    have noMarkBefore : ∀ char ∈ parameter.beforeValue ++ '"' :: front,
        (!decide (char = ';')) = true := by
      intro char isMember
      rw [Bool.not_eq_true', decide_eq_false_iff_not]
      rintro rfl
      rcases List.mem_append.mp isMember with inBefore | inFront
      · exact (wellFormed.beforeValue.noMark _ inBefore).1 rfl
      · rcases List.mem_cons.mp inFront with isQuote | inFront
        · exact absurd isQuote (by decide)
        · exact noMark inFront
    rw [isText, Text.before_append_stop (by decide), List.append_nil, Text.before,
      List.takeWhile_eq_self_iff.mpr noMarkBefore]
  have unspaced : Text.Unspaced ['"'] := by decide
  have trimmed : Text.trim (['"'] ++ front) = ['"'] ++ front.rdropWhile Text.isWhitespace :=
    Text.trim_append_of_unspaced unspaced (by simp)
  have noQuote : '"' ∉ front.rdropWhile Text.isWhitespace := by
    intro isQuote
    have inFront := (List.rdropWhile_prefix _ front).subset isQuote
    exact (isName.chars _ (List.mem_append_left _ inFront)).1 rfl
  have quoted : unquoteHeaderValue ('"' :: front.rdropWhile Text.isWhitespace) =
      '"' :: front.rdropWhile Text.isWhitespace := by
    rw [unquoteHeaderValue, if_neg]
    exact fun isLast => noQuote (List.mem_of_getLast? isLast)
  refine ⟨String.ofList ('"' :: front.rdropWhile Text.isWhitespace), ?_, ?_⟩
  · rw [Parameter.NamesFile] at namesFile
    rw [splitOn_write wellFormed, firstPiece, List.findSome?_cons,
      pieceFilename_of_name wellFormed.beforeName wellFormed.name wellFormed.afterName,
      if_pos namesFile, Text.trim_between wellFormed.beforeValue.isWhitespace (by simp)]
    rw [List.singleton_append] at trimmed
    rw [trimmed, List.singleton_append, quoted]
    rfl
  · intro same
    have isQuote : '"' ∈ front ++ ';' :: back := by
      rw [← String.ofList_inj.mp same]
      exact List.mem_cons_self
    exact (isName.chars _ isQuote).1 rfl

/-- What a piece gives stands in it. -/
theorem mem_of_pieceFilename {found : String} (isFound : pieceFilename piece = some found)
    (isMember : char ∈ found.toList) : char ∈ piece := by
  obtain ⟨⟨front, value⟩, split, named⟩ := Option.bind_eq_some_iff.mp isFound
  simp only at named
  split at named
  · split at named
    · cases named
    · obtain rfl := Option.some.inj named
      rw [String.toList_ofList] at isMember
      rw [(Text.splitOnce_char_eq_some_iff.mp split).1]
      apply List.mem_append_right
      exact List.mem_cons_of_mem _ (Text.trim_subset value (unquote_subset _ isMember))
  · cases named

end Pieces

section Headers

variable {header : AttachmentHeader} {name : List Char}

/-- Parameters are split one by one. -/
theorem splitOn_parameters (start : List Char) (parameters : List Parameter) :
    (start ++ parameters.flatMap fun parameter => ';' :: parameter.write).splitOn ';' =
      start.splitOn ';' ++ parameters.flatMap fun parameter => parameter.write.splitOn ';' := by
  induction parameters generalizing start with
  | nil => simp
  | cons parameter rest inductionHypothesis =>
      rw [List.flatMap_cons, List.flatMap_cons, List.cons_append, List.splitOn_append_cons_self,
        inductionHypothesis]

theorem noMark_of_attachment {disposition : List Char}
    (isAttachment : Text.toAsciiLowercase disposition = "attachment".toList) :
    ';' ∉ disposition ∧ Text.Unspaced disposition := by
  constructor
  · intro isMark
    have inLower := Text.mem_toAsciiLowercase isMark (by decide)
    rw [isAttachment] at inLower
    exact absurd inLower (by decide)
  · apply Text.unspaced_of_toAsciiLowercase
    rw [isAttachment]
    decide

theorem noMark_start (wellFormed : header.WellFormed name) :
    ';' ∉ header.before ++ header.disposition ++ header.behind := by
  intro isMark
  simp only [List.mem_append] at isMark
  rcases isMark with (inBefore | inDisposition) | inBehind
  · exact (wellFormed.before.noMark _ inBefore).1 rfl
  · exact (noMark_of_attachment wellFormed.disposition).1 inDisposition
  · exact (wellFormed.behind.noMark _ inBehind).1 rfl

theorem isAttachment_write (wellFormed : header.WellFormed name) :
    Text.toAsciiLowercase (Text.trim (Text.before (· = ';') header.write)) =
      "attachment".toList := by
  have passes : ∀ char ∈ header.before ++ header.disposition ++ header.behind,
      (!decide (char = ';')) = true := by
    intro char isMember
    rw [Bool.not_eq_true', decide_eq_false_iff_not]
    rintro rfl
    exact noMark_start wellFormed isMember
  have isStart : Text.before (· = ';') header.write =
      header.before ++ header.disposition ++ header.behind := by
    obtain ⟨parameter, rest, isList⟩ :=
      List.exists_cons_of_ne_nil (List.append_ne_nil_of_right_ne_nil header.front
        (List.cons_ne_nil header.file header.back))
    rw [AttachmentHeader.write, isList, List.flatMap_cons, List.cons_append,
      Text.before_append_stop (by decide), Text.before, List.takeWhile_eq_self_iff.mpr passes]
  rw [isStart, Text.trim_between wellFormed.before.isWhitespace wellFormed.behind.isWhitespace,
    Text.trim_of_unspaced (noMark_of_attachment wellFormed.disposition).2, wellFormed.disposition]

/-- The pieces behind the disposition. -/
theorem pieces_write (wellFormed : header.WellFormed name) :
    (header.write.splitOn ';').drop 1 =
      (header.front ++ header.file :: header.back).flatMap fun parameter =>
        parameter.write.splitOn ';' := by
  rw [AttachmentHeader.write, splitOn_parameters,
    List.splitOn_eq_singleton (noMark_start wellFormed)]
  rfl

theorem findSome?_front {parameters : List Parameter}
    (others : ∀ parameter ∈ parameters, parameter.WellFormed ∧ ¬parameter.NamesFile) :
    (parameters.flatMap fun parameter => parameter.write.splitOn ';').findSome? pieceFilename =
      strayFilename parameters := by
  rw [strayFilename]
  induction parameters with
  | nil => rfl
  | cons parameter rest inductionHypothesis =>
      obtain ⟨⟨wellFormed, other⟩, others⟩ := List.forall_mem_cons.mp others
      rw [List.flatMap_cons, List.flatMap_cons, List.findSome?_append, List.findSome?_append,
        inductionHypothesis others, findSome?_of_not_namesFile wellFormed other]

/-- What stands between two semicolons has none. -/
theorem noMark_strayFilename {parameters : List Parameter} {found : String}
    (isFound : strayFilename parameters = some found) : ';' ∉ found.toList := by
  obtain ⟨piece, isPiece, isName⟩ := List.exists_of_findSome?_eq_some isFound
  obtain ⟨parameter, -, isStray⟩ := List.mem_flatMap.mp isPiece
  intro isMark
  have mark := @Text.not_separates_of_mem_splitOnP _ (· == ';') _ _
    (List.mem_of_mem_tail isStray) (mem_of_pieceFilename isName isMark)
  exact absurd mark (by decide)

/-- The pieces of a header give a name, if not always that of the file. -/
theorem findSome?_header (wellFormed : header.WellFormed name) (isName : IsAttachmentName name) :
    ∃ found, ((header.write.splitOn ';').drop 1).findSome? pieceFilename = some found ∧
      (found = String.ofList name ↔ ';' ∉ name ∧
        ∀ stray, strayFilename header.front = some stray → stray = String.ofList name) := by
  rw [pieces_write wellFormed, List.flatMap_append, List.findSome?_append,
    findSome?_front wellFormed.front, List.flatMap_cons, List.findSome?_append]
  cases stray : strayFilename header.front with
  | some found =>
      refine ⟨found, rfl, ?_⟩
      constructor
      · rintro rfl
        have noMark := noMark_strayFilename stray
        rw [String.toList_ofList] at noMark
        exact ⟨noMark, fun other same => (Option.some.inj same).symm⟩
      · exact fun named => named.2 found rfl
  | none =>
      have noStray : ∀ stray, (none : Option String) = some stray →
          stray = String.ofList name := by
        intro stray isStray
        cases isStray
      by_cases whole : ';' ∈ name
      · obtain ⟨found, cut, other⟩ := findSome?_cut wellFormed.file.1 wellFormed.file.2 isName
          wellFormed.value whole
        refine ⟨found, ?_, iff_of_false other fun named => named.1 whole⟩
        rw [cut, Option.some_or, Option.none_or]
      · refine ⟨String.ofList name, ?_, iff_of_true rfl ⟨whole, noStray⟩⟩
        rw [findSome?_of_namesFile wellFormed.file.1 wellFormed.file.2 isName wellFormed.value
          whole, Option.some_or, Option.none_or]

end Headers

section Responses

variable {parsers : UrlStandard.Parsers} {header : AttachmentHeader} {name : List Char}

/-- The first header of its name is the one given. -/
structure FirstDisposition (headers : List HttpHeader) (value : List Char) : Prop where
  isFirst : ∃ before field behind, headers = before ++ field :: behind ∧
    field.value = String.ofList value ∧
    Text.toAsciiLowercase field.name.toList = "content-disposition".toList ∧
    ∀ other ∈ before, Text.toAsciiLowercase other.name.toList ≠ "content-disposition".toList

theorem FirstDisposition.headerValue {headers : List HttpHeader} {value : List Char}
    (isFirst : FirstDisposition headers value) :
    headerValue headers "content-disposition" = some (String.ofList value) := by
  obtain ⟨⟨before, field, behind, rfl, isValue, isName, others⟩⟩ := isFirst
  have lower : Text.toAsciiLowercase "content-disposition".toList =
      "content-disposition".toList := by decide
  rw [Broadwebd.headerValue, lower, List.find?_append, List.find?_eq_none.mpr, Option.none_or,
    List.find?_cons_of_pos (by simp [isName]), Option.map_some, isValue]
  intro other isOther
  simpa using others other isOther

/-- An attachment's name is read whole where it has no semicolon and no quoted value in front of
it is taken for the name. -/
theorem attachmentName_readWhole_iff (parsers : UrlStandard.Parsers) (statusCode : UInt16)
    (finalUrl : String) (contentType : Option String) (headers : List HttpHeader)
    (header : AttachmentHeader) (name : List Char) (isName : IsAttachmentName name)
    (wellFormed : header.WellFormed name) (isFirst : FirstDisposition headers header.write) :
    responseDisposition parsers statusCode finalUrl contentType headers =
        .download (String.ofList name) ↔
      (200 ≤ statusCode ∧ statusCode ≤ 299) ∧ ';' ∉ name ∧
        ∀ found, strayFilename header.front = some found → found = String.ofList name := by
  have isAttachment : isAttachmentResponse headers = true := by
    rw [isAttachmentResponse, isFirst.headerValue, Option.any_some, String.toList_ofList]
    exact decide_eq_true (isAttachment_write wellFormed)
  obtain ⟨found, isFound, isWhole⟩ := findSome?_header wellFormed isName
  have isFilename : contentDispositionFilename headers = some found := by
    rw [contentDispositionFilename, isFirst.headerValue, Option.bind_some]
    change ((String.ofList header.write).toList.splitOn ';' |>.drop 1).findSome? pieceFilename = _
    rw [String.toList_ofList, isFound]
  rw [responseDisposition, isAttachment, isFilename]
  by_cases success : 200 ≤ statusCode ∧ statusCode ≤ 299
  · rw [if_neg (not_not_intro success), if_pos rfl, Option.getD_some,
      FetchDisposition.download.injEq, isWhole]
    simp only [success, and_self, true_and]
  · rw [if_pos success]
    simp [success]

/-- A quoted parameter behind a space. -/
def quotedParameter (field : String) (text : List Char) : Parameter where
  beforeName := [' ']
  name := field.toList
  value := .quoted (text.map .plain)

/-- A header `attachment; filename="..."`, perhaps with a title in front of the name. -/
def plainHeader (titles : List (List Char)) (name : List Char) : AttachmentHeader where
  disposition := "attachment".toList
  front := titles.map (quotedParameter "title")
  file := quotedParameter "filename" name
  back := []

theorem wellFormed_quotedParameter {field : String} (isToken : IsToken field.toList)
    (isName : IsAttachmentName name) : (quotedParameter field name).WellFormed where
  beforeName := by simp [quotedParameter, IsBlank]
  name := isToken
  afterName := by simp [quotedParameter, IsBlank]
  beforeValue := by simp [quotedParameter, IsBlank]
  value := by
    intro char isMember
    obtain ⟨plain, isPlain, rfl⟩ := List.mem_map.mp isMember
    obtain ⟨noQuote, noBackslash, noControl⟩ := isName.chars plain isPlain
    refine ⟨noQuote, noBackslash, fun control => ?_⟩
    rw [noControl] at control
    cases control
  afterValue := by simp [quotedParameter, IsBlank]

theorem isAttachmentName_of_all (nonempty : name ≠ [])
    (plain : (name.all fun char => char != '"' && char != '\\' && !isControl char) = true) :
    IsAttachmentName name := by
  refine ⟨nonempty, fun char isMember => ?_⟩
  have isPlain := List.all_eq_true.mp plain char isMember
  simpa [and_assoc] using isPlain

theorem wellFormed_plainHeader {titles : List (List Char)}
    (areNames : ∀ title ∈ titles, IsAttachmentName title) (isName : IsAttachmentName name) :
    (plainHeader titles name).WellFormed name where
  before := by simp [plainHeader, IsBlank]
  disposition := (by decide : Text.toAsciiLowercase "attachment".toList = "attachment".toList)
  behind := by simp [plainHeader, IsBlank]
  front := by
    intro parameter isMember
    obtain ⟨title, isTitle, rfl⟩ := List.mem_map.mp isMember
    have isToken : IsToken "title".toList :=
      ⟨by decide, List.all_eq_true.mp (by decide : "title".toList.all isTokenChar = true)⟩
    refine ⟨wellFormed_quotedParameter isToken (areNames title isTitle), ?_⟩
    exact (by decide : ¬Text.toAsciiLowercase "title".toList = "filename".toList)
  file := by
    have isToken : IsToken "filename".toList :=
      ⟨by decide, List.all_eq_true.mp (by decide : "filename".toList.all isTokenChar = true)⟩
    exact ⟨wellFormed_quotedParameter isToken isName,
      (by decide : Text.toAsciiLowercase "filename".toList = "filename".toList)⟩
  value := rfl
  back := by simp [plainHeader]

/-- The only header of a response. -/
def dispositionOf (header : AttachmentHeader) : List HttpHeader :=
  [⟨"Content-Disposition", String.ofList header.write⟩]

theorem firstDisposition_of (header : AttachmentHeader) :
    FirstDisposition (dispositionOf header) header.write := by
  have lower : Text.toAsciiLowercase "Content-Disposition".toList =
      "content-disposition".toList := by decide
  exact ⟨[], _, [], rfl, rfl, lower, by simp⟩

theorem report_is_read_whole :
    responseDisposition UrlStandard.asciiParsers 200 "https://example.test/" none
        (dispositionOf (plainHeader [] "report.pdf".toList)) =
      .download (String.ofList "report.pdf".toList) :=
  (attachmentName_readWhole_iff UrlStandard.asciiParsers 200 "https://example.test/" none _
    (plainHeader [] "report.pdf".toList) "report.pdf".toList
    (isAttachmentName_of_all (by decide) (by decide))
    (wellFormed_plainHeader (by simp) (isAttachmentName_of_all (by decide) (by decide)))
    (firstDisposition_of _)).mpr
    ⟨by decide, by decide, fun found isStray => by cases isStray⟩

/-- A semicolon cuts the name, and a quoted title may be taken for it. -/
theorem attachment_names_lost :
    (IsAttachmentName "a;b.txt".toList ∧
      (plainHeader [] "a;b.txt".toList).WellFormed "a;b.txt".toList ∧
      responseDisposition UrlStandard.asciiParsers 200 "https://example.test/" none
        (dispositionOf (plainHeader [] "a;b.txt".toList)) = .download "\"a") ∧
    IsAttachmentName "a.txt".toList ∧
      (plainHeader ["x; filename=y.exe; z".toList] "a.txt".toList).WellFormed "a.txt".toList ∧
      responseDisposition UrlStandard.asciiParsers 200 "https://example.test/" none
        (dispositionOf (plainHeader ["x; filename=y.exe; z".toList] "a.txt".toList)) =
          .download "y.exe" := by
  have cut : IsAttachmentName "a;b.txt".toList :=
    isAttachmentName_of_all (by decide) (by decide)
  have named : IsAttachmentName "a.txt".toList :=
    isAttachmentName_of_all (by decide) (by decide)
  have title : ∀ title ∈ ["x; filename=y.exe; z".toList], IsAttachmentName title := by
    intro title isTitle
    obtain rfl := List.mem_singleton.mp isTitle
    exact isAttachmentName_of_all (by decide) (by decide)
  refine ⟨⟨cut, wellFormed_plainHeader (by simp) cut, by decide⟩, named, ?_, by decide⟩
  exact wellFormed_plainHeader title named

end Responses

end Slate.Broadwebd
