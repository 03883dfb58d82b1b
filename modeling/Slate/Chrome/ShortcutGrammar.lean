import Slate.Chrome.KeyBindings

/-!
# The grammar of shortcuts

A shortcut is the name of one key and names of modifiers. The parser accepts every shortcut, and
apart from shortcuts only the texts in which names that it does not know stand in front of the
key: such a name leaves the slot of the key empty, and nothing remembers it.
-/

namespace Slate.Chrome

open Foundation

section Names

variable {platform : Platform} {token : List Char}

/-- The first entry of a table under a name, in any ASCII case. -/
def lookupName {Item : Type} (table : List (String × Item)) (token : List Char) : Option Item :=
  (table.find? fun entry => eqIgnoreAsciiCase token entry.1).map Prod.snd

theorem lookupName_nil {Item : Type} (token : List Char) :
    lookupName ([] : List (String × Item)) token = none := rfl

theorem lookupName_cons {Item : Type} (name : String) (item : Item)
    (table : List (String × Item)) (token : List Char) :
    lookupName ((name, item) :: table) token =
      if eqIgnoreAsciiCase token name then some item else lookupName table token := by
  rw [lookupName, List.find?_cons]
  cases eqIgnoreAsciiCase token name <;> rfl

theorem lookupName_isSome_iff {Item : Type} {table : List (String × Item)} :
    (lookupName table token).isSome ↔ ∃ entry ∈ table, eqIgnoreAsciiCase token entry.1 := by
  rw [lookupName, Option.isSome_map, List.find?_isSome]

def modifierNames (platform : Platform) : List (String × Modifiers) :=
  [("primary", cmdOrControl platform), ("ctrl", { control := true }),
    ("control", { control := true }), ("shift", { shift := true }), ("alt", { alt := true }),
    ("option", { alt := true }), ("meta", { metaKey := true }), ("cmd", { metaKey := true }),
    ("command", { metaKey := true }), ("super", { metaKey := true })]

def keyNames : List (String × NamedKey) :=
  [("PageUp", .pageUp), ("Page Up", .pageUp), ("PageDown", .pageDown), ("Page Down", .pageDown),
    ("ArrowLeft", .arrowLeft), ("Left", .arrowLeft), ("ArrowRight", .arrowRight),
    ("Right", .arrowRight), ("ArrowUp", .arrowUp), ("Up", .arrowUp), ("ArrowDown", .arrowDown),
    ("Down", .arrowDown), ("Tab", .tab), ("Escape", .escape), ("Esc", .escape),
    ("Enter", .enter), ("Return", .enter), ("Backspace", .backspace), ("Delete", .delete),
    ("Del", .delete), ("Insert", .insert), ("Ins", .insert), ("Home", .home), ("End", .endKey)]

theorem ite_bool_or {Item : Type} (first second : Bool) (item other : Item) :
    (if (first || second) = true then item else other) =
      if first = true then item else if second = true then item else other := by
  cases first <;> rfl

theorem modifierFromToken_eq (platform : Platform) (token : List Char) :
    modifierFromToken platform token = lookupName (modifierNames platform) token := by
  simp only [modifierNames, lookupName_cons, lookupName_nil, modifierFromToken, ite_bool_or]

theorem namedKeyFromToken_eq (token : List Char) :
    namedKeyFromToken token = (functionKeyFromToken token).or (lookupName keyNames token) := by
  cases found : functionKeyFromToken token with
  | some functionKey => rw [namedKeyFromToken, found, Option.some_or]
  | none =>
      simp only [keyNames, lookupName_cons, lookupName_nil, namedKeyFromToken, found,
        Option.none_or, ite_bool_or]

/-- An `F` with a number from one to twenty-four. -/
def IsFunctionKeyName (token : List Char) : Prop :=
  ∃ letter digits number, token = letter :: digits ∧ (letter = 'F' ∨ letter = 'f') ∧
    Spells 10 digits number ∧ 1 ≤ number ∧ number ≤ 24

def IsModifierName (platform : Platform) (token : List Char) : Prop :=
  ∃ entry ∈ modifierNames platform, eqIgnoreAsciiCase token entry.1

/-- A single character or the name of a key. -/
def IsKeyName (token : List Char) : Prop :=
  (∃ char, token = [char]) ∨ IsFunctionKeyName token ∨
    ∃ entry ∈ keyNames, eqIgnoreAsciiCase token entry.1

/-- No name of a modifier is that of a key. -/
theorem IsKeyName.not_isModifierName (isKey : IsKeyName token) :
    ¬IsModifierName platform token := by
  rintro ⟨entry, isEntry, same⟩
  have lower : Text.toAsciiLowercase token = Text.toAsciiLowercase entry.1.toList :=
    of_decide_eq_true same
  have apart : ∀ entry ∈ modifierNames platform,
      (Text.toAsciiLowercase entry.1.toList).length ≠ 1 ∧
        (Text.toAsciiLowercase entry.1.toList).head? ≠ some 'f' ∧
        ∀ key ∈ keyNames, Text.toAsciiLowercase key.1.toList ≠
          Text.toAsciiLowercase entry.1.toList := by
    cases platform <;> decide
  obtain ⟨longer, notF, notKey⟩ := apart entry isEntry
  rw [← lower] at longer notF notKey
  rcases isKey with ⟨char, rfl⟩ | ⟨letter, digits, number, rfl, isLetter, -⟩ |
    ⟨key, inNames, named⟩
  · exact longer rfl
  · rcases isLetter with rfl | rfl
    · exact notF rfl
    · exact notF rfl
  · exact notKey key inNames (of_decide_eq_true named).symm

theorem modifierFromToken_isSome_iff :
    (modifierFromToken platform token).isSome ↔ IsModifierName platform token := by
  rw [modifierFromToken_eq, lookupName_isSome_iff, IsModifierName]

theorem functionKeyFromToken_isSome_iff (noPlus : '+' ∉ token) :
    (functionKeyFromToken token).isSome ↔ IsFunctionKeyName token := by
  cases token with
  | nil => simp [functionKeyFromToken, IsFunctionKeyName]
  | cons letter digits =>
      have spelled (number : Nat) : fromStrRadix 10 256 digits = .ok number ↔
          Spells 10 digits number ∧ number < 256 := by
        rw [fromStrRadix_eq_ok_iff (by decide) (by decide)]
        constructor
        · rintro ⟨others, rfl | same, spells, small⟩
          · exact ⟨spells, small⟩
          · rw [same] at noPlus
            exact absurd (List.mem_cons_of_mem letter List.mem_cons_self) noPlus
        · exact fun ⟨spells, small⟩ => ⟨digits, .inl rfl, spells, small⟩
      constructor
      · intro isKey
        rw [functionKeyFromToken] at isKey
        split at isKey
        · rename_i isLetter
          split at isKey
          · cases isKey
          · rename_i number found
            have inTable : number < 24 := by simpa [functionKeys] using isKey
            exact ⟨letter, digits, number + 1, rfl, isLetter, ((spelled _).mp found).1, by omega,
              by omega⟩
          · cases isKey
        · cases isKey
      · rintro ⟨first, others, number, same, isLetter, spells, positive, small⟩
        obtain ⟨rfl, rfl⟩ := List.cons.inj same
        rw [functionKeyFromToken, if_pos isLetter, (spelled number).mpr ⟨spells, by omega⟩]
        cases number with
        | zero => omega
        | succ number =>
            have inTable : number < functionKeys.length := by
              change number < 24
              omega
            change (functionKeys[number]?).isSome = true
            rw [List.getElem?_eq_getElem inTable]
            rfl

theorem bindingKeyFromToken_isSome_iff (trimmed : Text.trim token = token)
    (noPlus : '+' ∉ token) :
    (bindingKeyFromToken token).isSome ↔ IsKeyName token := by
  rw [bindingKeyFromToken, trimmed, IsKeyName, ← functionKeyFromToken_isSome_iff noPlus,
    ← lookupName_isSome_iff]
  split
  · rename_i key
    simp
  · rename_i normalized longer
    have notSingle : ¬∃ char, token = [char] := fun ⟨char, single⟩ => longer char single
    rw [Option.isSome_map, namedKeyFromToken_eq, Option.isSome_or, Bool.or_eq_true]
    simp [notSingle]

end Names

section Loop

variable {platform : Platform} {tokens : List (List Char)}

/-- The names that are not those of modifiers. -/
def keyTokens (platform : Platform) (tokens : List (List Char)) : List (List Char) :=
  tokens.filter fun token => (modifierFromToken platform token).isNone

/-- The modifiers that a list of names asks for. -/
def namedModifiers (platform : Platform) (tokens : List (List Char)) : Modifiers :=
  (tokens.filterMap (modifierFromToken platform)).foldl Modifiers.union {}

/-- What the loop leaves in the slot of the key. -/
def keySlot : Option BindingKey → List (List Char) → Option (Option BindingKey)
  | key, [] => some key
  | some _, _ :: _ => none
  | none, token :: rest => keySlot (bindingKeyFromToken token) rest

/-- The modifiers do not matter for the key, nor the key for the modifiers. -/
theorem parseTokens_eq (modifiers : Modifiers) (key : Option BindingKey) :
    KeyBinding.parseTokens platform modifiers key tokens =
      (keySlot key (keyTokens platform tokens)).map fun key =>
        ((tokens.filterMap (modifierFromToken platform)).foldl Modifiers.union modifiers, key) := by
  induction tokens generalizing modifiers key with
  | nil => rfl
  | cons token rest inductionHypothesis =>
      rw [KeyBinding.parseTokens, keyTokens, List.filter_cons, List.filterMap_cons]
      cases isModifier : modifierFromToken platform token with
      | some modifier => exact inductionHypothesis _ key
      | none =>
          cases key with
          | some key => rfl
          | none => exact inductionHypothesis modifiers _

/-- A name in the slot stays there, and unknown names leave it empty. -/
theorem keySlot_eq_some_iff {key : BindingKey} :
    keySlot none tokens = some (some key) ↔ ∃ unknown last, tokens = unknown ++ [last] ∧
      (∀ token ∈ unknown, bindingKeyFromToken token = none) ∧
      bindingKeyFromToken last = some key := by
  induction tokens with
  | nil => simp [keySlot]
  | cons token rest inductionHypothesis =>
      rw [keySlot]
      cases isKey : bindingKeyFromToken token with
      | none =>
          rw [inductionHypothesis]
          constructor
          · rintro ⟨unknown, last, rfl, areUnknown, isLast⟩
            exact ⟨token :: unknown, last, rfl, List.forall_mem_cons.mpr ⟨isKey, areUnknown⟩,
              isLast⟩
          · rintro ⟨unknown, last, isList, areUnknown, isLast⟩
            cases unknown with
            | nil =>
                obtain ⟨rfl, rfl⟩ := List.cons.inj isList
                rw [isKey] at isLast
                cases isLast
            | cons first unknown =>
                obtain ⟨rfl, rfl⟩ := List.cons.inj isList
                exact ⟨unknown, last, rfl, (List.forall_mem_cons.mp areUnknown).2, isLast⟩
      | some found =>
          constructor
          · intro stays
            cases rest with
            | nil =>
                obtain rfl := Option.some.inj (Option.some.inj stays)
                exact ⟨[], token, rfl, by simp, isKey⟩
            | cons second rest => cases stays
          · rintro ⟨unknown, last, isList, areUnknown, isLast⟩
            cases unknown with
            | nil =>
                obtain ⟨rfl, rfl⟩ := List.cons.inj isList
                rw [isKey] at isLast
                rw [isLast]
                rfl
            | cons first unknown =>
                obtain ⟨rfl, -⟩ := List.cons.inj isList
                rw [(List.forall_mem_cons.mp areUnknown).1] at isKey
                cases isKey

/-- What the parser accepts. -/
theorem parse_eq_some_iff {value : List Char} {binding : KeyBinding} :
    KeyBinding.parse platform value = some binding ↔
      (∃ unknown last, keyTokens platform (KeyBinding.tokens value) = unknown ++ [last] ∧
        (∀ token ∈ unknown, bindingKeyFromToken token = none) ∧
        bindingKeyFromToken last = some binding.key) ∧
      binding.modifiers = namedModifiers platform (KeyBinding.tokens value) := by
  rw [← keySlot_eq_some_iff, KeyBinding.parse, parseTokens_eq]
  cases slot : keySlot none (keyTokens platform (KeyBinding.tokens value)) with
  | none => simp
  | some key =>
      obtain ⟨modifiers, bindingKey⟩ := binding
      cases key with
      | none => simp
      | some key =>
          simp only [Option.map_some, Option.bind_eq_bind, Option.bind_some, Option.some.injEq,
            KeyBinding.mk.injEq, namedModifiers]
          grind

end Loop

section Grammar

variable {platform : Platform} {value : List Char} {tokens : List (List Char)}

/-- Names of modifiers with the name of one key among them. -/
def IsShortcut (platform : Platform) (tokens : List (List Char)) : Prop :=
  ∃ front key back, tokens = front ++ key :: back ∧
    (∀ token ∈ front ++ back, IsModifierName platform token) ∧ IsKeyName key

/-- Behind names that nothing knows stands the name of a key. -/
def HidesUnknownNames (platform : Platform) (tokens : List (List Char)) : Prop :=
  ∃ unknown last, unknown ≠ [] ∧ keyTokens platform tokens = unknown ++ [last] ∧
    (∀ token ∈ unknown, ¬IsKeyName token) ∧ IsKeyName last

/-- The shortcuts are what the parser accepts, with the modifiers they name. -/
structure ParsesByGrammar (platform : Platform) (value : List Char) : Prop where
  accepts : (∃ binding, KeyBinding.parse platform value = some binding) ↔
    IsShortcut platform (KeyBinding.tokens value)
  modifiers : ∀ binding, KeyBinding.parse platform value = some binding →
    binding.modifiers = namedModifiers platform (KeyBinding.tokens value)

theorem keyTokens_eq_singleton_iff {key : List Char} :
    keyTokens platform tokens = [key] ↔ ∃ front back, tokens = front ++ key :: back ∧
      (∀ token ∈ front ++ back, IsModifierName platform token) ∧
        ¬IsModifierName platform key := by
  have isModifier (token : List Char) :
      ¬(modifierFromToken platform token).isNone = true ↔ IsModifierName platform token := by
    rw [← modifierFromToken_isSome_iff, Option.isNone_iff_eq_none, ← ne_eq,
      Option.ne_none_iff_isSome]
  rw [keyTokens, List.filter_eq_cons_iff]
  simp only [List.filter_eq_nil_iff, isModifier, List.forall_mem_append]
  constructor
  · rintro ⟨front, back, rfl, inFront, isKey, inBack⟩
    refine ⟨front, back, rfl, ⟨inFront, inBack⟩, ?_⟩
    exact fun named => (isModifier key).mpr named isKey
  · rintro ⟨front, back, rfl, ⟨inFront, inBack⟩, notNamed⟩
    refine ⟨front, back, rfl, inFront, ?_, inBack⟩
    by_contra named
    exact notNamed ((isModifier key).mp named)

theorem isShortcut_iff : IsShortcut platform tokens ↔
    ∃ key, keyTokens platform tokens = [key] ∧ IsKeyName key := by
  simp only [keyTokens_eq_singleton_iff]
  constructor
  · rintro ⟨front, key, back, isList, areModifiers, isKey⟩
    exact ⟨key, ⟨front, back, isList, areModifiers, isKey.not_isModifierName⟩, isKey⟩
  · rintro ⟨key, ⟨front, back, isList, areModifiers, -⟩, isKey⟩
    exact ⟨front, key, back, isList, areModifiers, isKey⟩

theorem mem_tokens {token : List Char} (isToken : token ∈ KeyBinding.tokens value) :
    Text.trim token = token ∧ '+' ∉ token := by
  obtain ⟨part, isPart, rfl⟩ := List.mem_map.mp (List.mem_filter.mp isToken).1
  refine ⟨Text.trim_trim part, fun isPlus => ?_⟩
  have plus := @Text.not_separates_of_mem_splitOnP _ (· == '+') _ _ isPart
    (Text.trim_subset part isPlus)
  exact absurd plus (by decide)

theorem bindingKeyFromToken_of_keyTokens {token : List Char}
    (isToken : token ∈ keyTokens platform (KeyBinding.tokens value)) :
    (bindingKeyFromToken token).isSome ↔ IsKeyName token := by
  obtain ⟨trimmed, noPlus⟩ := mem_tokens (List.mem_filter.mp isToken).1
  exact bindingKeyFromToken_isSome_iff trimmed noPlus

/-- What the parser accepts, by the names alone. -/
theorem parse_isSome_iff : (∃ binding, KeyBinding.parse platform value = some binding) ↔
    ∃ unknown last, keyTokens platform (KeyBinding.tokens value) = unknown ++ [last] ∧
      (∀ token ∈ unknown, ¬IsKeyName token) ∧ IsKeyName last := by
  simp only [parse_eq_some_iff]
  constructor
  · rintro ⟨binding, ⟨unknown, last, isList, areUnknown, isLast⟩, -⟩
    have known {token : List Char} (isMember : token ∈ unknown ++ [last]) :
        (bindingKeyFromToken token).isSome ↔ IsKeyName token :=
      bindingKeyFromToken_of_keyTokens (by rw [isList]; exact isMember)
    refine ⟨unknown, last, isList, ?_, ?_⟩
    · intro token isMember isKey
      have found := (known (List.mem_append_left _ isMember)).mpr isKey
      rw [areUnknown token isMember] at found
      cases found
    · apply (known (by simp)).mp
      rw [isLast]
      rfl
  · rintro ⟨unknown, last, isList, areUnknown, isLast⟩
    have known {token : List Char} (isMember : token ∈ unknown ++ [last]) :
        (bindingKeyFromToken token).isSome ↔ IsKeyName token :=
      bindingKeyFromToken_of_keyTokens (by rw [isList]; exact isMember)
    obtain ⟨key, found⟩ := Option.isSome_iff_exists.mp ((known (by simp)).mpr isLast)
    refine ⟨⟨_, key⟩, ⟨unknown, last, isList, ?_, found⟩, rfl⟩
    intro token isMember
    apply Option.not_isSome_iff_eq_none.mp
    exact fun isSome => areUnknown token isMember
      ((known (List.mem_append_left _ isMember)).mp isSome)

/-- The parser follows the grammar except where it forgets names it does not know. -/
theorem parsesByGrammar_iff (platform : Platform) (value : List Char) :
    ParsesByGrammar platform value ↔
      ¬HidesUnknownNames platform (KeyBinding.tokens value) := by
  constructor
  · rintro parses ⟨unknown, last, nonempty, isList, areUnknown, isLast⟩
    have accepted := parse_isSome_iff.mpr ⟨unknown, last, isList, areUnknown, isLast⟩
    obtain ⟨key, single, -⟩ := isShortcut_iff.mp (parses.accepts.mp accepted)
    have length := congrArg List.length (isList.symm.trans single)
    apply nonempty
    apply List.length_eq_zero_iff.mp
    simpa using length
  · intro hidesNone
    refine ⟨?_, fun binding parsed => (parse_eq_some_iff.mp parsed).2⟩
    rw [parse_isSome_iff, isShortcut_iff]
    constructor
    · rintro ⟨unknown, last, isList, areUnknown, isLast⟩
      have empty : unknown = [] := by
        by_contra nonempty
        exact hidesNone ⟨unknown, last, nonempty, isList, areUnknown, isLast⟩
      rw [empty] at isList
      exact ⟨last, isList, isLast⟩
    · rintro ⟨key, single, isKey⟩
      exact ⟨[], key, single, by simp, isKey⟩

/-- The name in front of the key is none that the settings know. -/
theorem unknown_name_is_forgotten : ¬ParsesByGrammar .other "Bogus+T".toList := by
  intro parses
  have accepted : KeyBinding.parse .other "Bogus+T".toList = some ⟨{}, .character 'T'⟩ := by
    decide
  obtain ⟨key, single, -⟩ := isShortcut_iff.mp (parses.accepts.mp ⟨_, accepted⟩)
  have two : (keyTokens .other (KeyBinding.tokens "Bogus+T".toList)).length = 2 := by decide
  rw [single] at two
  cases two

end Grammar

end Slate.Chrome
