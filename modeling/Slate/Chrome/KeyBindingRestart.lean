import Slate.Chrome.KeyBindingSettings
import Slate.Storage.Reopening

/-!
# Key bindings across a restart

Whatever a user chooses is written as a text that the parser reads back. What does not come back
are the bindings whose texts were the defaults of an earlier release: they are taken for those
defaults and replaced.
-/

namespace Slate.Chrome

open Foundation Storage

section Labels

variable {platform : Platform} {token : List Char} {key : BindingKey} {binding : KeyBinding}

/-- A key that a text can name. -/
def BindingKey.IsNameable : BindingKey → Prop
  | .character key => Text.isWhitespace key = false ∧ key ≠ '+' ∧ key.toUpper = key
  | .named key => key ≠ .other

/-- What the parser needs of the label of a key. -/
structure NamesKey (platform : Platform) (label : List Char) (key : BindingKey) : Prop where
  nonempty : label ≠ []
  trimmed : Text.trim label = label
  noPlus : '+' ∉ label
  noModifier : modifierFromToken platform label = none
  isKey : bindingKeyFromToken label = some key

theorem isWhitespace_toUpper {char : Char} (other : Text.isWhitespace char = false) :
    Text.isWhitespace char.toUpper = false := by
  by_cases isLower : char.isLower
  · exact Text.isWhitespace_of_alphanum (Text.isAlphanum_toUpper isLower)
  · rwa [Text.toUpper_of_not_lower isLower]

theorem toUpper_ne_plus {char : Char} (other : char ≠ '+') : char.toUpper ≠ '+' := by
  by_cases isLower : char.isLower
  · intro isPlus
    have alphanum := Text.isAlphanum_toUpper isLower
    rw [isPlus] at alphanum
    exact absurd alphanum (by decide)
  · rwa [Text.toUpper_of_not_lower isLower]

theorem namedKeyFromToken_ne_other {named : NamedKey}
    (found : namedKeyFromToken token = some named) : named ≠ .other := by
  rw [namedKeyFromToken_eq, Option.or_eq_some_iff] at found
  rcases found with isFunctionKey | ⟨-, inTable⟩
  · have known : named ∈ functionKeys := by
      unfold functionKeyFromToken at isFunctionKey
      split at isFunctionKey
      · cases isFunctionKey
      · split at isFunctionKey
        · split at isFunctionKey
          · cases isFunctionKey
          · exact List.mem_of_getElem? isFunctionKey
          · cases isFunctionKey
        · cases isFunctionKey
    rintro rfl
    exact absurd known (by decide)
  · obtain ⟨entry, isEntry, rfl⟩ := Option.map_eq_some_iff.mp inTable
    have known := List.mem_of_find?_eq_some isEntry
    intro isOther
    have inNames : entry.2 ∈ keyNames.map Prod.snd := List.mem_map_of_mem known
    rw [isOther] at inNames
    exact absurd inNames (by decide)

theorem isNameable_of_token (trimmed : Text.trim token = token) (noPlus : '+' ∉ token)
    (found : bindingKeyFromToken token = some key) : key.IsNameable := by
  rw [bindingKeyFromToken, trimmed] at found
  split at found
  · rename_i char
    obtain rfl := Option.some.inj found
    have noSpace : Text.isWhitespace char = false := by
      by_contra isSpace
      rw [Bool.not_eq_false] at isSpace
      simp [Text.trim, isSpace] at trimmed
    have notPlus : char ≠ '+' := fun isPlus => noPlus (by rw [isPlus]; exact List.mem_cons_self)
    exact ⟨isWhitespace_toUpper noSpace, toUpper_ne_plus notPlus, Text.toUpper_toUpper⟩
  · obtain ⟨named, isNamed, rfl⟩ := Option.map_eq_some_iff.mp found
    exact namedKeyFromToken_ne_other isNamed

theorem parse_isNameable {value : List Char}
    (parsed : KeyBinding.parse platform value = some binding) : binding.key.IsNameable := by
  obtain ⟨⟨unknown, last, isList, -, isKey⟩, -⟩ := parse_eq_some_iff.mp parsed
  have isToken : last ∈ keyTokens platform (KeyBinding.tokens value) := by
    rw [isList]
    exact List.mem_append_right _ List.mem_cons_self
  obtain ⟨trimmed, noPlus⟩ := mem_tokens (List.mem_filter.mp isToken).1
  exact isNameable_of_token trimmed noPlus isKey

theorem modifierFromToken_of_isKeyName (isKey : IsKeyName token) :
    modifierFromToken platform token = none := by
  apply Option.not_isSome_iff_eq_none.mp
  exact fun named => isKey.not_isModifierName (modifierFromToken_isSome_iff.mp named)

theorem namesKey_label (isNameable : key.IsNameable) : NamesKey platform key.label key := by
  cases key with
  | character char =>
      obtain ⟨noSpace, notPlus, isUpper⟩ := isNameable
      have trimmed : Text.trim [char] = [char] := by simp [Text.trim, noSpace]
      refine ⟨List.cons_ne_nil _ _, trimmed, ?_, ?_, ?_⟩
      · simpa [BindingKey.label] using Ne.symm notPlus
      · exact modifierFromToken_of_isKeyName (.inl ⟨char, rfl⟩)
      · rw [BindingKey.label, bindingKeyFromToken, trimmed]
        simp only [isUpper]
  | named named =>
      cases named with
      | other => exact absurd rfl isNameable
      | _ => exact ⟨by decide, by decide, by decide, rfl, rfl⟩

end Labels

section RoundTrip

variable {platform : Platform} {binding : KeyBinding}

/-- The label of a modifier is a name of its own. -/
theorem isToken_label (modifiers : Modifiers) {label : List Char}
    (isLabel : label ∈ modifiers.labels) :
    label ≠ [] ∧ Text.trim label = label ∧ '+' ∉ label ∧
      (modifierFromToken platform label).isSome := by
  have inLabels : label ∈ ["Ctrl".toList, "Shift".toList, "Alt".toList, "Meta".toList] := by
    simp only [Modifiers.labels, List.mem_append] at isLabel
    rcases isLabel with ((isLabel | isLabel) | isLabel) | isLabel <;>
      split at isLabel <;> simp_all
  simp only [List.mem_cons, List.not_mem_nil, or_false] at inLabels
  rcases inLabels with rfl | rfl | rfl | rfl
  · exact ⟨by decide, by decide, by decide, rfl⟩
  · exact ⟨by decide, by decide, by decide, rfl⟩
  · exact ⟨by decide, by decide, by decide, rfl⟩
  · exact ⟨by decide, by decide, by decide, rfl⟩

theorem namedModifiers_labels (modifiers : Modifiers) :
    namedModifiers platform modifiers.labels = modifiers := by
  obtain ⟨control, shift, alt, metaKey⟩ := modifiers
  cases control <;> cases shift <;> cases alt <;> cases metaKey <;> rfl

theorem tokens_settingValue (isNameable : binding.key.IsNameable) :
    KeyBinding.tokens binding.settingValue.toList =
      binding.modifiers.labels ++ [binding.key.label] := by
  have named := @namesKey_label .other _ isNameable
  have areTokens : ∀ token ∈ binding.modifiers.labels ++ [binding.key.label],
      token ≠ [] ∧ Text.trim token = token ∧ '+' ∉ token := by
    intro token isToken
    rcases List.mem_append.mp isToken with isLabel | isKey
    · obtain ⟨nonempty, trimmed, noPlus, -⟩ := @isToken_label .other _ _ isLabel
      exact ⟨nonempty, trimmed, noPlus⟩
    · obtain rfl := List.mem_singleton.mp isKey
      exact ⟨named.nonempty, named.trimmed, named.noPlus⟩
  rw [KeyBinding.settingValue, String.toList_ofList, KeyBinding.tokens,
    List.splitOn_intercalate '+' (fun token isToken => (areTokens token isToken).2.2) (by simp),
    List.map_congr_left (fun token isToken => (areTokens token isToken).2.1), List.map_id',
    List.filter_eq_self.mpr]
  exact fun token isToken => decide_eq_true (areTokens token isToken).1

/-- What is written is read back. -/
theorem parse_settingValue (isNameable : binding.key.IsNameable) :
    KeyBinding.parse platform binding.settingValue.toList = some binding := by
  have named := @namesKey_label platform _ isNameable
  rw [parse_eq_some_iff, tokens_settingValue isNameable]
  refine ⟨⟨[], binding.key.label, ?_, by simp, named.isKey⟩, ?_⟩
  · rw [keyTokens, List.filter_append, List.filter_eq_nil_iff.mpr, List.nil_append]
    · exact List.filter_cons_of_pos (by rw [named.noModifier]; rfl)
    · intro label isLabel noModifier
      have isModifier := (@isToken_label platform _ _ isLabel).2.2.2
      rw [Option.isNone_iff_eq_none.mp noModifier] at isModifier
      cases isModifier
  · rw [namedModifiers, List.filterMap_append, List.filterMap_cons, named.noModifier,
      List.filterMap_nil, List.append_nil]
    exact (namedModifiers_labels binding.modifiers).symm

end RoundTrip

section Current

variable {platform : Platform} {bindings current : SlateKeyBindings}

@[simp] theorem SlateKeyBindings.binding_setBinding (action other : KeyBindingAction)
    (binding : KeyBinding) (bindings : SlateKeyBindings) :
    (bindings.setBinding action binding).binding other =
      if action = other then binding else bindings.binding other := by
  cases action <;> cases other <;> rfl

theorem SlateKeyBindings.ext_binding {first second : SlateKeyBindings}
    (same : ∀ action, first.binding action = second.binding action) : first = second := by
  obtain ⟨_, _, _, _, _, _, _, _, _, _⟩ := first
  obtain ⟨_, _, _, _, _, _, _, _, _, _⟩ := second
  have newTab := same .newTab
  have closeTab := same .closeTab
  have nextTab := same .nextTab
  have previousTab := same .previousTab
  have nextApp := same .nextApp
  have previousApp := same .previousApp
  have cut := same .cut
  have copy := same .copy
  have paste := same .paste
  have selectAll := same .selectAll
  simp only [SlateKeyBindings.binding] at *
  subst_vars
  rfl

theorem SlateKeyBindings.binding_default (action : KeyBindingAction) :
    (SlateKeyBindings.default platform).binding action = defaultKeyBinding platform action := by
  cases action <;> rfl

theorem mem_keyBindingActions (action : KeyBindingAction) : action ∈ keyBindingActions := by
  cases action <;> decide

/-- Every default is what the parser makes of its text. -/
theorem parse_defaultSettingValue (action : KeyBindingAction) :
    KeyBinding.parse platform action.defaultSettingValue.toList =
      some (defaultKeyBinding platform action) := by
  cases platform <;> cases action <;> rfl

/-- The bindings that the settings can hold. -/
def SlateKeyBindings.Nameable (bindings : SlateKeyBindings) : Prop :=
  ∀ action, (bindings.binding action).key.IsNameable

theorem nameable_parsedOrDefault (action : KeyBindingAction) (value : String) :
    (parsedOrDefault platform action value).key.IsNameable := by
  rw [parsedOrDefault]
  cases parsed : KeyBinding.parse platform value.toList with
  | none => exact parse_isNameable (parse_defaultSettingValue action)
  | some binding => exact parse_isNameable parsed

theorem nameable_default : (SlateKeyBindings.default platform).Nameable := by
  intro action
  rw [SlateKeyBindings.binding_default]
  exact parse_isNameable (parse_defaultSettingValue action)

theorem SlateKeyBindings.Nameable.setBinding (nameable : bindings.Nameable)
    {binding : KeyBinding} (isNameable : binding.key.IsNameable) (action : KeyBindingAction) :
    (bindings.setBinding action binding).Nameable := by
  intro other
  rw [SlateKeyBindings.binding_setBinding]
  split
  · exact isNameable
  · exact nameable other

theorem nameable_bindingsFromQuery (pairs : List (String × String))
    (actions : List KeyBindingAction) (nameable : bindings.Nameable) (found : Bool) :
    (bindingsFromQuery platform pairs actions (bindings, found)).1.Nameable := by
  induction actions generalizing bindings found with
  | nil => exact nameable
  | cons action rest inductionHypothesis =>
      rw [bindingsFromQuery]
      split
      · exact inductionHypothesis nameable found
      · apply inductionHypothesis
        exact nameable.setBinding (nameable_parsedOrDefault action _) action

theorem nameable_fromSettingsUrl {pairs : List (String × String)} (nameable : current.Nameable)
    (produced : keyBindingsFromSettingsUrl platform pairs current = some bindings) :
    bindings.Nameable := by
  have walked := @nameable_bindingsFromQuery platform _ pairs keyBindingActions nameable false
  simp only [keyBindingsFromSettingsUrl] at produced
  split at produced
  · rwa [← Option.some.inj produced]
  · cases produced

end Current

section Database

open SlateProfileDatabase

variable {platform : Platform} {db : SlateProfileDatabase} {bindings : SlateKeyBindings}

/-- The log of the database has room for one more write. -/
def TakesWrite (db : SlateProfileDatabase) : Prop :=
  db.RoomForWrite defaultProfileId db.localSyncDeviceId

theorem getSettingText_setOrWarn (key value other : String) (now : Int) :
    ((TakesWrite db ∧ key = other) →
        (setOrWarn key value now db).getSettingText other = some value) ∧
      (¬(TakesWrite db ∧ key = other) →
        (setOrWarn key value now db).getSettingText other = db.getSettingText other) := by
  have succeeds := @setSettingText_succeeds_iff db now key value
  rw [setOrWarn]
  cases written : db.setSettingText key value now with
  | error error =>
      have refused : ¬TakesWrite db := by
        intro takes
        obtain ⟨record, next, isOk⟩ := succeeds.mpr takes
        rw [written] at isOk
        cases isOk
      exact ⟨fun taken => absurd taken.1 refused, fun _ => rfl⟩
  | ok result =>
      obtain ⟨record, next⟩ := result
      have takes : TakesWrite db := succeeds.mp ⟨record, next, written⟩
      have read := getSettingText_setSettingText written other
      refine ⟨fun taken => ?_, fun untaken => ?_⟩
      · rw [read, if_pos taken.2]
      · rw [read, if_neg fun same => untaken ⟨takes, same⟩]

/-- The binding that a stored text stands for. -/
def loadedBinding (platform : Platform) (action : KeyBindingAction) (stored : Option String) :
    KeyBinding :=
  match stored with
  | none => defaultKeyBinding platform action
  | some stored =>
    if legacyDefaultSettingValue action = some stored then defaultKeyBinding platform action
    else parsedOrDefault platform action stored

theorem not_legacy_default (action : KeyBindingAction) :
    legacyDefaultSettingValue action ≠ some action.defaultSettingValue := by
  cases action <;> decide

theorem settingKey_injective {first second : KeyBindingAction}
    (same : first.settingKey = second.settingKey) : first = second := by
  revert same
  cases first <;> cases second <;> decide

theorem loadKeyBinding_eq (now : KeyBindingAction → Int) (action : KeyBindingAction) :
    (loadKeyBindingFromDatabase platform now action db).1 =
      loadedBinding platform action (db.getSettingText action.settingKey) := by
  rw [loadKeyBindingFromDatabase, ensureSettingText]
  cases stored : db.getSettingText action.settingKey with
  | some existing =>
      simp only [loadedBinding]
      split
      · rfl
      · rw [parsedOrDefault]
        cases KeyBinding.parse platform existing.toList <;> rfl
  | none =>
      cases db.setSettingText action.settingKey action.defaultSettingValue (now action) with
      | error error => rfl
      | ok written =>
          simp only [Functor.map, Except.map, if_neg (not_legacy_default action),
            parse_defaultSettingValue]
          rfl

/-- Loading a binding writes no setting but its own. -/
theorem getSettingText_loadKeyBinding (now : KeyBindingAction → Int) (action : KeyBindingAction)
    {other : String} (different : action.settingKey ≠ other) :
    (loadKeyBindingFromDatabase platform now action db).2.getSettingText other =
      db.getSettingText other := by
  have kept (db : SlateProfileDatabase) :=
    (@getSettingText_setOrWarn db action.settingKey action.defaultSettingValue other
      (now action)).2 fun taken => different taken.2
  rw [loadKeyBindingFromDatabase]
  cases ensured : db.ensureSettingText action.settingKey action.defaultSettingValue
    (now action) with
  | error error => rfl
  | ok result =>
      obtain ⟨stored, next⟩ := result
      have same : next.getSettingText other = db.getSettingText other := by
        rw [ensureSettingText] at ensured
        split at ensured
        · obtain ⟨-, rfl⟩ := Prod.mk.inj (Except.ok.inj ensured)
          rfl
        · cases written : db.setSettingText action.settingKey action.defaultSettingValue
            (now action) with
          | error error =>
              rw [written] at ensured
              cases ensured
          | ok result =>
              rw [written] at ensured
              obtain ⟨-, rfl⟩ := Prod.mk.inj (Except.ok.inj ensured)
              rw [getSettingText_setSettingText written, if_neg different]
      simp only
      split
      · exact (kept next).trans same
      · split
        · exact same
        · exact (kept next).trans same

/-- Every action is loaded from its own setting. -/
theorem binding_loadActions (now : KeyBindingAction → Int) {actions : List KeyBindingAction}
    (distinct : actions.Nodup) (action : KeyBindingAction) :
    (loadActions platform now actions (bindings, db)).1.binding action =
      if action ∈ actions then loadedBinding platform action (db.getSettingText action.settingKey)
      else bindings.binding action := by
  induction actions generalizing bindings db with
  | nil => rfl
  | cons first rest inductionHypothesis =>
      obtain ⟨notInRest, distinctRest⟩ := List.nodup_cons.mp distinct
      rw [loadActions, inductionHypothesis distinctRest, SlateKeyBindings.binding_setBinding,
        loadKeyBinding_eq]
      by_cases isFirst : first = action
      · rw [← isFirst, if_neg notInRest, if_pos rfl, if_pos List.mem_cons_self]
      · have different : first.settingKey ≠ action.settingKey := fun same =>
          isFirst (settingKey_injective same)
        rw [getSettingText_loadKeyBinding now first different, if_neg isFirst]
        simp only [List.mem_cons, Ne.symm isFirst, false_or]

theorem binding_initialized (now : KeyBindingAction → Int) (action : KeyBindingAction) :
    (initializeKeyBindingsFromDatabase platform now db).1.binding action =
      loadedBinding platform action (db.getSettingText action.settingKey) := by
  rw [initializeKeyBindingsFromDatabase, binding_loadActions now (by decide),
    if_pos (mem_keyBindingActions action)]

end Database

section Restart

open SlateProfileDatabase

variable {platform : Platform} {db : SlateProfileDatabase} {bindings : SlateKeyBindings}
  {binding : KeyBinding} {action : KeyBindingAction}

/-- What changes the current bindings: the start on a database, a setting from another device,
and the settings page. -/
inductive KeyBindingEvent where
  | start (db : SlateProfileDatabase) (now : KeyBindingAction → Int)
  | applySetting (key value : String)
  | saveSettings (pairs : List (String × String))

def SlateKeyBindings.next (platform : Platform) (current : SlateKeyBindings) :
    KeyBindingEvent → SlateKeyBindings
  | .start db now => (initializeKeyBindingsFromDatabase platform now db).1
  | .applySetting key value => (applyKeyBindingSetting platform key value current).2
  | .saveSettings pairs => (keyBindingsFromSettingsUrl platform pairs current).getD current

/-- The current bindings after some events, from the defaults. -/
def currentKeyBindings (platform : Platform) (events : List KeyBindingEvent) : SlateKeyBindings :=
  events.foldl (SlateKeyBindings.next platform) (.default platform)

theorem nameable_loadedBinding (stored : Option String) :
    (loadedBinding platform action stored).key.IsNameable := by
  have isDefault := parse_isNameable (@parse_defaultSettingValue platform action)
  cases stored with
  | none => exact isDefault
  | some stored =>
      rw [loadedBinding]
      split
      · exact isDefault
      · exact nameable_parsedOrDefault action stored

theorem SlateKeyBindings.Nameable.next (nameable : bindings.Nameable) (event : KeyBindingEvent) :
    (bindings.next platform event).Nameable := by
  cases event with
  | start db now =>
      intro action
      rw [SlateKeyBindings.next, binding_initialized]
      exact nameable_loadedBinding _
  | applySetting key value =>
      rw [SlateKeyBindings.next, applyKeyBindingSetting]
      split
      · exact nameable
      · exact nameable.setBinding (nameable_parsedOrDefault _ value) _
  | saveSettings pairs =>
      rw [SlateKeyBindings.next]
      cases produced : keyBindingsFromSettingsUrl platform pairs bindings with
      | none => exact nameable
      | some saved => exact nameable_fromSettingsUrl nameable produced

theorem nameable_currentKeyBindings (events : List KeyBindingEvent) :
    (currentKeyBindings platform events).Nameable := by
  rw [currentKeyBindings]
  generalize isStart : SlateKeyBindings.default platform = start
  have nameable : start.Nameable := isStart ▸ nameable_default
  clear isStart
  induction events generalizing start with
  | nil => exact nameable
  | cons event rest inductionHypothesis => exact inductionHypothesis _ (nameable.next event)

/-- A stored binding comes back unless its text is a default of an earlier release. -/
theorem loadedBinding_settingValue (isNameable : binding.key.IsNameable) :
    loadedBinding platform action (some binding.settingValue) = binding ↔
      legacyDefaultSettingValue action ≠ some binding.settingValue := by
  have parsed := @parse_settingValue platform binding isNameable
  have replaced : ∀ legacy, legacyDefaultSettingValue action = some legacy →
      KeyBinding.parse platform legacy.toList ≠ some (defaultKeyBinding platform action) := by
    cases platform <;> cases action <;> simp only [legacyDefaultSettingValue, Option.some.injEq,
      reduceCtorEq, false_implies, implies_true, forall_eq'] <;> decide
  rw [loadedBinding]
  split
  · rename_i isLegacy
    constructor
    · rintro rfl
      exact absurd parsed (replaced _ isLegacy)
    · exact absurd isLegacy
  · rename_i notLegacy
    rw [parsedOrDefault, parsed]
    exact iff_of_true rfl notLegacy

/-- The actions that are written before one. -/
def actionsBefore (action : KeyBindingAction) : List KeyBindingAction :=
  keyBindingActions.takeWhile (· ≠ action)

theorem getSettingText_persistActions (now : KeyBindingAction → Int)
    {actions : List KeyBindingAction} (others : action ∉ actions) :
    (persistActions now bindings actions db).getSettingText action.settingKey =
      db.getSettingText action.settingKey := by
  induction actions generalizing db with
  | nil => rfl
  | cons first rest inductionHypothesis =>
      rw [List.mem_cons, not_or] at others
      rw [persistActions, inductionHypothesis others.2]
      exact (getSettingText_setOrWarn _ _ _ _).2 fun taken =>
        others.1 (settingKey_injective taken.2).symm

theorem persistActions_append (now : KeyBindingAction → Int)
    (first second : List KeyBindingAction) :
    persistActions now bindings (first ++ second) db =
      persistActions now bindings second (persistActions now bindings first db) := by
  induction first generalizing db with
  | nil => rfl
  | cons action rest inductionHypothesis => exact inductionHypothesis

/-- The setting of an action is written once, in its turn. -/
theorem keyBindingActions_eq (action : KeyBindingAction) :
    ∃ behind, keyBindingActions = actionsBefore action ++ action :: behind ∧
      action ∉ actionsBefore action ∧ action ∉ behind := by
  refine ⟨(keyBindingActions.dropWhile (· ≠ action)).tail, ?_⟩
  cases action <;> decide

/-- Whether the binding of an action comes back: a binding that is written does unless its text
is taken for a default of an earlier release, and one that is not written if the database holds
it already. -/
def KeepsBinding (platform : Platform) (now : KeyBindingAction → Int)
    (bindings : SlateKeyBindings) (db : SlateProfileDatabase) (action : KeyBindingAction) : Prop :=
  (TakesWrite (persistActions now bindings (actionsBefore action) db) →
    legacyDefaultSettingValue action ≠ some (bindings.binding action).settingValue) ∧
  (¬TakesWrite (persistActions now bindings (actionsBefore action) db) →
    loadedBinding platform action (db.getSettingText action.settingKey) = bindings.binding action)

/-- The bindings are the same after they are written and loaded again. -/
def SurvivesRestart (platform : Platform) (now loadNow : KeyBindingAction → Int)
    (bindings : SlateKeyBindings) (db : SlateProfileDatabase) : Prop :=
  (initializeKeyBindingsFromDatabase platform loadNow
    (persistKeyBindingsToDatabase now bindings db)).1 = bindings

theorem binding_restarted (now loadNow : KeyBindingAction → Int)
    (isNameable : (bindings.binding action).key.IsNameable) :
    (initializeKeyBindingsFromDatabase platform loadNow
      (persistKeyBindingsToDatabase now bindings db)).1.binding action = bindings.binding action ↔
      KeepsBinding platform now bindings db action := by
  obtain ⟨behind, areActions, notBefore, notBehind⟩ := keyBindingActions_eq action
  have before := @getSettingText_persistActions db bindings action now _ notBefore
  rw [binding_initialized, persistKeyBindingsToDatabase, areActions, persistActions_append,
    persistActions, getSettingText_persistActions now notBehind, KeepsBinding]
  generalize persistActions now bindings (actionsBefore action) db = middle at before ⊢
  have written := @getSettingText_setOrWarn middle action.settingKey
    (bindings.binding action).settingValue action.settingKey (now action)
  by_cases takes : TakesWrite middle
  · rw [written.1 ⟨takes, rfl⟩, loadedBinding_settingValue isNameable]
    simp [takes]
  · rw [written.2 fun taken => takes taken.1, before]
    simp [takes]

/-- The bindings that a settings URL makes of any current ones survive a restart where each of
them does. -/
theorem survivesRestart_iff (platform : Platform) (events : List KeyBindingEvent)
    (pairs : List (String × String)) (bindings : SlateKeyBindings)
    (produced : keyBindingsFromSettingsUrl platform pairs (currentKeyBindings platform events) =
      some bindings)
    (now loadNow : KeyBindingAction → Int) (db : SlateProfileDatabase) :
    SurvivesRestart platform now loadNow bindings db ↔
      ∀ action, KeepsBinding platform now bindings db action := by
  have nameable := nameable_fromSettingsUrl (nameable_currentKeyBindings events) produced
  constructor
  · intro survives action
    apply (binding_restarted now loadNow (nameable action)).mp
    rw [survives]
  · intro keeps
    apply SlateKeyBindings.ext_binding
    intro action
    exact (binding_restarted now loadNow (nameable action)).mpr (keeps action)

/-- The defaults with another binding of the next tab. -/
def withNextTab (binding : KeyBinding) : SlateKeyBindings :=
  (SlateKeyBindings.default .other).setBinding .nextTab binding

theorem arrow_binding_survives :
    SurvivesRestart .other (fun _ => 0) (fun _ => 0)
      (withNextTab ⟨{ alt := true }, .named .arrowRight⟩)
      { localSyncDeviceId := "device"
        settings := [⟨"keybindings.next_tab", "Alt+ArrowRight", 0⟩] } :=
  (survivesRestart_iff .other [] [("key_next_tab", "alt+right")] _ (by decide) _ _ _).mpr (by
    intro action
    cases action <;> exact ⟨fun _ => by decide, fun _ => by decide⟩)

/-- The key that the next tab once had by default is not kept. -/
theorem legacy_binding_is_replaced :
    keyBindingsFromSettingsUrl .other [("key_next_tab", "Ctrl+PageDown")]
        (currentKeyBindings .other []) =
        some (withNextTab ⟨{ control := true }, .named .pageDown⟩) ∧
      ¬SurvivesRestart .other (fun _ => 0) (fun _ => 0)
        (withNextTab ⟨{ control := true }, .named .pageDown⟩)
        { localSyncDeviceId := "device" } := by
  have produced : keyBindingsFromSettingsUrl .other [("key_next_tab", "Ctrl+PageDown")]
      (currentKeyBindings .other []) =
      some (withNextTab ⟨{ control := true }, .named .pageDown⟩) := by decide
  refine ⟨produced, fun survives => ?_⟩
  have nameable := nameable_fromSettingsUrl (nameable_currentKeyBindings []) produced
  have keeps := (binding_restarted (fun _ => 0) (fun _ => 0) (nameable .nextTab)).mp
    (congrArg (SlateKeyBindings.binding · .nextTab) survives)
  apply absurd (keeps.2 fun takes => keeps.1 takes rfl)
  decide

end Restart

end Slate.Chrome
