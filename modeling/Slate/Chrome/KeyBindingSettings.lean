import Slate.Chrome.ShortcutGrammar
import Slate.Storage.Operations

/-!
# The key bindings in the settings

Every action has a binding of its own, which the settings page changes and the database keeps.
-/

namespace Slate.Storage.SlateProfileDatabase

/-- `ensure_setting_text`. -/
def ensureSettingText (key value : String) (now : Int) (db : SlateProfileDatabase) :
    Except StorageError (String × SlateProfileDatabase) :=
  match db.getSettingText key with
  | some existing => .ok (existing, db)
  | none => (fun written => (value, written.2)) <$> db.setSettingText key value now

end Slate.Storage.SlateProfileDatabase

namespace Slate.Chrome

open Storage

inductive KeyBindingAction where
  | newTab
  | closeTab
  | nextTab
  | previousTab
  | nextApp
  | previousApp
  | cut
  | copy
  | paste
  | selectAll
  deriving DecidableEq, Repr

def keyBindingActions : List KeyBindingAction :=
  [.newTab, .closeTab, .nextTab, .previousTab, .nextApp, .previousApp, .cut, .copy, .paste,
    .selectAll]

namespace KeyBindingAction

def settingKey : KeyBindingAction → String
  | .newTab => "keybindings.new_tab"
  | .closeTab => "keybindings.close_tab"
  | .nextTab => "keybindings.next_tab"
  | .previousTab => "keybindings.previous_tab"
  | .nextApp => "keybindings.next_app"
  | .previousApp => "keybindings.previous_app"
  | .cut => "keybindings.cut"
  | .copy => "keybindings.copy"
  | .paste => "keybindings.paste"
  | .selectAll => "keybindings.select_all"

def queryParameter : KeyBindingAction → String
  | .newTab => "key_new_tab"
  | .closeTab => "key_close_tab"
  | .nextTab => "key_next_tab"
  | .previousTab => "key_previous_tab"
  | .nextApp => "key_next_app"
  | .previousApp => "key_previous_app"
  | .cut => "key_cut"
  | .copy => "key_copy"
  | .paste => "key_paste"
  | .selectAll => "key_select_all"

def defaultSettingValue : KeyBindingAction → String
  | .newTab => "Primary+T"
  | .closeTab => "Primary+W"
  | .nextTab => "Ctrl+Tab"
  | .previousTab => "Ctrl+Shift+Tab"
  | .nextApp => "Ctrl+'"
  | .previousApp => "Ctrl+Shift+'"
  | .cut => "Primary+X"
  | .copy => "Primary+C"
  | .paste => "Primary+V"
  | .selectAll => "Primary+A"

end KeyBindingAction

/-- The texts that stood for the default in an earlier release. -/
def legacyDefaultSettingValue : KeyBindingAction → Option String
  | .nextTab => some "Ctrl+PageDown"
  | .previousTab => some "Ctrl+PageUp"
  | .previousApp => some "Ctrl+Shift+\""
  | _ => none

def namedKeyLabel : NamedKey → String
  | .pageUp => "PageUp"
  | .pageDown => "PageDown"
  | .arrowLeft => "ArrowLeft"
  | .arrowRight => "ArrowRight"
  | .arrowUp => "ArrowUp"
  | .arrowDown => "ArrowDown"
  | .tab => "Tab"
  | .escape => "Escape"
  | .enter => "Enter"
  | .backspace => "Backspace"
  | .delete => "Delete"
  | .insert => "Insert"
  | .home => "Home"
  | .endKey => "End"
  | .f1 => "F1"
  | .f2 => "F2"
  | .f3 => "F3"
  | .f4 => "F4"
  | .f5 => "F5"
  | .f6 => "F6"
  | .f7 => "F7"
  | .f8 => "F8"
  | .f9 => "F9"
  | .f10 => "F10"
  | .f11 => "F11"
  | .f12 => "F12"
  | .f13 => "F13"
  | .f14 => "F14"
  | .f15 => "F15"
  | .f16 => "F16"
  | .f17 => "F17"
  | .f18 => "F18"
  | .f19 => "F19"
  | .f20 => "F20"
  | .f21 => "F21"
  | .f22 => "F22"
  | .f23 => "F23"
  | .f24 => "F24"
  | .other => "Unidentified"

def BindingKey.label : BindingKey → List Char
  | .character key => [key]
  | .named key => (namedKeyLabel key).toList

def Modifiers.labels (modifiers : Modifiers) : List (List Char) :=
  (if modifiers.control then ["Ctrl".toList] else []) ++
    (if modifiers.shift then ["Shift".toList] else []) ++
    (if modifiers.alt then ["Alt".toList] else []) ++
    (if modifiers.metaKey then ["Meta".toList] else [])

def KeyBinding.settingValue (binding : KeyBinding) : String :=
  String.ofList (['+'].intercalate (binding.modifiers.labels ++ [binding.key.label]))

structure SlateKeyBindings where
  newTab : KeyBinding
  closeTab : KeyBinding
  nextTab : KeyBinding
  previousTab : KeyBinding
  nextApp : KeyBinding
  previousApp : KeyBinding
  cut : KeyBinding
  copy : KeyBinding
  paste : KeyBinding
  selectAll : KeyBinding
  deriving DecidableEq, Repr

namespace SlateKeyBindings

def binding (bindings : SlateKeyBindings) : KeyBindingAction → KeyBinding
  | .newTab => bindings.newTab
  | .closeTab => bindings.closeTab
  | .nextTab => bindings.nextTab
  | .previousTab => bindings.previousTab
  | .nextApp => bindings.nextApp
  | .previousApp => bindings.previousApp
  | .cut => bindings.cut
  | .copy => bindings.copy
  | .paste => bindings.paste
  | .selectAll => bindings.selectAll

def setBinding (action : KeyBindingAction) (binding : KeyBinding) (bindings : SlateKeyBindings) :
    SlateKeyBindings :=
  match action with
  | .newTab => { bindings with newTab := binding }
  | .closeTab => { bindings with closeTab := binding }
  | .nextTab => { bindings with nextTab := binding }
  | .previousTab => { bindings with previousTab := binding }
  | .nextApp => { bindings with nextApp := binding }
  | .previousApp => { bindings with previousApp := binding }
  | .cut => { bindings with cut := binding }
  | .copy => { bindings with copy := binding }
  | .paste => { bindings with paste := binding }
  | .selectAll => { bindings with selectAll := binding }

end SlateKeyBindings

section Settings

variable (platform : Platform)

def defaultKeyBinding : KeyBindingAction → KeyBinding
  | .newTab => ⟨cmdOrControl platform, .character 'T'⟩
  | .closeTab => ⟨cmdOrControl platform, .character 'W'⟩
  | .nextTab => ⟨{ control := true }, .named .tab⟩
  | .previousTab => ⟨{ control := true, shift := true }, .named .tab⟩
  | .nextApp => ⟨{ control := true }, .character '\''⟩
  | .previousApp => ⟨{ control := true, shift := true }, .character '\''⟩
  | .cut => ⟨cmdOrControl platform, .character 'X'⟩
  | .copy => ⟨cmdOrControl platform, .character 'C'⟩
  | .paste => ⟨cmdOrControl platform, .character 'V'⟩
  | .selectAll => ⟨cmdOrControl platform, .character 'A'⟩

def SlateKeyBindings.default : SlateKeyBindings where
  newTab := defaultKeyBinding platform .newTab
  closeTab := defaultKeyBinding platform .closeTab
  nextTab := defaultKeyBinding platform .nextTab
  previousTab := defaultKeyBinding platform .previousTab
  nextApp := defaultKeyBinding platform .nextApp
  previousApp := defaultKeyBinding platform .previousApp
  cut := defaultKeyBinding platform .cut
  copy := defaultKeyBinding platform .copy
  paste := defaultKeyBinding platform .paste
  selectAll := defaultKeyBinding platform .selectAll

/-- The binding a text asks for, or the default. -/
def parsedOrDefault (action : KeyBindingAction) (value : String) : KeyBinding :=
  (KeyBinding.parse platform value.toList).getD (defaultKeyBinding platform action)

/-- The current bindings behind `apply_key_binding_setting`, and its result. -/
def applyKeyBindingSetting (key value : String) (current : SlateKeyBindings) :
    Bool × SlateKeyBindings :=
  match keyBindingActions.find? fun action => action.settingKey = key with
  | none => (false, current)
  | some action => (true, current.setBinding action (parsedOrDefault platform action value))

/-- The first pair of a query under a name. -/
def queryValue (pairs : List (String × String)) (key : String) : Option String :=
  (pairs.find? fun pair => pair.1 = key).map Prod.snd

/-- The loop over the actions of `key_bindings_from_settings_url`. -/
def bindingsFromQuery (pairs : List (String × String)) :
    List KeyBindingAction → SlateKeyBindings × Bool → SlateKeyBindings × Bool
  | [], state => state
  | action :: rest, (bindings, found) =>
    match queryValue pairs action.queryParameter with
    | none => bindingsFromQuery pairs rest (bindings, found)
    | some value =>
      bindingsFromQuery pairs rest
        (bindings.setBinding action (parsedOrDefault platform action value), true)

def keyBindingsFromSettingsUrl (pairs : List (String × String)) (current : SlateKeyBindings) :
    Option SlateKeyBindings :=
  let (bindings, found) := bindingsFromQuery platform pairs keyBindingActions (current, false)
  if found then some bindings else none

/-- A write whose failure is only logged. -/
def setOrWarn (key value : String) (now : Int) (db : SlateProfileDatabase) :
    SlateProfileDatabase :=
  match db.setSettingText key value now with
  | .ok (_, next) => next
  | .error _ => db

/-- The writes for some actions, each at a time of its own. -/
def persistActions (now : KeyBindingAction → Int) (bindings : SlateKeyBindings) :
    List KeyBindingAction → SlateProfileDatabase → SlateProfileDatabase
  | [], db => db
  | action :: rest, db =>
    persistActions now bindings rest
      (setOrWarn action.settingKey (bindings.binding action).settingValue (now action) db)

def persistKeyBindingsToDatabase (now : KeyBindingAction → Int) (bindings : SlateKeyBindings)
    (db : SlateProfileDatabase) : SlateProfileDatabase :=
  persistActions now bindings keyBindingActions db

def loadKeyBindingFromDatabase (now : KeyBindingAction → Int) (action : KeyBindingAction)
    (db : SlateProfileDatabase) : KeyBinding × SlateProfileDatabase :=
  match db.ensureSettingText action.settingKey action.defaultSettingValue (now action) with
  | .error _ => (defaultKeyBinding platform action, db)
  | .ok (stored, db) =>
    if legacyDefaultSettingValue action = some stored then
      (defaultKeyBinding platform action,
        setOrWarn action.settingKey action.defaultSettingValue (now action) db)
    else
      match KeyBinding.parse platform stored.toList with
      | some binding => (binding, db)
      | none =>
        (defaultKeyBinding platform action,
          setOrWarn action.settingKey action.defaultSettingValue (now action) db)

def loadActions (now : KeyBindingAction → Int) :
    List KeyBindingAction → SlateKeyBindings × SlateProfileDatabase →
      SlateKeyBindings × SlateProfileDatabase
  | [], state => state
  | action :: rest, (bindings, db) =>
    let (binding, db) := loadKeyBindingFromDatabase platform now action db
    loadActions now rest (bindings.setBinding action binding, db)

def initializeKeyBindingsFromDatabase (now : KeyBindingAction → Int)
    (db : SlateProfileDatabase) : SlateKeyBindings × SlateProfileDatabase :=
  loadActions platform now keyBindingActions (.default platform, db)

end Settings

end Slate.Chrome
