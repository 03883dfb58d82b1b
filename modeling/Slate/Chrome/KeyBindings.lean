import Slate.Foundation.ParseInt
import Slate.Foundation.Text

/-!
# Key bindings

A key binding is a key with modifiers. Its text is a list of names with plus signs between them,
in any order and in any ASCII case; the settings keep it in one form.
-/

namespace Slate.Chrome

open Foundation

/-- The modifiers of `modifier_mask`. -/
structure Modifiers where
  control : Bool := false
  shift : Bool := false
  alt : Bool := false
  metaKey : Bool := false
  deriving DecidableEq, Repr

namespace Modifiers

def union (modifiers other : Modifiers) : Modifiers where
  control := modifiers.control || other.control
  shift := modifiers.shift || other.shift
  alt := modifiers.alt || other.alt
  metaKey := modifiers.metaKey || other.metaKey

end Modifiers

inductive Platform where
  | macos
  | other
  deriving DecidableEq, Repr

/-- Some shortcuts use Cmd on Mac and Control on other systems. -/
def cmdOrControl : Platform → Modifiers
  | .macos => { metaKey := true }
  | .other => { control := true }

/-- The keys with a name; `other` stands for those the settings do not know. -/
inductive NamedKey where
  | pageUp | pageDown | arrowLeft | arrowRight | arrowUp | arrowDown
  | tab | escape | enter | backspace | delete | insert | home | endKey
  | f1 | f2 | f3 | f4 | f5 | f6 | f7 | f8 | f9 | f10 | f11 | f12
  | f13 | f14 | f15 | f16 | f17 | f18 | f19 | f20 | f21 | f22 | f23 | f24
  | other
  deriving DecidableEq, Repr

inductive BindingKey where
  | character (key : Char)
  | named (key : NamedKey)
  deriving DecidableEq, Repr

structure KeyBinding where
  modifiers : Modifiers
  key : BindingKey
  deriving DecidableEq, Repr

section Tokens

def eqIgnoreAsciiCase (token : List Char) (name : String) : Bool :=
  Text.toAsciiLowercase token = Text.toAsciiLowercase name.toList

def modifierFromToken (platform : Platform) (token : List Char) : Option Modifiers :=
  if eqIgnoreAsciiCase token "primary" then some (cmdOrControl platform)
  else if eqIgnoreAsciiCase token "ctrl" || eqIgnoreAsciiCase token "control" then
    some { control := true }
  else if eqIgnoreAsciiCase token "shift" then some { shift := true }
  else if eqIgnoreAsciiCase token "alt" || eqIgnoreAsciiCase token "option" then
    some { alt := true }
  else if eqIgnoreAsciiCase token "meta" || eqIgnoreAsciiCase token "cmd" ||
      eqIgnoreAsciiCase token "command" || eqIgnoreAsciiCase token "super" then
    some { metaKey := true }
  else none

def functionKeys : List NamedKey :=
  [.f1, .f2, .f3, .f4, .f5, .f6, .f7, .f8, .f9, .f10, .f11, .f12,
    .f13, .f14, .f15, .f16, .f17, .f18, .f19, .f20, .f21, .f22, .f23, .f24]

/-- The number behind an `F` is a `u8`, also one with zeros in front. -/
def functionKeyFromToken (token : List Char) : Option NamedKey :=
  match token with
  | [] => none
  | first :: digits =>
    if first = 'F' ∨ first = 'f' then
      match fromStrRadix 10 256 digits with
      | .ok 0 => none
      | .ok (number + 1) => functionKeys[number]?
      | .error _ => none
    else none

attribute [local grind =] functionKeyFromToken

def namedKeyFromToken (token : List Char) : Option NamedKey :=
  match functionKeyFromToken token with
  | some functionKey => some functionKey
  | none =>
    if eqIgnoreAsciiCase token "PageUp" || eqIgnoreAsciiCase token "Page Up" then some .pageUp
    else if eqIgnoreAsciiCase token "PageDown" || eqIgnoreAsciiCase token "Page Down" then
      some .pageDown
    else if eqIgnoreAsciiCase token "ArrowLeft" || eqIgnoreAsciiCase token "Left" then
      some .arrowLeft
    else if eqIgnoreAsciiCase token "ArrowRight" || eqIgnoreAsciiCase token "Right" then
      some .arrowRight
    else if eqIgnoreAsciiCase token "ArrowUp" || eqIgnoreAsciiCase token "Up" then some .arrowUp
    else if eqIgnoreAsciiCase token "ArrowDown" || eqIgnoreAsciiCase token "Down" then
      some .arrowDown
    else if eqIgnoreAsciiCase token "Tab" then some .tab
    else if eqIgnoreAsciiCase token "Escape" || eqIgnoreAsciiCase token "Esc" then some .escape
    else if eqIgnoreAsciiCase token "Enter" || eqIgnoreAsciiCase token "Return" then some .enter
    else if eqIgnoreAsciiCase token "Backspace" then some .backspace
    else if eqIgnoreAsciiCase token "Delete" || eqIgnoreAsciiCase token "Del" then some .delete
    else if eqIgnoreAsciiCase token "Insert" || eqIgnoreAsciiCase token "Ins" then some .insert
    else if eqIgnoreAsciiCase token "Home" then some .home
    else if eqIgnoreAsciiCase token "End" then some .endKey
    else none

def bindingKeyFromToken (token : List Char) : Option BindingKey :=
  match Text.trim token with
  | [key] => some (.character key.toUpper)
  | normalized => (namedKeyFromToken normalized).map .named

end Tokens

namespace KeyBinding

variable (platform : Platform)

/-- The names in a text. -/
def tokens (value : List Char) : List (List Char) :=
  ((value.splitOn '+').map Text.trim).filter (· ≠ [])

/-- The loop over the names, with the modifiers and the key so far. -/
def parseTokens (modifiers : Modifiers) (key : Option BindingKey) :
    List (List Char) → Option (Modifiers × Option BindingKey)
  | [] => some (modifiers, key)
  | token :: rest =>
    match modifierFromToken platform token with
    | some modifier => parseTokens (modifiers.union modifier) key rest
    | none =>
      if key.isSome then none
      else parseTokens modifiers (bindingKeyFromToken token) rest

def parse (value : List Char) : Option KeyBinding := do
  let (modifiers, key) ← parseTokens platform {} none (tokens value)
  key.map fun key => { modifiers, key }

end KeyBinding

end Slate.Chrome
