/-!
# Keys and the pointer

What the user does: presses a key, with modifiers, or uses the pointer.  Screen coordinates are
16-bit words.
-/

namespace Worksheet

/-- A key of the keyboard. -/
inductive Key where
  | char (c : Char)
  | left
  | right
  | up
  | down
  | home
  | endKey
  | pageUp
  | pageDown
  | insert
  | backspace
  | delete
  | enter
  | tab
  | backTab
  | esc
  /-- A function key, by its number. -/
  | function (n : Nat)
  /-- A key to which nothing is bound, such as a lock or a media key, by its code. -/
  | other (code : Nat)
deriving DecidableEq, Repr

/-- A key together with the modifiers held down. -/
structure KeyPress where
  /-- The key. -/
  key : Key
  /-- Whether the shift key is held down. -/
  shift : Bool := false
  /-- Whether the control key is held down. -/
  ctrl : Bool := false
  /-- Whether the alt key is held down. -/
  alt : Bool := false
  /-- Whether the super key is held down. -/
  super : Bool := false
  /-- Whether the hyper key is held down. -/
  hyper : Bool := false
  /-- Whether the meta key is held down. -/
  metaKey : Bool := false
deriving DecidableEq, Repr

namespace KeyPress

/-- A character key without modifiers. -/
def ofChar (c : Char) : KeyPress := { key := .char c }

/-- Whether no modifier but shift is held down. -/
def isPlain (k : KeyPress) : Bool :=
  !k.ctrl && !k.alt && !k.super && !k.hyper && !k.metaKey

end KeyPress

/-- A button of the pointer. -/
inductive Button where
  | left
  | right
  | middle
deriving DecidableEq, Repr

/-- What the pointer does. -/
inductive PointerAction where
  | press (b : Button)
  | release (b : Button)
  | drag (b : Button)
  | move
  | scrollDown
  | scrollUp
  | scrollLeft
  | scrollRight
deriving DecidableEq, Repr

/-- An action of the pointer and where it happens. -/
structure PointerEvent where
  /-- What the pointer does. -/
  action : PointerAction
  /-- The screen column. -/
  x : UInt16
  /-- The screen line. -/
  y : UInt16
deriving DecidableEq, Repr

end Worksheet
