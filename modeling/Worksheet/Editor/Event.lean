import Worksheet.Editor.Control
import Worksheet.Editor.Pointer
import Worksheet.Screen.Draw

/-!
# Events

A session is a sequence of events: keys, pointer actions on a screen of some size, and draws.
-/

namespace Worksheet

/-- What happens to an editor. -/
inductive Event where
  | key (k : KeyPress)
  | pointer (width height : UInt16) (event : PointerEvent)
  /-- The editor is drawn on a screen of a size. -/
  | draw (width height : UInt16)
deriving DecidableEq, Repr

namespace Editor

/-- Handles an event, and tells whether it ends the program. -/
def handle (e : Editor) : Event → Editor × Bool
  | .key k => e.press k
  | .pointer width height event => (e.point width height event, false)
  | .draw width height => (e.resized width.toNat height.toNat, false)

/-- The editor after an event. -/
def step (e : Editor) (event : Event) : Editor := (e.handle event).1

/-- What the screen shows after an event; only drawing changes it. -/
def screen? (e : Editor) : Event → Option (List (List Glyph))
  | .draw width height => some (e.render width.toNat height.toNat)
  | _ => none

/-- The editor after a sequence of events. -/
def steps (e : Editor) (events : List Event) : Editor := events.foldl step e

end Editor

end Worksheet
