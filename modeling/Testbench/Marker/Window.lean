/-! The most recent distinct instructions that a design retired. -/

namespace Testbench.Marker

/-- The number of instructions in a marker. -/
def markerLength : Nat := 4

/-- The latest instructions, oldest first, in which no instruction follows itself. -/
structure Window where
  entries : List UInt32 := []
  deriving DecidableEq, Inhabited

/-- An instruction changes the window unless it repeats the latest one. -/
def Window.changesWith (instruction : UInt32) (window : Window) : Bool :=
  window.entries.getLast? != some instruction

/-- Appends a changed instruction, and forgets the oldest one when the window is full. -/
def Window.push (instruction : UInt32) (window : Window) : Window :=
  if window.changesWith instruction then
    -- A window never holds more than one marker, so at most one entry is surplus.
    let kept := window.entries.drop (window.entries.length + 1 - markerLength)
    ⟨kept ++ [instruction]⟩
  else window

/-- A window shows a pattern when its entries are that pattern. -/
def Window.shows (pattern : List UInt32) (window : Window) : Bool :=
  window.entries == pattern

/-- The latest instruction. -/
def Window.latest? (window : Window) : Option UInt32 :=
  window.entries.getLast?

/-- The number of instructions held. -/
def Window.size (window : Window) : Nat :=
  window.entries.length

/-- Nothing was retired yet. -/
def Window.isEmpty (window : Window) : Bool :=
  window.entries.isEmpty

end Testbench.Marker
