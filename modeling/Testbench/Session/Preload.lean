import Testbench.Image.Load
import Testbench.Memory.Basic
import Testbench.Session.Files

/-! Preloading memories with an image from a file. -/

namespace Testbench.Session

variable {M : Type} [Memory M]

/-- The contents of memories, in the order of their channels. -/
def storesOf (memories : List M) : Image.Stores :=
  (memories.map Memory.cells).toArray

/-- Gives memories new contents, in the order of their channels. -/
def withStores (stores : Image.Stores) (memories : List M) : List M :=
  memories.mapIdx fun index memory =>
    match stores[index]? with
    | none => memory
    | some cells => Memory.withCells cells memory

/-- Memories after an attempt to preload them. -/
structure Preloaded (M : Type) where
  result : Except SetupFault Nat
  memories : List M

/-- Preloads memories with an image. -/
def preload (image : Image.Lines) (lineBytes : Nat) (path : String) (memories : List M) :
    Preloaded M :=
  let loaded := Image.load image lineBytes path (storesOf memories)
  -- What was stored before a fault is in the memories as well.
  { result := loaded.result, memories := withStores loaded.stores memories }

/-- Preloads memories with the image in a file. -/
def preloadFile (files : Files) (path : String) (lineBytes : Nat) (memories : List M) :
    Preloaded M :=
  match files.read path with
  | .error cause => { result := .error (.imageUnread path cause), memories }
  | .ok bytes => preload (.ofBytes bytes) lineBytes path memories

/-- The remark made about an image that was loaded from a file. -/
def Preloaded.remarks (path : String) (preloaded : Preloaded M) : List Remark :=
  match preloaded.result with
  | .error _ => []
  | .ok bytes => [.preloaded bytes path]

end Testbench.Session
