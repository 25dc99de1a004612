/-!
The position of the next dot to draw: 262 lines of 341 dots a frame, of which an odd frame drops one
dot while rendering.
-/

namespace Famicom

structure Beam where
  line : Nat := 0
  dot : Nat := 0
  frame : Nat := 0
  oddFrame : Bool := false
  deriving DecidableEq, Inhabited

namespace Beam

def screenWidth : Nat := 256
def screenHeight : Nat := 240
def vblankLine : Nat := 241
def preRenderLine : Nat := 261
def dotsPerLine : Nat := 341
def dotsPerFrame : Nat := 262 * 341

def visible (beam : Beam) : Bool := decide (beam.line < screenHeight)

def preRender (beam : Beam) : Bool := beam.line == preRenderLine

def onRenderingLine (beam : Beam) : Bool := beam.visible || beam.preRender

/-- The last dot but one of an odd frame is the one that leads past the dropped dot. -/
def skipsDot (beam : Beam) (rendering : Bool) : Bool :=
  beam.preRender && beam.dot == dotsPerLine - 2 && beam.oddFrame && rendering

def nextLine (beam : Beam) : Beam :=
  if beam.line = preRenderLine then
    { line := 0, dot := 0, frame := beam.frame + 1, oddFrame := !beam.oddFrame }
  else { beam with line := beam.line + 1, dot := 0 }

def advance (beam : Beam) (rendering : Bool) : Beam :=
  let dot := beam.dot + if beam.skipsDot rendering then 2 else 1
  if dot = dotsPerLine then beam.nextLine else { beam with dot }

end Beam

end Famicom
