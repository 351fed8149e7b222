import BlitzLens.Stub.Basic

/-!
# Built-in functions

The documentation of the functions of the language, which is used unless a workspace names a stub
file of its own.
-/

namespace BlitzLens

/-- The stubs of the built-in functions. -/
def builtIns : List Stub := [
  { name := "Graphics"
    declaration := "Function Graphics(width, height, depth=0, mode=0)"
    paramDocs := [
      "width width of the display in pixels",
      "height height of the display in pixels",
      "depth colour depth in bits (0 picks the best available)",
      "mode 0 auto, 1 fullscreen, 2 windowed, 3 scaled window"]
    description := ["Sets the graphics display mode."]
    sample := "Graphics 640, 480, 0, 2" },
  { name := "Graphics3D"
    declaration := "Function Graphics3D(width, height, depth=0, mode=0)"
    paramDocs := [
      "width width of the display in pixels",
      "height height of the display in pixels",
      "depth colour depth in bits (0 picks the best available)",
      "mode 0 auto, 1 fullscreen, 2 windowed, 3 scaled window"]
    description := ["Sets the 3D graphics display mode."]
    sample := "Graphics3D 800, 600, 32, 2" },
  { name := "SetBuffer"
    declaration := "Function SetBuffer(buffer)"
    paramDocs := [
      "buffer buffer handle, e.g. BackBuffer()"]
    description := ["Selects the buffer that drawing commands render to."]
    sample := "SetBuffer BackBuffer()" },
  { name := "BackBuffer"
    declaration := "Function BackBuffer()"
    description := ["Returns the back buffer of the current graphics mode."] },
  { name := "FrontBuffer"
    declaration := "Function FrontBuffer()"
    description := ["Returns the front buffer of the current graphics mode."] },
  { name := "Cls"
    declaration := "Function Cls()"
    description := ["Clears the current buffer with the current clear colour."] },
  { name := "ClsColor"
    declaration := "Function ClsColor(red, green, blue)"
    paramDocs := [
      "red red component (0-255)",
      "green green component (0-255)",
      "blue blue component (0-255)"]
    description := ["Sets the colour used by Cls."] },
  { name := "Flip"
    declaration := "Function Flip(vwait=True)"
    paramDocs := [
      "vwait True to wait for the vertical blank"]
    description := ["Swaps the front and back buffers."] },
  { name := "Color"
    declaration := "Function Color(red, green, blue)"
    paramDocs := [
      "red red component (0-255)",
      "green green component (0-255)",
      "blue blue component (0-255)"]
    description := ["Sets the current drawing colour."] },
  { name := "Rect"
    declaration := "Function Rect(x, y, width, height, solid=True)"
    paramDocs := [
      "x left edge",
      "y top edge",
      "width width in pixels",
      "height height in pixels",
      "solid False draws only the outline"]
    description := ["Draws a rectangle."] },
  { name := "Oval"
    declaration := "Function Oval(x, y, width, height, solid=True)"
    paramDocs := [
      "x left edge",
      "y top edge",
      "width width in pixels",
      "height height in pixels",
      "solid False draws only the outline"]
    description := ["Draws an oval inside the given rectangle."] },
  { name := "Line"
    declaration := "Function Line(x1, y1, x2, y2)"
    paramDocs := [
      "x1 start x",
      "y1 start y",
      "x2 end x",
      "y2 end y"]
    description := ["Draws a line between two points."] },
  { name := "Text"
    declaration := "Function Text(x, y, text$, centerx=False, centery=False)"
    paramDocs := [
      "x left edge",
      "y top edge",
      "text$ text to draw",
      "centerx True to centre horizontally on x",
      "centery True to centre vertically on y"]
    description := ["Draws text at a position on the current buffer."]
    sample := "Text 10, 10, \"Score: \" + score" },
  { name := "Print"
    declaration := "Function Print(string$=\"\")"
    paramDocs := [
      "string$ text to print"]
    description := ["Writes a string to the screen followed by a new line."]
    sample := "Print \"Hello World\"" },
  { name := "Write"
    declaration := "Function Write(string$)"
    paramDocs := [
      "string$ text to write"]
    description := ["Writes a string to the screen without a new line."] },
  { name := "Input"
    declaration := "Function Input$(prompt$=\"\")"
    paramDocs := [
      "prompt$ text shown before the input"]
    description := ["Reads a line of text typed by the user."] },
  { name := "WaitKey"
    declaration := "Function WaitKey()"
    description := ["Waits for a key press and returns its ASCII code."] },
  { name := "KeyHit"
    declaration := "Function KeyHit(scancode)"
    paramDocs := [
      "scancode keyboard scancode"]
    description := ["Returns how many times a key was hit since the last call."]
    sample := "If KeyHit(1) Then End" },
  { name := "KeyDown"
    declaration := "Function KeyDown(scancode)"
    paramDocs := [
      "scancode keyboard scancode"]
    description := ["Returns True while a key is held down."] },
  { name := "MouseHit"
    declaration := "Function MouseHit(button)"
    paramDocs := [
      "button 1 left, 2 right, 3 middle"]
    description := ["Returns how many times a mouse button was hit since the last call."] },
  { name := "MouseDown"
    declaration := "Function MouseDown(button)"
    paramDocs := [
      "button 1 left, 2 right, 3 middle"]
    description := ["Returns True while a mouse button is held down."] },
  { name := "MouseX"
    declaration := "Function MouseX()"
    description := ["Returns the mouse x coordinate."] },
  { name := "MouseY"
    declaration := "Function MouseY()"
    description := ["Returns the mouse y coordinate."] },
  { name := "MilliSecs"
    declaration := "Function MilliSecs()"
    description := ["Returns the number of milliseconds since the computer was started."] },
  { name := "Delay"
    declaration := "Function Delay(milliseconds)"
    paramDocs := [
      "milliseconds time to wait"]
    description := ["Pauses the program."] },
  { name := "Rnd"
    declaration := "Function Rnd#(low#, high#=0)"
    paramDocs := [
      "low lower bound, or the upper bound when high is omitted",
      "high upper bound"]
    description := ["Returns a random floating point number."] },
  { name := "Rand"
    declaration := "Function Rand(low, high=1)"
    paramDocs := [
      "low lower bound, or the upper bound when high is omitted",
      "high upper bound"]
    description := ["Returns a random integer."]
    sample := "dice = Rand(1, 6)" },
  { name := "SeedRnd"
    declaration := "Function SeedRnd(seed)"
    paramDocs := [
      "seed seed value"]
    description := ["Seeds the random number generator."]
    sample := "SeedRnd MilliSecs()" },
  { name := "Abs"
    declaration := "Function Abs#(value#)"
    paramDocs := [
      "value number"]
    description := ["Returns the absolute value of a number."] },
  { name := "Sin"
    declaration := "Function Sin#(degrees#)"
    paramDocs := [
      "degrees angle"]
    description := ["Returns the sine of an angle in degrees."] },
  { name := "Cos"
    declaration := "Function Cos#(degrees#)"
    paramDocs := [
      "degrees angle"]
    description := ["Returns the cosine of an angle in degrees."] },
  { name := "Sqr"
    declaration := "Function Sqr#(value#)"
    paramDocs := [
      "value number"]
    description := ["Returns the square root of a number."] },
  { name := "Len"
    declaration := "Function Len(string$)"
    paramDocs := [
      "string$ text"]
    description := ["Returns the number of characters in a string."] },
  { name := "Mid"
    declaration := "Function Mid$(string$, offset, count=-1)"
    paramDocs := [
      "string$ text",
      "offset 1-based position of the first character",
      "count number of characters (-1 for the rest)"]
    description := ["Returns part of a string."] },
  { name := "Left"
    declaration := "Function Left$(string$, count)"
    paramDocs := [
      "string$ text",
      "count number of characters"]
    description := ["Returns the leftmost characters of a string."] },
  { name := "Right"
    declaration := "Function Right$(string$, count)"
    paramDocs := [
      "string$ text",
      "count number of characters"]
    description := ["Returns the rightmost characters of a string."] },
  { name := "Instr"
    declaration := "Function Instr(string$, find$, from=1)"
    paramDocs := [
      "string$ text to search",
      "find$ text to find",
      "from 1-based position to start at"]
    description := ["Returns the position of one string inside another, or 0."] },
  { name := "Replace"
    declaration := "Function Replace$(string$, find$, replace$)"
    paramDocs := [
      "string$ text",
      "find$ text to replace",
      "replace$ replacement text"]
    description := ["Replaces every occurrence of a substring."] },
  { name := "Upper"
    declaration := "Function Upper$(string$)"
    paramDocs := [
      "string$ text"]
    description := ["Converts a string to upper case."] },
  { name := "Lower"
    declaration := "Function Lower$(string$)"
    paramDocs := [
      "string$ text"]
    description := ["Converts a string to lower case."] },
  { name := "Chr"
    declaration := "Function Chr$(code)"
    paramDocs := [
      "code ASCII code"]
    description := ["Returns the character with the given ASCII code."] },
  { name := "Asc"
    declaration := "Function Asc(string$)"
    paramDocs := [
      "string$ text"]
    description := ["Returns the ASCII code of the first character of a string."] },
  { name := "ReadFile"
    declaration := "Function ReadFile(filename$)"
    paramDocs := [
      "filename$ path of the file"]
    description := ["Opens a file for reading and returns its handle, or 0."] },
  { name := "WriteFile"
    declaration := "Function WriteFile(filename$)"
    paramDocs := [
      "filename$ path of the file"]
    description := ["Creates a file for writing and returns its handle, or 0."] },
  { name := "CloseFile"
    declaration := "Function CloseFile(filehandle)"
    paramDocs := [
      "filehandle file handle"]
    description := ["Closes a file opened with ReadFile, WriteFile or OpenFile."] },
  { name := "ReadLine"
    declaration := "Function ReadLine$(filehandle)"
    paramDocs := [
      "filehandle file handle"]
    description := ["Reads a line of text from a file."] },
  { name := "WriteLine"
    declaration := "Function WriteLine(filehandle, string$)"
    paramDocs := [
      "filehandle file handle",
      "string$ text to write"]
    description := ["Writes a line of text to a file."] },
  { name := "Eof"
    declaration := "Function Eof(filehandle)"
    paramDocs := [
      "filehandle file handle"]
    description := ["Returns True when the end of a file has been reached."] },
  { name := "FileType"
    declaration := "Function FileType(filename$)"
    paramDocs := [
      "filename$ path to check"]
    description := ["Returns 0 if the path does not exist, 1 for a file, 2 for a directory."] },
  { name := "AppTitle"
    declaration := "Function AppTitle(title$, close$=\"\")"
    paramDocs := [
      "title$ window title",
      "close$ message shown when the window is closed"]
    description := ["Sets the text shown in the window title bar."] },
  { name := "LoadImage"
    declaration := "Function LoadImage(filename$)"
    paramDocs := [
      "filename$ path of the image file"]
    description := ["Loads an image and returns its handle."] },
  { name := "DrawImage"
    declaration := "Function DrawImage(image, x, y, frame=0)"
    paramDocs := [
      "image image handle",
      "x x position",
      "y y position",
      "frame animation frame"]
    description := ["Draws an image."] },
  { name := "CreateCamera"
    declaration := "Function CreateCamera(parent=0)"
    paramDocs := [
      "parent parent entity"]
    description := ["Creates a camera entity."] },
  { name := "CreateLight"
    declaration := "Function CreateLight(type=1, parent=0)"
    paramDocs := [
      "type 1 directional, 2 point, 3 spot",
      "parent parent entity"]
    description := ["Creates a light entity."] },
  { name := "CreateCube"
    declaration := "Function CreateCube(parent=0)"
    paramDocs := [
      "parent parent entity"]
    description := ["Creates a cube mesh."] },
  { name := "PositionEntity"
    declaration := "Function PositionEntity(entity, x#, y#, z#, global=False)"
    paramDocs := [
      "entity entity handle",
      "x x coordinate",
      "y y coordinate",
      "z z coordinate",
      "global True for world coordinates"]
    description := ["Positions an entity."] },
  { name := "MoveEntity"
    declaration := "Function MoveEntity(entity, x#, y#, z#)"
    paramDocs := [
      "entity entity handle",
      "x x distance",
      "y y distance",
      "z z distance"]
    description := ["Moves an entity relative to its orientation."] },
  { name := "TurnEntity"
    declaration := "Function TurnEntity(entity, pitch#, yaw#, roll#, global=False)"
    paramDocs := [
      "entity entity handle",
      "pitch pitch angle",
      "yaw yaw angle",
      "roll roll angle",
      "global True for world rotation"]
    description := ["Rotates an entity relative to its orientation."] },
  { name := "UpdateWorld"
    declaration := "Function UpdateWorld(anim_speed#=1.0)"
    paramDocs := [
      "anim_speed animation speed multiplier"]
    description := ["Updates animation and collisions of all entities."] },
  { name := "RenderWorld"
    declaration := "Function RenderWorld(tween#=1.0)"
    paramDocs := [
      "tween tween value"]
    description := ["Renders the current scene to the back buffer."]
    sample := "RenderWorld\nFlip" }]

end BlitzLens
