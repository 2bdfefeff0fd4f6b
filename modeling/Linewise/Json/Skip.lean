import Linewise.Json.Number
import Linewise.Json.Text

namespace Linewise.Json

/-- A list or an object that is still open. Values that nobody asked for may be nested to any depth,
so what is open is kept on a stack. -/
inductive Frame where
  | list
  | object
  deriving DecidableEq, Repr

namespace Frame

def closer : Frame → Char
  | list => ']'
  | object => '\x7d'

def atEnd : Frame → Fault
  | list => .endInList
  | object => .endInObject

def expectedEnd : Frame → Fault
  | list => .expectedListEnd
  | object => .expectedObjectEnd

end Frame

def readWord : List Char → Source → Except Fault Source
  | [], source => .ok source
  | _ :: _, [] => .error .endInValue
  | c :: word, unit :: rest =>
    if unit == some c then readWord word rest else .error .expectedWord

def skipScalar : Source → Except Fault Source
  | [] => .error .endInValue
  | some 'n' :: rest => readWord ['u', 'l', 'l'] rest
  | some 't' :: rest => readWord ['r', 'u', 'e'] rest
  | some 'f' :: rest => readWord ['a', 'l', 's', 'e'] rest
  | some '"' :: rest => skipText rest
  | unit :: rest =>
    if unit == some '-' || (digit? unit).isSome then
      (readShape .invalidNumber (unit :: rest)).map Prod.snd
    else .error .expectedValue

/-- Behind a value, closes the frames that end there. Another item follows in the first of the
frames that stay open. -/
def closeFrames : List Frame → Source → Except Fault (List Frame × Source)
  | [], source => .ok ([], source)
  | frame :: frames, source =>
    match skipBlanks source with
    | [] => .error frame.atEnd
    | unit :: rest =>
      if unit == some ',' then .ok (frame :: frames, rest)
      else if unit == some frame.closer then closeFrames frames rest
      else .error frame.expectedEnd

def openFrame (frame : Frame) (frames : List Frame) (source : Source) :
    Except Fault (List Frame × Source) :=
  match skipBlanks source with
  | [] => .error frame.atEnd
  | unit :: rest =>
    if unit == some frame.closer then closeFrames frames rest
    else .ok (frame :: frames, unit :: rest)

def readColon (source : Source) : Except Fault Source :=
  match skipBlanks source with
  | [] => .error .endInObject
  | some ':' :: rest => .ok rest
  | _ => .error .expectedColon

def skipKey (frame : Frame) (source : Source) : Except Fault Source :=
  match frame with
  | .list => .ok source
  | .object =>
    match skipBlanks source with
    | [] => .error .endInObject
    | some '"' :: rest => do readColon (← skipText rest)
    | _ => .error .keyNotString

/-- Passes over values until all frames are closed. `fuel` is at least the length of the source, so
none is left only where nothing is left to read. -/
def skipItems : Nat → List Frame → Source → Except Fault Source
  | 0, _, _ => .error .endInValue
  | fuel + 1, frames, source => do
    let (frames, rest) ←
      match skipBlanks source with
      | some '[' :: rest => openFrame .list frames rest
      | some '\x7b' :: rest => openFrame .object frames rest
      | source => do closeFrames frames (← skipScalar source)
    match frames with
    | [] => .ok rest
    | frame :: _ => skipItems fuel frames (← skipKey frame rest)

def skipValue (source : Source) : Except Fault Source := skipItems source.length [] source

end Linewise.Json
