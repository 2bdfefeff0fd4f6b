namespace Linewise.Json

/-- The characters of a document that are left to read. A byte that belongs to no character is
`none`. -/
abbrev Source := List (Option Char)

namespace Source

def ofString (text : String) : Source := text.toList.map some

def charOfBytes? (bytes : List UInt8) : Option (Char × Nat) := do
  let c ← (bytes.take 4).toByteArray.utf8DecodeChar? 0
  some (c, c.utf8Size)

/-- The characters of a sequence of bytes. `skip` counts the bytes at its start that belong to a
character before it. -/
def ofBytesFrom : Nat → List UInt8 → Source
  | _, [] => []
  | skip + 1, _ :: bytes => ofBytesFrom skip bytes
  | 0, byte :: bytes =>
    match charOfBytes? (byte :: bytes) with
    | some (c, size) => some c :: ofBytesFrom (size - 1) bytes
    | none => none :: ofBytesFrom 0 bytes

def ofBytes (bytes : List UInt8) : Source := ofBytesFrom 0 bytes

end Source

def isSpacing (unit : Option Char) : Bool :=
  unit == some ' ' || unit == some '\t' || unit == some '\n' || unit == some '\r'

def skipBlanks (source : Source) : Source := source.dropWhile isSpacing

end Linewise.Json
