import Linewise.Json.Fault
import Linewise.Json.Source

namespace Linewise.Json

def hexDigit? (unit : Option Char) : Option Nat :=
  match unit with
  | some c =>
    if c.isDigit then some (c.toNat - '0'.toNat)
    else if 'a' ≤ c ∧ c ≤ 'f' then some (c.toNat - 'a'.toNat + 10)
    else if 'A' ≤ c ∧ c ≤ 'F' then some (c.toNat - 'A'.toNat + 10)
    else none
  | none => none

def codeUnit? (a b c d : Option Char) : Option Nat := do
  some (16 * (16 * (16 * (← hexDigit? a) + (← hexDigit? b)) + (← hexDigit? c)) + (← hexDigit? d))

/-- The fault of an escape with fewer than four characters behind its letter. What takes four bytes
could still have been read. -/
def shortEscapeFault (source : Source) : Fault :=
  let bytes := source.foldl (fun bytes unit ↦ bytes + (unit.map Char.utf8Size).getD 1) 0
  if bytes < 4 then .endInString else .invalidEscape

def escapedChar? (unit : Option Char) : Option Char :=
  match unit with
  | some '"' => some '"'
  | some '\\' => some '\\'
  | some '/' => some '/'
  | some 'b' => some '\x08'
  | some 'f' => some '\x0c'
  | some 'n' => some '\n'
  | some 'r' => some '\r'
  | some 't' => some '\t'
  | _ => none

def isControl (unit : Option Char) : Bool :=
  match unit with
  | some c => c.toNat < 0x20
  | none => false

def isHighSurrogate (code : Nat) : Bool := 0xd800 ≤ code && code < 0xdc00

def isLowSurrogate (code : Nat) : Bool := 0xdc00 ≤ code && code < 0xe000

def pairedChar (high low : Nat) : Char :=
  Char.ofNat (0x10000 + (high - 0xd800) * 0x400 + (low - 0xdc00))

/-- The content of a string up to its closing quote. `high?` is a first surrogate that was just read
and waits for its second. -/
def readContent (high? : Option Nat) : Source → Except Fault (Source × Source)
  | [] => .error .endInString
  | unit :: rest =>
    match high? with
    | some high =>
      if unit != some '\\' then .error .brokenSurrogatePair
      else
        match rest with
        | [] => .error .endInString
        | some 'u' :: a :: b :: c :: d :: rest =>
          match codeUnit? a b c d with
          | none => .error .invalidEscape
          | some low =>
            if isLowSurrogate low then
              (readContent none rest).map fun (content, rest) ↦
                (some (pairedChar high low) :: content, rest)
            else .error .loneSurrogate
        | some 'u' :: rest => .error (shortEscapeFault rest)
        | _ => .error .brokenSurrogatePair
    | none =>
      if unit == some '"' then .ok ([], rest)
      else if unit == some '\\' then
        match rest with
        | [] => .error .endInString
        | some 'u' :: a :: b :: c :: d :: rest =>
          match codeUnit? a b c d with
          | none => .error .invalidEscape
          | some code =>
            if isLowSurrogate code then .error .loneSurrogate
            else if isHighSurrogate code then readContent (some code) rest
            else
              (readContent none rest).map fun (content, rest) ↦
                (some (Char.ofNat code) :: content, rest)
        | some 'u' :: rest => .error (shortEscapeFault rest)
        | letter :: rest =>
          match escapedChar? letter with
          | none => .error .invalidEscape
          | some c => (readContent none rest).map fun (content, rest) ↦ (some c :: content, rest)
      else if isControl unit then .error .controlCharacter
      else (readContent none rest).map fun (content, rest) ↦ (unit :: content, rest)

/-- A string, behind its opening quote. Bytes that belong to no character are at fault when the
string is complete. -/
def readText (source : Source) : Except Fault (String × Source) := do
  let (content, rest) ← readContent none source
  match content.mapM id with
  | some chars => .ok (String.ofList chars, rest)
  | none => .error .invalidText

/-- Passes over a string, behind its opening quote. What its escapes mean is not looked at. -/
def skipText : Source → Except Fault Source
  | [] => .error .endInString
  | unit :: rest =>
    if unit == some '"' then .ok rest
    else if unit == some '\\' then
      match rest with
      | [] => .error .endInString
      | some 'u' :: a :: b :: c :: d :: rest =>
        if (codeUnit? a b c d).isSome then skipText rest else .error .invalidEscape
      | some 'u' :: rest => .error (shortEscapeFault rest)
      | letter :: rest =>
        if (escapedChar? letter).isSome then skipText rest else .error .invalidEscape
    else if isControl unit then .error .controlCharacter
    else skipText rest

def writtenChar (c : Char) : List Char :=
  match c with
  | '"' => ['\\', '"']
  | '\\' => ['\\', '\\']
  | '\x08' => ['\\', 'b']
  | '\x0c' => ['\\', 'f']
  | '\n' => ['\\', 'n']
  | '\r' => ['\\', 'r']
  | '\t' => ['\\', 't']
  | c =>
    if c.toNat < 0x20 then
      ['\\', 'u', '0', '0', Nat.digitChar (c.toNat / 16), Nat.digitChar (c.toNat % 16)]
    else [c]

def writeText (text : String) : List Char :=
  '"' :: text.toList.flatMap writtenChar ++ ['"']

theorem codeUnit?_control : ∀ n < 0x20,
    codeUnit? (some '0') (some '0') (some (Nat.digitChar (n / 16)))
      (some (Nat.digitChar (n % 16))) = some n := by
  decide

theorem readContent_writtenChar (c : Char) (rest : Source) :
    readContent none ((writtenChar c).map some ++ rest) =
      (readContent none rest).map fun (content, rest) ↦ (some c :: content, rest) := by
  unfold writtenChar
  split
  case h_8 hquote hslash _ _ _ _ _ =>
    split
    · next hlow =>
      have hcode := codeUnit?_control c.toNat hlow
      have hnotLow : isLowSurrogate c.toNat = false := by simp [isLowSurrogate]; omega
      have hnotHigh : isHighSurrogate c.toNat = false := by simp [isHighSurrogate]; omega
      simp [readContent, hcode, hnotLow, hnotHigh]
    · next hlow =>
      have hcontrol : isControl (some c) = false := by simp [isControl]; omega
      have hquote : c ≠ '"' := hquote
      have hslash : c ≠ '\\' := hslash
      rw [List.map_cons, List.map_nil, List.singleton_append, readContent.eq_def]
      simp [hcontrol, hquote, hslash]
  all_goals simp [readContent, escapedChar?]

theorem readContent_written (chars : List Char) (rest : Source) :
    readContent none ((chars.flatMap writtenChar ++ ['"']).map some ++ rest) =
      .ok (chars.map some, rest) := by
  induction chars with
  | nil =>
    rw [List.flatMap_nil, List.nil_append, List.map_cons, List.map_nil, List.singleton_append,
      readContent.eq_def]
    simp
  | cons c chars ih =>
    have hsplit : ((c :: chars).flatMap writtenChar ++ ['"']).map some ++ rest =
        (writtenChar c).map some ++ ((chars.flatMap writtenChar ++ ['"']).map some ++ rest) := by
      simp
    rw [hsplit, readContent_writtenChar, ih]
    rfl

theorem mapM_some (chars : List Char) : chars.mapM some = some chars := by
  induction chars with
  | nil => rfl
  | cons c chars ih => simp [ih]

/-- What is written for a string reads back as it. -/
theorem readText_written (text : String) (rest : Source) :
    readText ((text.toList.flatMap writtenChar ++ ['"']).map some ++ rest) = .ok (text, rest) := by
  rw [readText, readContent_written]
  simp [bind, Except.bind, mapM_some]

end Linewise.Json
