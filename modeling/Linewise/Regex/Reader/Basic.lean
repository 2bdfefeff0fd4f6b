import Linewise.Text.Blank
import Linewise.Regex.Form

namespace Linewise.Regex

/-- The characters that satisfy `keep`, up to the first that counts and does not. In a spaced
pattern blanks and remarks, which run from `#` to the end of the line, do not count. -/
def takeCounted (spaced : Bool) (keep : Char → Bool) (inRemark : Bool) :
    List Char → List Char × List Char
  | [] => ([], [])
  | c :: rest =>
    if inRemark then takeCounted spaced keep (c != '\n') rest
    else if spaced && isBlank c then takeCounted spaced keep false rest
    else if spaced && c == '#' then takeCounted spaced keep true rest
    else if keep c then
      let (kept, rest) := takeCounted spaced keep false rest
      (c :: kept, rest)
    else ([], c :: rest)

def skipSpacing (spaced : Bool) (text : List Char) : List Char :=
  (takeCounted spaced (fun _ ↦ false) false text).2

def untilBrace (spaced : Bool) (text : List Char) : Option (List Char × List Char) :=
  match takeCounted spaced (· != '\x7d') false text with
  | (content, _ :: rest) => some (content, rest)
  | (_, []) => none

def splitAtMark (mark : List Char) : List Char → Option (List Char × List Char)
  | [] => none
  | c :: rest =>
    if mark.isPrefixOf (c :: rest) then some ([], (c :: rest).drop mark.length)
    else (splitAtMark mark rest).map fun (before, after) ↦ (c :: before, after)

def hexDigit? (c : Char) : Option Nat :=
  if c.isDigit then some (c.toNat - '0'.toNat)
  else if 'a' ≤ c ∧ c ≤ 'f' then some (c.toNat - 'a'.toNat + 10)
  else if 'A' ≤ c ∧ c ≤ 'F' then some (c.toNat - 'A'.toNat + 10)
  else none

def hexNumber? (digits : List Char) : Option Nat :=
  digits.foldlM (fun n c ↦ (hexDigit? c).map (16 * n + ·)) 0

def charOfCode? (code : Nat) : Option Char :=
  if code.isValidChar then some (Char.ofNat code) else none

def readDigits (spaced : Bool) (text : List Char) : List Char × List Char :=
  let (digits, rest) := takeCounted spaced Char.isDigit false (text.dropWhile isBlank)
  (digits, rest.dropWhile isBlank)

/-- A bound of a repetition. It must fit in 32 bits. -/
def boundOfDigits? (digits : List Char) : Option Nat :=
  let bound := digits.foldl (fun n c ↦ 10 * n + (c.toNat - '0'.toNat)) 0
  if digits.isEmpty || bound ≥ 1 <<< 32 then none else some bound

def readBounds (spaced : Bool) (text : List Char) : Option ((Nat × Option Nat) × List Char) := do
  let (firstDigits, rest) := readDigits spaced (skipSpacing spaced text)
  let first ← boundOfDigits? firstDigits
  match rest with
  | '\x7d' :: rest => some ((first, some first), rest)
  | ',' :: rest =>
    match skipSpacing spaced rest with
    | '\x7d' :: rest => some ((first, none), rest)
    | rest =>
      let (lastDigits, rest) := readDigits spaced rest
      let last ← boundOfDigits? lastDigits
      match rest with
      | '\x7d' :: rest => if first ≤ last then some ((first, some last), rest) else none
      | _ => none
  | _ => none

end Linewise.Regex
