import Linewise.Regex.Reader.Basic

namespace Linewise.Regex

def readHexDigits (spaced : Bool) : Nat → Nat → List Char → Option (Nat × List Char)
  | 0, value, text => some (value, text)
  | count + 1, value, text =>
    match skipSpacing spaced text with
    | [] => none
    | c :: rest => do
      let digit ← hexDigit? c
      readHexDigits spaced count (16 * value + digit) rest

def readCodePoint (spaced : Bool) (count : Nat) (text : List Char) :
    Option (Form × List Char) := do
  match skipSpacing spaced text with
  | '\x7b' :: rest =>
    let (digits, rest) ← untilBrace spaced rest
    if digits.isEmpty then none
    else
      let c ← charOfCode? (← hexNumber? digits)
      some (.char ⟨c, false⟩, rest)
  | rest =>
    let (code, rest) ← readHexDigits spaced count 0 rest
    let c ← charOfCode? code
    some (.char ⟨c, count == 2⟩, rest)

/-- The set that a text in braces names: one of its own, or a property and a value with a sign
between them. The sign also says whether the characters outside the set are meant. -/
def setName (text : List Char) : SetName × Bool :=
  match splitAtMark ['!', '='] text with
  | some (property, value) => (.value property value, true)
  | none =>
    match splitAtMark [':'] text <|> splitAtMark ['='] text with
    | some (property, value) => (.value property value, false)
    | none => (.plain text, false)

def readSetName (spaced negated : Bool) (text : List Char) : Option (Form × List Char) :=
  match skipSpacing spaced text with
  | [] | '\\' :: _ => none
  | '\x7b' :: rest => do
    let (content, rest) ← untilBrace spaced rest
    let (name, outside) := setName content
    some (.named name (negated != outside), rest)
  | c :: rest => some (.named (.plain [c]) negated, rest)

def wordEdge? (name : List Char) : Option WordEdge :=
  match String.ofList name with
  | "start" => some .start
  | "end" => some .stop
  | "start-half" => some .startHalf
  | "end-half" => some .stopHalf
  | _ => none

/-- An edge of words, behind its letter. Braces that cannot hold the name of one are left for a
repetition. -/
def readWordEdge (spaced : Bool) (text : List Char) : Option (Form × List Char) :=
  match text with
  | '\x7b' :: rest =>
    match skipSpacing spaced rest with
    | [] => none
    | c :: _ =>
      if c.isAlpha || c == '-' then do
        let (name, rest) ← untilBrace spaced rest
        let edge ← wordEdge? name
        some (.look (.word edge), rest)
      else some (.look (.word .boundary), text)
  | _ => some (.look (.word .boundary), text)

def simpleEscape? (c : Char) : Option Form :=
  match c with
  | 'a' => some (.char ⟨'\x07', false⟩)
  | 'f' => some (.char ⟨'\x0c', false⟩)
  | 't' => some (.char ⟨'\t', false⟩)
  | 'n' => some (.char ⟨'\n', false⟩)
  | 'r' => some (.char ⟨'\r', false⟩)
  | 'v' => some (.char ⟨'\x0b', false⟩)
  | 'd' => some (.letterClass .digit false)
  | 'D' => some (.letterClass .digit true)
  | 's' => some (.letterClass .space false)
  | 'S' => some (.letterClass .space true)
  | 'w' => some (.letterClass .word false)
  | 'W' => some (.letterClass .word true)
  | 'A' => some (.look .textStart)
  | 'z' => some (.look .textEnd)
  | 'B' => some (.look (.word .notBoundary))
  | '<' => some (.look (.word .start))
  | '>' => some (.look (.word .stop))
  | c =>
    -- Any other sign of ASCII stands for itself.
    if c.toNat < 0x80 && !c.isAlphanum then some (.char ⟨c, false⟩) else none

def readEscape (spaced : Bool) : List Char → Option (Form × List Char)
  | [] => none
  | 'x' :: rest => readCodePoint spaced 2 rest
  | 'u' :: rest => readCodePoint spaced 4 rest
  | 'U' :: rest => readCodePoint spaced 8 rest
  | 'p' :: rest => readSetName spaced false rest
  | 'P' :: rest => readSetName spaced true rest
  | 'b' :: rest => readWordEdge spaced rest
  | c :: rest => (simpleEscape? c).map fun form ↦ (form, rest)

end Linewise.Regex
