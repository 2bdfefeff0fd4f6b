import Linewise.Regex.Size
import Linewise.Unicode.Table

namespace Linewise

/-- Bytes with which a match may begin, and whether they are all of the match. -/
structure Opening where
  bytes : List UInt8
  whole : Bool

namespace Opening

def unfinished (opening : Opening) : Opening := { opening with whole := false }

def cut (count : Nat) (opening : Opening) : Opening :=
  if opening.bytes.length ≤ count then opening else ⟨opening.bytes.take count, false⟩

def merged (openings : List Opening) : List Opening :=
  openings.foldr (fun opening others ↦
    match others with
    | next :: others =>
      if opening.bytes = next.bytes then ⟨opening.bytes, opening.whole && next.whole⟩ :: others
      else opening :: next :: others
    | [] => [opening]) []

/-- The openings without those that begin with one before them. -/
def withoutHidden (openings : List Opening) : List Opening :=
  openings.foldl (fun kept opening ↦
    if kept.any (·.bytes.isPrefixOf opening.bytes) then kept else kept ++ [opening]) []

def sharedBytes : List Opening → List UInt8
  | [] => []
  | first :: others => others.foldl (fun shared opening ↦
      ((shared.zip opening.bytes).takeWhile fun (x, y) ↦ x == y).map Prod.fst) first.bytes

end Opening

/-- The openings of the matches of an expression, the preferred ones first, unless there are too
many to be listed. -/
inductive Openings where
  | listed (openings : List Opening)
  | countless

namespace Openings

def countLimit : Nat := 250

def lengthLimit : Nat := 100

def setLimit : Nat := 10

def timesLimit : Nat := 10

def start : Openings := listed [⟨[], true⟩]

def isUnfinished : Openings → Bool
  | listed openings => openings.all (!·.whole)
  | countless => true

def unfinished : Openings → Openings
  | listed openings => listed (openings.map Opening.unfinished)
  | countless => countless

/-- The openings of the first and those of the second, less preferred. If they are too many, only
four bytes are kept of each. -/
def union : Openings → Openings → Openings
  | listed first, listed second =>
    if first.length + second.length ≤ countLimit then listed (Opening.merged (first ++ second))
    else
      let first := Opening.merged (first.map (Opening.cut 4))
      let second := Opening.merged (second.map (Opening.cut 4))
      if first.length + second.length ≤ countLimit then listed (Opening.merged (first ++ second))
      else countless
  | _, _ => countless

def followedBy : Openings → Openings → Openings
  | listed first, listed second =>
    if first.length * second.length ≤ countLimit then
      listed <| (Opening.merged (first.flatMap fun opening ↦
        if opening.whole then second.map fun next ↦ ⟨opening.bytes ++ next.bytes, next.whole⟩
        else [opening])).map (Opening.cut lengthLimit)
    else followedByAny first
  | listed first, countless => followedByAny first
  | countless, _ => countless
where
  followedByAny (first : List Opening) : Openings :=
    if first.any (·.bytes.isEmpty) then countless else listed (first.map Opening.unfinished)

/-- The openings of the first, followed `count` times by those of the second as long as one of them
is a whole match. -/
def followedByTimes (second : Openings) : (count : Nat) → Openings → Openings
  | 0, first => first
  | count + 1, first =>
    if first.isUnfinished then first else followedByTimes second count (first.followedBy second)

def ofSet (set : CharSet) : Openings :=
  let size := set.ranges.foldl (fun size (lo, hi) ↦ size + (hi + 1 - lo)) 0
  if size ≤ setLimit then
    listed <| set.ranges.flatMap fun (lo, hi) ↦
      (List.range' lo (hi + 1 - lo)).map fun code ↦
        ⟨String.utf8EncodeChar (Char.ofNat code), true⟩
  else countless

def repeated (body : Openings) (least : Nat) (most? : Option Nat) (greedy : Bool) : Openings :=
  match least, most? with
  | 0, _ =>
    let body := if most? = some 1 then body else body.unfinished
    if greedy then body.union start else start.union body
  | _, none => body.unfinished
  | least, some most =>
    let openings := followedByTimes body (min least timesLimit) start
    if least = most ∧ least ≤ timesLimit then openings else openings.unfinished

/-- What the openings of a part are put together with: those of the matches that come before it, or
of those that are preferred to it. -/
inductive Context where
  | after (first : Openings)
  | beside (preferred : Openings)

def Context.join : Context → Openings → Openings
  | after first, openings => if first.isUnfinished then first else first.followedBy openings
  | beside preferred, openings => preferred.union openings

end Openings

namespace Regex

def openings : Regex → Openings.Context → Openings
  | empty, context | look _, context => context.join .start
  | char set, context => context.join (.ofSet set)
  | seq first second, .after before => second.openings (.after (first.openings (.after before)))
  | seq first second, context =>
    context.join (second.openings (.after (first.openings (.after .start))))
  | alt first second, .beside preferred =>
    second.openings (.beside (first.openings (.beside preferred)))
  | alt first second, context =>
    context.join (second.openings (.beside (first.openings (.beside (.listed [])))))
  | times body least most? greedy, context =>
    context.join ((body.openings (.after .start)).repeated least most? greedy)
  | group body, context => context.join (body.openings (.after .start))

def lookFree : Regex → Bool
  | empty | char _ => true
  | look _ => false
  | seq first second | alt first second => first.lookFree && second.lookFree
  | times body _ _ _ | group body => body.lookFree

end Regex

namespace Opening

def commonBytes : CharSet := .ofTable [
  "a d 20 28-29 2c-32 39-3a 5f 61-69 6c-70 72-76 78-79 7c 80-84 90 b1 b5-b7 b9-bd bf-ff"]

/-- The lengths to which openings are cut, each with the most openings that need no such cut. -/
def cuts : List (Nat × Nat) := [(5, 10), (4, 10), (3, 64), (2, 64), (1, 10)]

def shortened : List (Nat × Nat) → List Opening → List Opening
  | [], openings => openings
  | (length, count) :: cuts, openings =>
    if openings.length ≤ count then openings
    else shortened cuts (withoutHidden (openings.map (cut length)))

/-- The openings that count are better looked for as whole words than by their first bytes. There
are `count` openings with those that do not count. -/
def areWords (count : Nat) (openings : List Opening) : Bool :=
  let shared := sharedBytes openings
  let isRare := shared.head?.any fun byte ↦ !commonBytes.containsNat byte.toNat
  openings.all (·.whole) &&
    if 1 < count ∧ shared.length ≤ 3 ∧ isRare then openings.all (·.bytes.length ≤ 1)
    else if 4 < shared.length ∨ (1 < shared.length ∧ 16 < openings.length) then
      openings.length = 1
    else
      let short := shortened cuts openings
      short.all (·.whole) || short.any (·.bytes.length ≤ 2) || 64 < short.length

end Opening

namespace Regex

/-- The words of an expression that has few openings, if each that counts is a whole match. What
comes behind a word that is preferred and matches in its place never counts. -/
def fewWords? (regex : Regex) : Option (List (List UInt8)) :=
  if regex.groupFree && regex.lookFree then
    match regex.openings (.after .start) with
    | .countless => none
    | .listed openings =>
      let kept := Opening.withoutHidden openings
      if kept.isEmpty || kept.any (·.bytes.isEmpty) then none
      else if Opening.areWords openings.length kept then some (kept.map Opening.bytes)
      else none
  else none

def manyWords? (regex : Regex) : Option (List (List UInt8)) :=
  (words? .forward regex).filter (3000 ≤ ·.length)

def ofWords? (words : List (List UInt8)) : Option Regex := do
  let words ← words.mapM fun bytes ↦ bytes.toByteArray.utf8Decode?
  some (oneOf (words.map fun word ↦ row (word.toList.map fun c ↦ char (.single c))))

def asWords? (regex : Regex) : Option Regex := do
  ofWords? (← regex.manyWords? <|> regex.fewWords?)

end Regex

end Linewise
