-- Display width: how many columns of a terminal a text takes. Most characters
-- take one column, wide ones two and marks none. A text is read from its end,
-- because what follows decides about ligatures and emoji sequences: a run that
-- is shown as one emoji takes two columns in all.
import CommitQuery.Text.WidthTable

namespace CommitQuery.Text

/-! ## One character -/

/-- The columns of one character by itself; a control character takes none. -/
def charWidth (c : Char) : Nat :=
  if c.toNat < 0x7F then if c.toNat < 0x20 then 0 else 1
  else if c.toNat < 0xA0 then 0
  else if c.toNat = 0x17D8 then 3
  else if zeroWidthRanges.contains c then 0
  else if wideRanges.contains c then 2
  else 1

/-! ## What follows a character -/

/-- The letters of several scripts that join with a letter before them. -/
inductive JoiningLetter
  | alef
  | lamed
  | ya
  | yaAfterVowel
  | tifinagh
  | tifinaghJoined
  | lisuTone
  | orkhon
  | coengLetter
deriving DecidableEq

/-- The tail of an emoji that a joiner ties to what comes before it. -/
inductive JoinedEmoji
  | plain
  | keycap
  | oneRegion
  | evenRegions
  | oddRegions
  | tagEnd
  | tagLetters (count : Nat)
  | tagDigits (count : Nat)
deriving DecidableEq

/-- What the width of a character depends on: the text right after it. -/
inductive Following
  | nothing
  | newline
  | letter (l : JoiningLetter) (joiner : Bool)
  | skinTone
  | region
  | regions
  | emoji
  | joined (j : JoinedEmoji)
deriving DecidableEq

/-- The text after a character, and the variation selector in between, if any. -/
structure Context where
  following : Following
  emojiSelector : Bool
  textSelector : Bool
deriving DecidableEq

/-- A context without a variation selector. -/
def Context.plain (f : Following) : Context := ⟨f, false, false⟩

/-- The context at the end of a text. -/
def Context.start : Context := Context.plain .nothing

/-! ## Classes of characters -/

/-- Letters of the joining group Alef. -/
def alefRanges : CodeRanges := [
  (0x0622, 0x0623), (0x0625, 0x0625), (0x0627, 0x0627), (0x0671, 0x0673), (0x0675, 0x0675),
  (0x0773, 0x0774), (0x0870, 0x0882)]

/-- Letters of the joining group Lam. -/
def lamRanges : CodeRanges := [
  (0x0644, 0x0644), (0x06B5, 0x06B8), (0x076A, 0x076A), (0x08A6, 0x08A6), (0x08C7, 0x08C7)]

def tifinaghRanges : CodeRanges := [(0x2D31, 0x2D65), (0x2D6F, 0x2D6F)]

/-- Khmer letters that can stand below another one. -/
def coengLetterRanges : CodeRanges := [
  (0x1780, 0x1782), (0x1784, 0x1787), (0x1789, 0x178C), (0x178E, 0x1793), (0x1795, 0x1798),
  (0x179B, 0x179D), (0x17A0, 0x17A0), (0x17A2, 0x17A2), (0x17A7, 0x17A7), (0x17AB, 0x17AC),
  (0x17AF, 0x17AF)]

/-- Lisu tone letters that another one may follow. -/
def lisuStemRanges : CodeRanges := [(0xA4F8, 0xA4FB)]

def regionRanges : CodeRanges := [(0x1F1E6, 0x1F1FF)]

def skinToneRanges : CodeRanges := [(0x1F3FB, 0x1F3FF)]

/-- Characters that cursive joining sees through: marks and formats without width. -/
def isJoinTransparent (c : Char) : Bool :=
  zeroWidthRanges.contains c && !interruptingRanges.contains c

/-- What a character is to the one before it. -/
def following (c : Char) : Following :=
  let n := c.toNat
  if n < 0xA0 then if c = '\n' then .newline else .nothing
  else if n = 0x05DC then .letter .lamed false
  else if alefRanges.contains c then .letter .alef false
  else if coengLetterRanges.contains c then .letter .coengLetter false
  else if n = 0x1A10 then .letter .ya false
  else if tifinaghRanges.contains c then .letter .tifinagh false
  else if n = 0xA4FC || n = 0xA4FD then .letter .lisuTone false
  else if n = 0x10C03 then .letter .orkhon false
  else if regionRanges.contains c then .region
  else if skinToneRanges.contains c then .skinTone
  else if emojiPresentationRanges.contains c then .emoji
  else .nothing

/-! ## One step from the end -/

/-- A character before a letter that it may join with, or that lets the one before
it join. Only marks may stand between Lam and Alef; a joiner and ignored marks may
stand in every other ligature. -/
def joinLetter (l : JoiningLetter) (joiner : Bool) (c : Char) : Option (Int × Following) :=
  let n := c.toNat
  if l = .alef then
    if lamRanges.contains c then some (0, .nothing)
    else if isJoinTransparent c then some (0, .letter .alef joiner)
    else none
  else if n = 0x200D then some (0, .letter l true)
  else if ignorableMarkRanges.contains c then some (0, .letter l joiner)
  else match l with
    | .lamed => if joiner && n = 0x05D0 then some (0, .nothing) else none
    | .ya => if joiner && n = 0x1A17 then some (0, .letter .yaAfterVowel true) else none
    | .yaAfterVowel => if n = 0x1A15 then some (0, .nothing) else none
    | .tifinagh =>
      if n = 0x2D7F then some (1, .letter .tifinaghJoined true)
      else if joiner && tifinaghRanges.contains c then some (0, .nothing)
      else none
    | .tifinaghJoined => if tifinaghRanges.contains c then some (-1, .nothing) else none
    | .lisuTone => if lisuStemRanges.contains c then some (0, .nothing) else none
    | .orkhon => if joiner && n = 0x10C32 then some (0, .nothing) else none
    | .coengLetter => if n = 0x17D2 then some (-1, .nothing) else none
    | .alef => none

/-- The width that a character adds and the context for the one before it, as far
as the characters after it decide; `none` if they do not. -/
def ligature (next : Following) (c : Char) : Option (Int × Following) :=
  let n := c.toNat
  match next with
  | .letter l joiner => joinLetter l joiner c
  | .skinTone =>
    if emojiModifierBaseRanges.contains c then some (0, .emoji)
    else if n = 0x200D then some (0, .joined .plain)
    else none
  | .region => if regionRanges.contains c then some (1, .regions) else none
  | .regions =>
    if regionRanges.contains c then some (1, .regions)
    else if n = 0x200D then some (0, .joined .plain)
    else none
  | .emoji => if n = 0x200D then some (0, .joined .plain) else none
  | .joined .plain =>
    if n = 0x20E3 then some (0, .joined .keycap)
    else if regionRanges.contains c then some (1, .joined .oneRegion)
    else if skinToneRanges.contains c then some (0, .skinTone)
    else if n = 0xE007F then some (0, .joined .tagEnd)
    else if emojiPresentationRanges.contains c then some (0, .emoji)
    else none
  | .joined .oneRegion | .joined .oddRegions =>
    if regionRanges.contains c then some (-1, .joined .evenRegions)
    else if n = 0x200D && next = .joined .oddRegions then some (0, .joined .plain)
    else none
  | .joined .evenRegions =>
    if regionRanges.contains c then some (3, .joined .oddRegions)
    else if n = 0x200D then some (0, .joined .plain)
    else none
  | .joined .tagEnd =>
    if decide (0xE0061 ≤ n) && decide (n ≤ 0xE007A) then some (0, .joined (.tagLetters 1))
    else if decide (0xE0030 ≤ n) && decide (n ≤ 0xE0039) then some (0, .joined (.tagDigits 1))
    else none
  | .joined (.tagLetters count) =>
    if decide (0xE0061 ≤ n) && decide (n ≤ 0xE007A) && decide (count < 6) then
      some (0, .joined (.tagLetters (count + 1)))
    else if decide (0xE0030 ≤ n) && decide (n ≤ 0xE0039) && decide (count < 5) then
      some (0, .joined (.tagDigits 1))
    else if n = 0x1F3F4 && decide (3 ≤ count) then some (0, .emoji)
    else none
  | .joined (.tagDigits count) =>
    if decide (0xE0030 ≤ n) && decide (n ≤ 0xE0039) && decide (count < 3) then
      some (0, .joined (.tagDigits (count + 1)))
    else if n = 0x1F3F4 && count = 3 then some (0, .emoji)
    else none
  | _ => none

/-- The text after a variation selector that a character before the selector can
still join with: letters, joined emoji and joined keycaps are seen through it. -/
def Following.throughSelector : Following → Following
  | .letter l joiner => .letter l joiner
  | .joined .plain => .joined .plain
  | .joined .keycap => .joined .keycap
  | _ => .nothing

/-- The text after a selector that did not belong to the character before it. -/
def Following.withoutSelector : Following → Following
  | .letter l joiner => .letter l joiner
  | _ => .nothing

/-- The columns of a character that no selector speaks about. -/
def widthBefore (c : Char) (next : Following) : Int × Context :=
  if c.toNat ≤ 0xA0 then
    if c = '\n' then (0, Context.plain .newline)
    else if c = '\r' && next = .newline then (0, Context.start)
    else (1, Context.start)
  else if c.toNat = 0xFE0F then (0, ⟨next.throughSelector, true, false⟩)
  else if c.toNat = 0xFE0E then (0, ⟨next.withoutSelector, false, true⟩)
  else match ligature next c with
    | some (columns, f) => (columns, Context.plain f)
    | none => (charWidth c, Context.plain (following c))

/-- The columns that a character adds in front of a context, and the context for
the character before it. -/
def widthStep (c : Char) (context : Context) : Int × Context :=
  if context.emojiSelector && emojiVariationRanges.contains c then
    match context.following with
    | .joined _ => (0, Context.plain .emoji)
    | _ => (2, Context.plain .emoji)
  else if context.textSelector && textVariationRanges.contains c then (1, Context.start)
  else if context.emojiSelector || context.textSelector then
    widthBefore c context.following.withoutSelector
  else widthBefore c context.following

/-- The width of a text and the context that it forms for what stands before it. -/
def widthFrom : List Char → Int × Context
  | [] => (0, Context.start)
  | c :: rest =>
    let (width, context) := widthFrom rest
    let (columns, before) := widthStep c context
    (width + columns, before)

/-- The columns that a text takes. -/
def displayWidth (s : List Char) : Nat := (widthFrom s).1.toNat

def width (s : String) : Nat := displayWidth s.toList

end CommitQuery.Text
