/-! Words of a text and the lines they stand on. -/
namespace Planar

/-- The characters of the Unicode property White_Space. -/
def isBlank (c : Char) : Bool :=
  let n := c.toNat
  (9 ≤ n && n ≤ 13) || n == 0x20 || n == 0x85 || n == 0xA0 || n == 0x1680 ||
    (0x2000 ≤ n && n ≤ 0x200A) || n == 0x2028 || n == 0x2029 || n == 0x202F ||
    n == 0x205F || n == 0x3000

/-- A maximal run of characters that are not blank. Lines are counted from 1. -/
structure Word where
  line : Nat
  letters : List Char
  deriving DecidableEq, Repr

/-- Adds the word whose letters were read last to first, if it has any. -/
def endWord (line : Nat) (current : List Char) (before : Array Word) : Array Word :=
  if current = [] then before else before.push ⟨line, current.reverse⟩

/-- The words of the rest of a text, on `line`, after those in `before` and the letters of the
current word, the last one first. -/
def wordsFrom (line : Nat) (current : List Char) (before : Array Word) : List Char → Array Word
  | [] => endWord line current before
  | c :: rest =>
    if isBlank c then
      wordsFrom (if c = '\n' then line + 1 else line) [] (endWord line current before) rest
    else wordsFrom line (c :: current) before rest

def words (text : String) : List Word := (wordsFrom 1 [] #[] text.toList).toList

end Planar
