/-! UTF-8 decoding that says where and how a byte string goes wrong. -/
namespace Planar.Utf8

/-- The first fault of a byte string that is not UTF-8. -/
inductive Flaw where
  /-- The `length` bytes from `index` on cannot begin any character. -/
  | invalid (length index : Nat)
  /-- The bytes end inside the character that starts at `index`. -/
  | incomplete (index : Nat)
  deriving DecidableEq, Repr

def Flaw.message : Flaw → String
  | .invalid length index => s!"invalid utf-8 sequence of {length} bytes from index {index}"
  | .incomplete index => s!"incomplete utf-8 byte sequence from index {index}"

/-- The range of each byte that follows the given first byte of a character. -/
def trail (lead : Nat) : Option (List (Nat × Nat)) :=
  let tail := (0x80, 0xBF)
  if lead ≤ 0x7F then some []
  else if lead < 0xC2 then none
  else if lead ≤ 0xDF then some [tail]
  else if lead = 0xE0 then some [(0xA0, 0xBF), tail]
  else if lead = 0xED then some [(0x80, 0x9F), tail]
  else if lead ≤ 0xEF then some [tail, tail]
  else if lead = 0xF0 then some [(0x90, 0xBF), tail, tail]
  else if lead ≤ 0xF3 then some [tail, tail, tail]
  else if lead = 0xF4 then some [(0x80, 0x8F), tail, tail]
  else none

/-- The first flaw of bytes that start at `index` of the whole, inside a character that began at
`start` if ranges of further bytes are due. -/
def flawFrom? (index start : Nat) (due : List (Nat × Nat)) : List UInt8 → Option Flaw
  | [] => if due = [] then none else some (.incomplete start)
  | byte :: rest =>
    match due with
    | [] =>
      match trail byte.toNat with
      | none => some (.invalid 1 index)
      | some ranges => flawFrom? (index + 1) index ranges rest
    | (low, high) :: due =>
      if low ≤ byte.toNat ∧ byte.toNat ≤ high then flawFrom? (index + 1) start due rest
      else some (.invalid (index - start) start)

/-- The first flaw of the bytes. -/
def flaw? (bytes : ByteArray) : Option Flaw := flawFrom? 0 0 [] bytes.data.toList

/-- The text that the bytes encode. -/
def decode (bytes : ByteArray) : Except Flaw String :=
  match String.fromUTF8? bytes with
  | some text => .ok text
  | none => .error ((flaw? bytes).getD (.incomplete bytes.size))

end Planar.Utf8
