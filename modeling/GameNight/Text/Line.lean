import GameNight.Text.Quoted

namespace GameNight
namespace Text

/-!
# Texts in lines, in pieces and in bytes

Texts are cut into their lines and at marks, searched for a pattern, and read from
the bytes of a file.
-/

/-!
## Lines

A physical line ends with a line feed, which belongs to it; only the last
line of a text may lack one.  `foldNewlines` is for texts written under other
conventions: a carriage return, alone or before a line feed, is one line end.
-/

/-- The lines of a text that follows `current`, the reversed start of a line. -/
def linesFrom (current : List Char) : List Char → List (List Char)
  | [] => if current.isEmpty then [] else [current.reverse]
  | c :: rest =>
    if c = '\n' then (c :: current).reverse :: linesFrom [] rest
    else linesFrom (c :: current) rest

def physicalLines (chars : List Char) : List (List Char) :=
  linesFrom [] chars

theorem flatten_linesFrom (current chars : List Char) :
    (linesFrom current chars).flatten = current.reverse ++ chars := by
  induction chars generalizing current with
  | nil => cases current <;> simp [linesFrom]
  | cons c rest inductionHypothesis =>
      by_cases ends : c = '\n' <;> simp [linesFrom, ends, inductionHypothesis]

/-- Cutting into lines loses nothing. -/
@[simp] theorem flatten_physicalLines (chars : List Char) :
    (physicalLines chars).flatten = chars := by
  simp [physicalLines, flatten_linesFrom]

/-- Write every line end as a line feed, in a text that stands after a
carriage return or not. -/
def foldNewlinesAfter (afterReturn : Bool) : List Char → List Char
  | [] => []
  | c :: rest =>
    if c = '\r' then '\n' :: foldNewlinesAfter true rest
    else if c = '\n' && afterReturn then foldNewlinesAfter false rest
    else c :: foldNewlinesAfter false rest

/-- Write every line end of a text as a line feed. -/
def foldNewlines (chars : List Char) : List Char :=
  foldNewlinesAfter false chars

/-!
## Searching and cutting

A pattern occurs in a text when it stands there as one contiguous piece.
`cut?` finds its first occurrence and gives the text on either side of it, so
that a text with exactly one occurrence is one whose remainder holds no other.
`splitOn` cuts at every occurrence of a single character.
-/

/-- Cut a text at the first occurrence of a pattern: what stands before it
and what stands after it. -/
def cut? (pattern : List Char) : List Char → Option (List Char × List Char)
  | [] => if pattern.isEmpty then some ([], []) else none
  | c :: rest =>
    if pattern.isPrefixOf (c :: rest) then some ([], (c :: rest).drop pattern.length)
    else (cut? pattern rest).map fun sides => (c :: sides.1, sides.2)

def occurs (pattern chars : List Char) : Bool :=
  (cut? pattern chars).isSome

/-- The two sides of the first occurrence put the text together again. -/
theorem eq_append_of_cut? {pattern chars before after : List Char}
    (found : cut? pattern chars = some (before, after)) :
    chars = before ++ pattern ++ after := by
  induction chars generalizing before with
  | nil =>
      cases pattern with
      | nil => simp_all [cut?]
      | cons c rest => simp [cut?] at found
  | cons c rest inductionHypothesis =>
      by_cases here : pattern.isPrefixOf (c :: rest)
      · simp only [cut?, here, if_true, Option.some.injEq, Prod.mk.injEq] at found
        rcases List.isPrefixOf_iff_prefix.mp here with ⟨tail, joined⟩
        rw [← found.1, ← found.2, ← joined]
        simp
      · simp only [cut?, here, Bool.false_eq_true, if_false, Option.map_eq_some_iff] at found
        rcases found with ⟨⟨left, right⟩, inner, joined⟩
        cases joined
        simpa using inductionHypothesis inner

/-- Cut a text at every occurrence of one character.  A text without it is
one piece, and an empty text is one empty piece. -/
def splitOn (separator : Char) : List Char → List (List Char)
  | [] => [[]]
  | c :: rest =>
    if c = separator then [] :: splitOn separator rest
    else
      match splitOn separator rest with
      | [] => [[c]]
      | piece :: pieces => (c :: piece) :: pieces

theorem splitOn_ne_nil (separator : Char) (chars : List Char) : splitOn separator chars ≠ [] := by
  cases chars with
  | nil => nofun
  | cons c rest =>
      rw [splitOn]
      split
      · nofun
      · split <;> nofun

/-- Write pieces one after another with a separator between them. -/
def joinWith (separator : String) (pieces : List String) : String :=
  separator.intercalate pieces

/-!
## Reading UTF-8

Files hold bytes.  Reading them as UTF-8 takes the shortest form of every
character only, and no surrogates.  The first byte of a character says which
intervals its later bytes must lie in, so that a fault is found at the first
byte that cannot continue the character.

A fault says where the character at fault starts, how many of its bytes were
read, and whether the text ended, the first byte cannot start a character, or
a later byte does not belong to it.

Tables may carry a signature, the byte order mark; `decodeSigned` drops it,
and positions then count from behind it.
-/

/-- What is wrong with a run of bytes. -/
inductive Utf8Reason where
  | invalidStart
  | invalidContinuation
  | unexpectedEnd
  deriving DecidableEq, Repr

/-- Where reading failed: the position of the character at fault, its first
byte, and the number of its bytes that belong to the fault. -/
structure Utf8Fault where
  position : Nat
  first : Nat
  length : Nat
  reason : Utf8Reason
  deriving DecidableEq, Repr

def Utf8Reason.message : Utf8Reason → String
  | .invalidStart => "invalid start byte"
  | .invalidContinuation => "invalid continuation byte"
  | .unexpectedEnd => "unexpected end of data"

/-- The wording of a fault: a single byte is shown, several are only placed. -/
def Utf8Fault.message (fault : Utf8Fault) : String :=
  if fault.length = 1 then
    "'utf-8' codec can't decode byte 0x" ++ String.ofList (hexDigits 2 fault.first) ++
      " in position " ++ toString fault.position ++ ": " ++ fault.reason.message
  else
    "'utf-8' codec can't decode bytes in position " ++ toString fault.position ++ "-" ++
      toString (fault.position + fault.length - 1) ++ ": " ++ fault.reason.message

/-- The bytes that continue a character: all of them lie in one interval. -/
def continuation : Nat × Nat := (0x80, 0xBF)

/-- What the first byte of a character says: the bits it contributes and the
intervals of the bytes that follow. -/
def firstByte? (byte : Nat) : Option (Nat × List (Nat × Nat)) :=
  if byte < 0x80 then some (byte, [])
  else if byte < 0xC2 then none
  else if byte < 0xE0 then some (byte - 0xC0, [continuation])
  else if byte = 0xE0 then some (0, [(0xA0, 0xBF), continuation])
  else if byte = 0xED then some (0xD, [(0x80, 0x9F), continuation])
  else if byte < 0xF0 then some (byte - 0xE0, [continuation, continuation])
  else if byte = 0xF0 then some (0, [(0x90, 0xBF), continuation, continuation])
  else if byte < 0xF4 then some (byte - 0xF0, [continuation, continuation, continuation])
  else if byte = 0xF4 then some (4, [(0x80, 0x8F), continuation, continuation])
  else none

/-- A character of which some bytes have been read. -/
structure OpenCharacter where
  position : Nat
  first : Nat
  read : Nat
  bits : Nat
  next : Nat × Nat
  later : List (Nat × Nat)

def OpenCharacter.fault (character : OpenCharacter) (reason : Utf8Reason) : Utf8Fault :=
  ⟨character.position, character.first, character.read, reason⟩

/-- Read bytes from a position on.  `done` holds the characters read so far,
the last one first, and `opened` the character that is being read. -/
def decodeFrom (position : Nat) (done : List Char) (opened : Option OpenCharacter) :
    List Nat → Except Utf8Fault (List Char)
  | [] =>
    match opened with
    | none => .ok done.reverse
    | some character => .error (character.fault .unexpectedEnd)
  | byte :: rest =>
    match opened with
    | none =>
      match firstByte? byte with
      | none => .error ⟨position, byte, 1, .invalidStart⟩
      | some (bits, []) => decodeFrom (position + 1) (Char.ofNat bits :: done) none rest
      | some (bits, next :: later) =>
        decodeFrom (position + 1) done (some ⟨position, byte, 1, bits, next, later⟩) rest
    | some character =>
      if character.next.1 ≤ byte ∧ byte ≤ character.next.2 then
        let bits := character.bits * 64 + (byte - 0x80)
        match character.later with
        | [] => decodeFrom (position + 1) (Char.ofNat bits :: done) none rest
        | next :: later =>
          decodeFrom (position + 1) done
            (some ⟨character.position, character.first, character.read + 1, bits, next, later⟩) rest
      else .error (character.fault .invalidContinuation)

/-- Read bytes as UTF-8. -/
def decode (bytes : List Nat) : Except Utf8Fault (List Char) :=
  decodeFrom 0 [] none bytes

/-- The signature that a file may start with. -/
def signature : List Nat := [0xEF, 0xBB, 0xBF]

/-- Read bytes as UTF-8 behind an optional signature.  A file that breaks off
inside the signature is empty. -/
def decodeSigned (bytes : List Nat) : Except Utf8Fault (List Char) :=
  if signature.isPrefixOf bytes then decode (bytes.drop signature.length)
  else if bytes.isPrefixOf signature then .ok []
  else decode bytes

end Text
end GameNight
