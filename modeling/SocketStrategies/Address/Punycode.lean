/-!
# Labels in ASCII

A label of a domain name may hold any characters, while names are looked up in ASCII. The ASCII
form keeps the ASCII characters in front and tells behind the last hyphen how to put in the
others, in ascending order: each number counts the places, and then the code points, that lie
between one insertion and the next. Numbers are written with digits of growing weight, and the
bias makes those short that are likely to follow.
-/

namespace SocketStrategies.Punycode

/-! ## Numbers -/

/-- The value of a digit: the letters, then the decimal digits. -/
def digitValue? (c : Char) : Option Nat :=
  if c.isLower then some (c.toNat - 97)
  else if c.isUpper then some (c.toNat - 65)
  else if c.isDigit then some (c.toNat - 22)
  else none

def digit (n : Nat) : Char := Char.ofNat (if n < 26 then 97 + n else 22 + n)

/-- The least digit at a place that is not the last one of its number. -/
def threshold (bias place : Nat) : Nat := min 26 (max 1 (36 * (place + 1) - bias))

theorem threshold_pos (bias place : Nat) : 0 < threshold bias place := by
  unfold threshold; omega

/-- Brings a number down to the size from which the bias is taken. -/
def biasOf (n steps : Nat) : Nat :=
  if 455 < n then biasOf (n / 35) (steps + 1) else 36 * steps + 36 * n / (n + 38)
termination_by n
decreasing_by exact Nat.div_lt_self (by omega) (by omega)

/-- The bias after a number, when `count` characters are there and the number was or was not the
first. -/
def nextBias (n count : Nat) (first : Bool) : Nat :=
  let n := n / (if first then 700 else 2)
  biasOf (n + n / count) 0

/-- Writes a number from a place on. -/
def writeNumber (bias place n : Nat) : List Char :=
  let t := threshold bias place
  if n < t then [digit n]
  else digit (t + (n - t) % (36 - t)) :: writeNumber bias (place + 1) ((n - t) / (36 - t))
termination_by n
decreasing_by
  have := threshold_pos bias place
  exact Nat.lt_of_le_of_lt (Nat.div_le_self _ _) (by omega)

/-- Reads a number from a place on, where a digit has a weight. -/
def readNumber (bias : Nat) : (place weight : Nat) → List Char → Option (Nat × List Char)
  | _, _, [] => none
  | place, weight, c :: rest => do
      let d ← digitValue? c
      let t := threshold bias place
      if d < t then some (d * weight, rest)
      -- the next weight has to fit into 32 bits
      else if UInt32.size ≤ weight * (36 - t) then none
      else do
        let (n, rest) ← readNumber bias (place + 1) (weight * (36 - t)) rest
        some (d * weight + n, rest)

theorem length_lt_of_readNumber (bias : Nat) :
    ∀ (place weight : Nat) (cs : List Char) (n : Nat) (rest : List Char),
      readNumber bias place weight cs = some (n, rest) → rest.length < cs.length
  | _, _, [], _, _, h => by simp [readNumber] at h
  | place, weight, c :: cs, n, rest, h => by
      simp only [readNumber, Option.bind_eq_bind, Option.bind_eq_some_iff] at h
      obtain ⟨d, -, h⟩ := h
      split at h
      · simp only [Option.some.injEq, Prod.mk.injEq] at h
        simp [h.2]
      · split at h
        · simp at h
        · simp only [Option.bind_eq_some_iff, Option.some.injEq, Prod.mk.injEq] at h
          obtain ⟨⟨m, r⟩, hr, -, rfl⟩ := h
          have := length_lt_of_readNumber bias _ _ _ _ _ hr
          simp only [List.length_cons]
          omega

/-! ## Writing -/

/-- The characters beyond ASCII in the order in which they are put in, each with its place among
those that are there by then. -/
def insertions (label : List Char) : List (Nat × Nat) :=
  let all := label.zipIdx.filterMap fun (c, i) =>
    if c.toNat < 128 then none else some (c.toNat, (label.take i).countP (·.toNat ≤ c.toNat))
  all.mergeSort fun a b => a.1 ≤ b.1

/-- Writes insertions, the next of which could put the character `code` at `place` among
`count`. -/
def writeInsertions (bias code place count : Nat) : List (Nat × Nat) → List Char
  | [] => []
  | (c, i) :: rest =>
      let n := (c - code) * (count + 1) + i - place
      writeNumber bias 0 n
        ++ writeInsertions (nextBias n (count + 1) (place == 0)) c (i + 1) (count + 1) rest

/-- The ASCII form of a label. -/
def encode (label : List Char) : List Char :=
  let basic := label.filter (·.toNat < 128)
  (if basic.isEmpty then [] else basic ++ ['-'])
    ++ writeInsertions 72 128 0 basic.length (insertions label)

/-! ## Reading -/

def char? (n : Nat) : Option Char :=
  if n < 0xD800 || (0xE000 ≤ n && n < 0x110000) then some (Char.ofNat n) else none

/-- Puts characters into a label, the next of which could be `code` at `place`. -/
def readInsertions (bias code place : Nat) (label : List Char) (cs : List Char) :
    Option (List Char) :=
  if cs.isEmpty then some label
  else
    match h : readNumber bias 0 1 cs with
    | none => none
    | some (n, rest) => do
        let count := label.length + 1
        let code' := code + (place + n) / count
        let place' := (place + n) % count
        let c ← char? code'
        readInsertions (nextBias n count (place == 0)) code' (place' + 1)
          (label.insertIdx place' c) rest
termination_by cs.length
decreasing_by exact length_lt_of_readNumber _ _ _ _ _ _ h

/-- The label that an ASCII form stands for. -/
def decode? (cs : List Char) : Option (List Char) :=
  let behind := (cs.reverse.takeWhile (· != '-')).reverse
  match cs.take (cs.length - behind.length - 1) with
  -- a hyphen at the front separates nothing
  | [] => readInsertions 72 128 0 [] cs
  | basic => readInsertions 72 128 0 basic behind

end SocketStrategies.Punycode
