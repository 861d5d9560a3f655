import SocketStrategies.Bytes

/-!
# Texts

What the other modules do with texts, whatever these stand for: writing them as UTF-8, comparing
them without regard to case, and trimming them.
-/

namespace SocketStrategies

/-!
## Text as bytes

`encode` writes a text as UTF-8 and `decode?` reads it back, refusing every byte string that is
not the UTF-8 form of some text: overlong forms, surrogates and numbers beyond the last code point
included. The two are inverse to each other, `decode?_eq_some_iff`.
-/

namespace Utf8

def encode (s : String) : Bytes := s.toUTF8.data.toList

/-- The text whose UTF-8 form the bytes are. -/
def decode? (b : Bytes) : Option String := String.fromUTF8? ⟨b.toArray⟩

def length (s : String) : Nat := s.utf8ByteSize

theorem length_encode (s : String) : (encode s).length = length s := rfl

theorem decode?_eq_some_iff {b : Bytes} {s : String} : decode? b = some s ↔ b = encode s := by
  unfold decode? encode String.fromUTF8?
  constructor
  · intro h
    split at h
    · simp only [Option.some.injEq] at h
      subst h
      rfl
    · simp at h
  · rintro rfl
    have h : (⟨s.toUTF8.data.toList.toArray⟩ : ByteArray).IsValidUTF8 := s.isValidUTF8
    rw [dif_pos h]
    rfl

@[simp] theorem decode?_encode (s : String) : decode? (encode s) = some s :=
  decode?_eq_some_iff.mpr rfl

theorem decode?_eq_none_iff {b : Bytes} : decode? b = none ↔ ∀ s, b ≠ encode s := by
  rw [Option.eq_none_iff_forall_not_mem]
  exact forall_congr' fun s => not_congr decode?_eq_some_iff

end Utf8

namespace Text

/-!
## Comparing text without regard to case

Names in media types are compared with the ASCII letters folded to lower case; every other
character counts as it stands.
-/

/-- A text with its ASCII capitals made small. -/
def lower (s : String) : String := s.map Char.toLower

/-- Whether two texts differ at most in the case of ASCII letters. -/
def sameCaseless (a b : String) : Bool := lower a == lower b

/-!
## Blank characters

The blank characters are those with the Unicode property White_Space. `trim` takes them off both
ends of a text; what is left neither starts nor ends with one.
-/

/-- The characters with the property White_Space. -/
def isBlank (c : Char) : Bool :=
  let n := c.toNat
  (9 ≤ n && n ≤ 13) || n == 0x20 || n == 0x85 || n == 0xA0 || n == 0x1680
    || (0x2000 ≤ n && n ≤ 0x200A) || n == 0x2028 || n == 0x2029 || n == 0x202F || n == 0x205F
    || n == 0x3000

/-- Takes the characters of a class off the front. -/
def trimStart (p : Char → Bool) (cs : List Char) : List Char := cs.dropWhile p

def trimEnd (p : Char → Bool) (cs : List Char) : List Char := (cs.reverse.dropWhile p).reverse

def trimBoth (p : Char → Bool) (cs : List Char) : List Char := trimEnd p (trimStart p cs)

/-- Takes the blank characters off both ends. -/
def trim (cs : List Char) : List Char := trimBoth isBlank cs

end Text

end SocketStrategies
