/-
UTF-8 on lists of bytes. Documents and blobs arrive as bytes, and the text inside them counts only
if its bytes are well formed: shortest form, no surrogates, nothing above U+10FFFF. The two
directions are written over plain arithmetic on scalar values, so that reading back what was
written (`decode_encode`) is a fact about division by powers of 64.
-/

namespace SessionForge.Utf8

/-! ### Writing -/

/-- The bytes of one character: one byte below U+0080, then two, three and four. -/
def encodeChar (c : Char) : List UInt8 :=
  let n := c.toNat
  if n < 0x80 then [UInt8.ofNat n]
  else if n < 0x800 then [UInt8.ofNat (0xC0 + n / 64), UInt8.ofNat (0x80 + n % 64)]
  else if n < 0x10000 then
    [UInt8.ofNat (0xE0 + n / 4096), UInt8.ofNat (0x80 + n / 64 % 64), UInt8.ofNat (0x80 + n % 64)]
  else
    [UInt8.ofNat (0xF0 + n / 262144), UInt8.ofNat (0x80 + n / 4096 % 64),
      UInt8.ofNat (0x80 + n / 64 % 64), UInt8.ofNat (0x80 + n % 64)]

/-- The bytes of a text, character by character. -/
def encode (text : List Char) : List UInt8 :=
  text.flatMap encodeChar

/-- The bytes of a string. -/
def ofString (text : String) : List UInt8 :=
  encode text.toList

/-! ### Reading -/

/-- A scalar value that is at least `least`, the smallest one its number of bytes may spell. -/
def scalar? (least n : Nat) : Option Char :=
  if least ≤ n ∧ (n < 0xD800 ∨ 0xDFFF < n) ∧ n < 0x110000 then some (Char.ofNat n) else none

/-- Reads on when `owed` bytes of a character are still to come, `least` is the smallest scalar
value it may have, and `begun` holds the bits read so far. Between characters nothing is owed. -/
def decodeFrom : Nat → Nat → Nat → List UInt8 → Option (List Char)
  | 0, _, _, [] => some []
  | _ + 1, _, _, [] => none
  | 0, _, _, b :: rest =>
    if b.toNat < 0x80 then (decodeFrom 0 0 0 rest).map (Char.ofNat b.toNat :: ·)
    else if b.toNat / 32 = 6 then decodeFrom 1 0x80 (b.toNat % 32) rest
    else if b.toNat / 16 = 14 then decodeFrom 2 0x800 (b.toNat % 16) rest
    else if b.toNat / 8 = 30 then decodeFrom 3 0x10000 (b.toNat % 8) rest
    else none
  | owed + 1, least, begun, b :: rest =>
    if b.toNat / 64 = 2 then
      if owed = 0 then
        (scalar? least (begun * 64 + b.toNat % 64)).bind fun c =>
          (decodeFrom 0 0 0 rest).map (c :: ·)
      else decodeFrom owed least (begun * 64 + b.toNat % 64) rest
    else none

/-- Reads well-formed UTF-8, and nothing else. -/
def decode (bytes : List UInt8) : Option (List Char) :=
  decodeFrom 0 0 0 bytes

/-- The string that some bytes spell, if they spell one. -/
def toString? (bytes : List UInt8) : Option String :=
  (decode bytes).map String.ofList

/-! ### Reading back what was written -/

theorem toNat_char_lt (c : Char) : c.toNat < 0x110000 := by
  have valid := c.valid
  simp only [UInt32.isValidChar, Nat.isValidChar] at valid
  change c.val.toNat < 0x110000
  omega

theorem not_surrogate (c : Char) : c.toNat < 0xD800 ∨ 0xDFFF < c.toNat := by
  have valid := c.valid
  simp only [UInt32.isValidChar, Nat.isValidChar] at valid
  change c.val.toNat < 0xD800 ∨ 0xDFFF < c.val.toNat
  omega

theorem scalar?_toNat (c : Char) (least : Nat) (long : least ≤ c.toNat) :
    scalar? least c.toNat = some c := by
  have bound := toNat_char_lt c
  have outside := not_surrogate c
  rw [scalar?, if_pos ⟨long, outside, bound⟩, Char.ofNat_toNat]

/-- A character written before some bytes is read before them. -/
theorem decode_encodeChar_append (c : Char) (rest : List UInt8) :
    decode (encodeChar c ++ rest) = (decode rest).map (c :: ·) := by
  have bound := toNat_char_lt c
  simp only [encodeChar, decode]
  split
  · next one =>
    have fits : c.toNat % 256 = c.toNat := by omega
    simp only [List.cons_append, List.nil_append, decodeFrom, UInt8.toNat_ofNat', fits, one,
      if_true, Char.ofNat_toNat]
  · split
    · next one two =>
      have first : (192 + c.toNat / 64) % 256 = 192 + c.toNat / 64 := by omega
      have second : (128 + c.toNat % 64) % 256 = 128 + c.toNat % 64 := by omega
      have whole : (192 + c.toNat / 64) % 32 * 64 + (128 + c.toNat % 64) % 64 = c.toNat := by omega
      have lead : ¬ 192 + c.toNat / 64 < 128 := by omega
      have kind : (192 + c.toNat / 64) / 32 = 6 := by omega
      have tail : (128 + c.toNat % 64) / 64 = 2 := by omega
      simp only [List.cons_append, List.nil_append, decodeFrom, UInt8.toNat_ofNat', first, lead,
        if_false, second, tail, kind, if_true, whole, scalar?_toNat c 0x80 (by omega),
        Option.bind_some]
    · split
      · next one two three =>
        have first : (224 + c.toNat / 4096) % 256 = 224 + c.toNat / 4096 := by omega
        have second : (128 + c.toNat / 64 % 64) % 256 = 128 + c.toNat / 64 % 64 := by omega
        have third : (128 + c.toNat % 64) % 256 = 128 + c.toNat % 64 := by omega
        have whole : ((224 + c.toNat / 4096) % 16 * 64 + (128 + c.toNat / 64 % 64) % 64) * 64
            + (128 + c.toNat % 64) % 64 = c.toNat := by omega
        have lead : ¬ 224 + c.toNat / 4096 < 128 := by omega
        have notTwo : ¬ (224 + c.toNat / 4096) / 32 = 6 := by omega
        have kind : (224 + c.toNat / 4096) / 16 = 14 := by omega
        have tail₁ : (128 + c.toNat / 64 % 64) / 64 = 2 := by omega
        have tail₂ : (128 + c.toNat % 64) / 64 = 2 := by omega
        simp only [List.cons_append, List.nil_append, decodeFrom, UInt8.toNat_ofNat', first, lead,
          if_false, second, third, tail₁, tail₂, notTwo, kind, if_true, Nat.one_ne_zero, whole,
          scalar?_toNat c 0x800 (by omega), Option.bind_some]
      · next one two three =>
        have first : (240 + c.toNat / 262144) % 256 = 240 + c.toNat / 262144 := by omega
        have second : (128 + c.toNat / 4096 % 64) % 256 = 128 + c.toNat / 4096 % 64 := by omega
        have third : (128 + c.toNat / 64 % 64) % 256 = 128 + c.toNat / 64 % 64 := by omega
        have fourth : (128 + c.toNat % 64) % 256 = 128 + c.toNat % 64 := by omega
        have whole : (((240 + c.toNat / 262144) % 8 * 64 + (128 + c.toNat / 4096 % 64) % 64) * 64
            + (128 + c.toNat / 64 % 64) % 64) * 64 + (128 + c.toNat % 64) % 64 = c.toNat := by
          omega
        have lead : ¬ 240 + c.toNat / 262144 < 128 := by omega
        have notTwo : ¬ (240 + c.toNat / 262144) / 32 = 6 := by omega
        have notThree : ¬ (240 + c.toNat / 262144) / 16 = 14 := by omega
        have kind : (240 + c.toNat / 262144) / 8 = 30 := by omega
        have tail₁ : (128 + c.toNat / 4096 % 64) / 64 = 2 := by omega
        have tail₂ : (128 + c.toNat / 64 % 64) / 64 = 2 := by omega
        have tail₃ : (128 + c.toNat % 64) / 64 = 2 := by omega
        simp only [List.cons_append, List.nil_append, decodeFrom, UInt8.toNat_ofNat', first, lead,
          if_false, second, third, fourth, tail₁, tail₂, tail₃, notTwo, notThree, kind, if_true,
          Nat.one_ne_zero, (by decide : ¬ (2 : Nat) = 0), whole,
          scalar?_toNat c 0x10000 (by omega), Option.bind_some]

/-- Reading gives back the text that was written. -/
theorem decode_encode (text : List Char) : decode (encode text) = some text := by
  induction text with
  | nil => rfl
  | cons c rest inductionHypothesis =>
    rw [encode, List.flatMap_cons, decode_encodeChar_append]
    simp only [encode] at inductionHypothesis
    rw [inductionHypothesis]
    rfl

end SessionForge.Utf8
