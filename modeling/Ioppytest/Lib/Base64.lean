import Ioppytest.Lib.PyString
import Mathlib.Data.List.GetD
import Mathlib.Data.List.Nodup

/-!
# Base64

`base64.b64encode`: three bytes become four characters of the alphabet, and padding fills the last
group. `base64.b64decode` passes over what is not in the alphabet and puts the bytes together again.
What is encoded is decoded to the same bytes.
-/

namespace PyString

/-- The alphabet, in the order of the values of its characters. -/
def base64Alphabet : List Char :=
  "ABCDEFGHIJKLMNOPQRSTUVWXYZabcdefghijklmnopqrstuvwxyz0123456789+/".toList

/-- The character for six bits. -/
def base64Digit (value : Nat) : Char := base64Alphabet.getD (value % 64) 'A'

/-- The characters for a list of bytes. -/
def base64Groups : List UInt8 → List Char
  | [] => []
  | [a] => [base64Digit (a.toNat / 4), base64Digit (a.toNat * 16), '=', '=']
  | [a, b] =>
    [base64Digit (a.toNat / 4), base64Digit (a.toNat * 16 + b.toNat / 16),
      base64Digit (b.toNat * 4), '=']
  | a :: b :: c :: rest =>
    base64Digit (a.toNat / 4) :: base64Digit (a.toNat * 16 + b.toNat / 16) ::
      base64Digit (b.toNat * 4 + c.toNat / 64) :: base64Digit c.toNat :: base64Groups rest

/-- `base64.b64encode(bytes)`, decoded as text. -/
def b64encode (bytes : List UInt8) : String := String.ofList (base64Groups bytes)

example : b64encode [77, 97, 110, 33] = "TWFuIQ==" := by decide

/-- A digit is a character of the alphabet. -/
theorem base64Digit_mem (value : Nat) : base64Digit value ∈ base64Alphabet := by
  have inside : value % 64 < base64Alphabet.length := Nat.mod_lt _ (by decide)
  rw [base64Digit, List.getD_eq_getElem _ _ inside]
  exact List.getElem_mem inside

/-- The alphabet is ASCII, and the decoder knows its characters, which are no padding. -/
theorem base64Alphabet_plain :
    ∀ c ∈ base64Alphabet, c.val < 128 ∧ base64Char c = true ∧ (c == '=') = false := by
  have plain : base64Alphabet.all
      (fun c => decide (c.val < 128) && base64Char c && c != '=') = true := by decide
  intro c member
  simpa [and_assoc] using List.all_eq_true.mp plain c member

/-- A digit is in the alphabet. -/
@[simp] theorem base64Char_digit (value : Nat) : base64Char (base64Digit value) = true :=
  (base64Alphabet_plain _ (base64Digit_mem value)).2.1

/-- A digit is no padding. -/
@[simp] theorem base64Digit_beq (value : Nat) : (base64Digit value == '=') = false :=
  (base64Alphabet_plain _ (base64Digit_mem value)).2.2

/-- What is encoded is ASCII. -/
theorem base64Groups_ascii (bytes : List UInt8) : ∀ c ∈ base64Groups bytes, c.val < 128 := by
  have digit (value : Nat) : (base64Digit value).val < 128 :=
    (base64Alphabet_plain _ (base64Digit_mem value)).1
  induction bytes using base64Groups.induct with
  | case1 => simp [base64Groups]
  | case2 a => simp [base64Groups, digit]
  | case3 a b => simp [base64Groups, digit]
  | case4 a b c rest ih => simpa [base64Groups, digit] using ih

/-- The decoder accepts what is encoded. -/
theorem base64Accepts_groups (bytes : List UInt8) :
    base64Accepts 0 (base64Groups bytes) = true := by
  induction bytes using base64Groups.induct with
  | case1 => rfl
  | case2 a => simp [base64Groups, base64Accepts]
  | case3 a b => simp [base64Groups, base64Accepts]
  | case4 a b c rest ih => simp [base64Groups, base64Accepts, ih]

/-- What is encoded can be decoded. -/
theorem b64decodes_b64encode (bytes : List UInt8) : b64decodes (b64encode bytes) = true := by
  simp only [b64decodes, b64encode, String.toList_ofList, base64Accepts_groups, Bool.and_true,
    List.all_eq_true, decide_eq_true_eq]
  exact base64Groups_ascii bytes

/-- The value of a character of the alphabet. -/
def base64Value (c : Char) : Nat := base64Alphabet.idxOf c

/-- The byte that a digit completes, if it completes one, and the bits that it leaves for the next. -/
def base64Shift (digits left value : Nat) : Option UInt8 × Nat :=
  match digits with
  | 0 => (none, value)
  | 1 => (some (.ofNat (left * 4 + value / 16)), value % 16)
  | 2 => (some (.ofNat (left * 16 + value / 4)), value % 4)
  | _ => (some (.ofNat (left * 64 + value)), 0)

/-- The bytes of the rest of the input, `digits` digits into a group of four, with the bits that
the last of them left. -/
def base64Bytes : Nat → Nat → List Char → Option (List UInt8)
  | digits, _, [] => if digits == 0 then some [] else none
  | digits, left, c :: rest =>
    if c == '=' then
      if digits < 2 ∨
          (digits = 2 ∧ (rest.find? fun c => base64Char c || c == '=') ≠ some '=') then
        base64Bytes digits left rest
      else some []
    else if base64Char c then
      let (byte, bits) := base64Shift digits left (base64Value c)
      (base64Bytes ((digits + 1) % 4) bits rest).map (byte.toList ++ ·)
    else base64Bytes digits left rest

/-- `base64.b64decode(string)`; none where it raises. -/
def b64decode (string : String) : Option (List UInt8) :=
  if string.toList.all (·.val < 128) then base64Bytes 0 0 string.toList else none

example : b64decode "TWFu\nIQ==" = some [77, 97, 110, 33] := by decide

/-- The decoder returns for what is accepted. -/
theorem base64Bytes_isSome (digits left : Nat) (letters : List Char) :
    (base64Bytes digits left letters).isSome = base64Accepts digits letters := by
  induction letters generalizing digits left with
  | nil =>
    unfold base64Bytes base64Accepts
    split <;> simp_all
  | cons c rest ih =>
    unfold base64Bytes base64Accepts
    split
    · split
      · exact ih digits left
      · rfl
    · split
      · rw [Option.isSome_map]
        exact ih _ _
      · exact ih digits left

/-- A string is decoded exactly when the decoder accepts it. -/
theorem b64decode_isSome (string : String) : (b64decode string).isSome = b64decodes string := by
  unfold b64decode b64decodes
  split
  · rename_i ascii
    rw [ascii, Bool.true_and]
    exact base64Bytes_isSome 0 0 string.toList
  · rename_i foreign
    rw [Bool.not_eq_true] at foreign
    rw [foreign]
    rfl

/-- The alphabet has no digit twice. -/
theorem base64Alphabet_nodup : base64Alphabet.Nodup := by decide

/-- The value of a digit. -/
@[simp] theorem base64Value_digit (value : Nat) : base64Value (base64Digit value) = value % 64 := by
  have inside : value % 64 < base64Alphabet.length := Nat.mod_lt _ (by decide)
  rw [base64Value, base64Digit, List.getD_eq_getElem _ _ inside]
  exact base64Alphabet_nodup.idxOf_getElem _ inside

/-- A digit is decoded together with what was left before it. -/
theorem base64Bytes_digit (digits left value : Nat) (rest : List Char) :
    base64Bytes digits left (base64Digit value :: rest) =
      (base64Bytes ((digits + 1) % 4) (base64Shift digits left (value % 64)).2 rest).map
        ((base64Shift digits left (value % 64)).1.toList ++ ·) := by
  rw [base64Bytes]
  simp

/-- The bytes of a group are put together again. -/
theorem base64Bytes_groups (bytes : List UInt8) :
    base64Bytes 0 0 (base64Groups bytes) = some bytes := by
  have byte (a : UInt8) {value : Nat} (same : value % 256 = a.toNat) : UInt8.ofNat value = a := by
    apply UInt8.toNat_inj.mp
    rw [UInt8.toNat_ofNat']
    exact same
  induction bytes using base64Groups.induct with
  | case1 => rfl
  | case2 a =>
    have below := a.toNat_lt
    have first : UInt8.ofNat (a.toNat / 4 % 64 * 4 + a.toNat * 16 % 64 / 16) = a :=
      byte a (by omega)
    simp only [base64Groups, base64Bytes_digit, base64Shift, Nat.reduceAdd, Nat.reduceMod, first]
    simp [base64Bytes]
  | case3 a b =>
    have below := a.toNat_lt
    have beneath := b.toNat_lt
    have first : UInt8.ofNat (a.toNat / 4 % 64 * 4 +
        (a.toNat * 16 + b.toNat / 16) % 64 / 16) = a := byte a (by omega)
    have second : UInt8.ofNat ((a.toNat * 16 + b.toNat / 16) % 64 % 16 * 16 +
        b.toNat * 4 % 64 / 4) = b := byte b (by omega)
    simp only [base64Groups, base64Bytes_digit, base64Shift, Nat.reduceAdd, Nat.reduceMod, first,
      second]
    simp [base64Bytes]
  | case4 a b c rest ih =>
    have below := a.toNat_lt
    have beneath := b.toNat_lt
    have bound := c.toNat_lt
    have first : UInt8.ofNat (a.toNat / 4 % 64 * 4 +
        (a.toNat * 16 + b.toNat / 16) % 64 / 16) = a := byte a (by omega)
    have second : UInt8.ofNat ((a.toNat * 16 + b.toNat / 16) % 64 % 16 * 16 +
        (b.toNat * 4 + c.toNat / 64) % 64 / 4) = b := byte b (by omega)
    have third : UInt8.ofNat ((b.toNat * 4 + c.toNat / 64) % 64 % 4 * 64 + c.toNat % 64) = c :=
      byte c (by omega)
    simp only [base64Groups, base64Bytes_digit, base64Shift, Nat.reduceAdd, Nat.reduceMod, first,
      second, third, ih]
    simp

/-- **What is encoded is decoded to the same bytes.** -/
theorem b64decode_b64encode (bytes : List UInt8) : b64decode (b64encode bytes) = some bytes := by
  have ascii : (base64Groups bytes).all (·.val < 128) = true := by
    simpa only [List.all_eq_true, decide_eq_true_eq] using base64Groups_ascii bytes
  simp only [b64decode, b64encode, String.toList_ofList, ascii, ↓reduceIte]
  exact base64Bytes_groups bytes
end PyString
