import Mathlib.Data.Nat.Notation

/-!
# Names and values in the query of an address

A list of names with their values is written as text: of each byte of their UTF-8 the letters,
the digits and a few marks stand for themselves, the space is a plus, and every other byte a
percent sign with two hexadecimal digits.  Read again, the text gives the list.
-/

namespace FormUrlEncoded

/-- The bytes that stand for themselves. -/
def isPlain (byte : UInt8) : Bool :=
  let char := Char.ofNat byte.toNat
  char.isAlphanum || char == '*' || char == '-' || char == '.' || char == '_'

def hexDigit (digit : ℕ) : Char := (Nat.digitChar digit).toUpper

def hexValue (char : Char) : Option ℕ :=
  let code := char.toLower.toNat
  if char.isDigit then some (char.toNat - 48)
  else if 97 ≤ code ∧ code ≤ 102 then some (code - 87)
  else none

def encodeByte (byte : UInt8) : List Char :=
  if byte = 0x20 then ['+']
  else if isPlain byte then [Char.ofNat byte.toNat]
  else ['%', hexDigit (byte.toNat / 16), hexDigit (byte.toNat % 16)]

def encode (text : String) : List Char := text.toByteArray.data.toList.flatMap encodeByte

def escaped : List Char → Option UInt8
  | high :: low :: _ => do
      let high ← hexValue high
      let low ← hexValue low
      some (UInt8.ofNat (16 * high + low))
  | _ => none

/-- A percent sign that two digits do not follow stands for itself; the digits that have been read
with it are passed over. -/
def decodeBytes (read : ℕ) : List Char → List UInt8
  | [] => []
  | char :: rest =>
      match read with
      | read + 1 => decodeBytes read rest
      | 0 =>
          if char = '+' then 0x20 :: decodeBytes 0 rest
          else if char = '%' then
            match escaped rest with
            | some byte => byte :: decodeBytes 2 rest
            | none => 0x25 :: decodeBytes 0 rest
          else String.utf8EncodeChar char ++ decodeBytes 0 rest

/-- The text of the bytes, if they are one. -/
def decode (encoded : List Char) : Option String :=
  String.fromUTF8? ⟨(decodeBytes 0 encoded).toArray⟩

def serialize (pairs : List (String × String)) : List Char :=
  ['&'].intercalate (pairs.map fun pair => encode pair.1 ++ '=' :: encode pair.2)

def parsePair (piece : List Char) : Option (String × String) := do
  let name ← decode (piece.takeWhile (· != '='))
  let value ← decode ((piece.dropWhile (· != '=')).drop 1)
  some (name, value)

def parse (query : List Char) : Option (List (String × String)) :=
  ((query.splitOn '&').filter (!·.isEmpty)).mapM parsePair

theorem plain_known : ∀ code < 256, isPlain (UInt8.ofNat code) = true →
    let char := Char.ofNat (UInt8.ofNat code).toNat
    char ≠ '%' ∧ char ≠ '+' ∧ char ≠ '&' ∧ char ≠ '=' ∧
      String.utf8EncodeChar char = [UInt8.ofNat code] := by
  decide +kernel

theorem digit_known : ∀ digit < 16, hexValue (hexDigit digit) = some digit ∧
    hexDigit digit ≠ '&' ∧ hexDigit digit ≠ '=' := by
  decide +kernel

variable {byte : UInt8} {rest : List Char} {text : String} {char : Char}
  {pairs : List (String × String)}

theorem of_isPlain (plain : isPlain byte = true) :
    let char := Char.ofNat byte.toNat
    char ≠ '%' ∧ char ≠ '+' ∧ char ≠ '&' ∧ char ≠ '=' ∧ String.utf8EncodeChar char = [byte] := by
  have known := plain_known byte.toNat byte.toNat_lt
  rw [UInt8.ofNat_toNat] at known
  exact known plain

theorem decodeBytes_encodeByte :
    decodeBytes 0 (encodeByte byte ++ rest) = byte :: decodeBytes 0 rest := by
  simp only [encodeByte]
  split
  case isTrue isSpace =>
    rw [isSpace]
    rfl
  case isFalse =>
    split
    case isTrue plain =>
      rcases of_isPlain plain with ⟨notPercent, notPlus, -, -, isByte⟩
      simp only [List.singleton_append, decodeBytes, if_neg notPlus, if_neg notPercent, isByte]
    case isFalse =>
      have bound := byte.toNat_lt
      have high := (digit_known (byte.toNat / 16) (by omega)).1
      have low := (digit_known (byte.toNat % 16) (by omega)).1
      have isByte : UInt8.ofNat (16 * (byte.toNat / 16) + byte.toNat % 16) = byte := by
        rw [Nat.div_add_mod, UInt8.ofNat_toNat]
      have read : escaped (hexDigit (byte.toNat / 16) :: hexDigit (byte.toNat % 16) :: rest) =
          some byte := by
        simp only [escaped, high, low, bind, Option.bind_some, isByte]
      simp [decodeBytes, read]

theorem decodeBytes_flatMap (bytes : List UInt8) :
    decodeBytes 0 (bytes.flatMap encodeByte) = bytes := by
  induction bytes with
  | nil => rfl
  | cons byte bytes ih => rw [List.flatMap_cons, decodeBytes_encodeByte, ih]

theorem decode_encode (text : String) : decode (encode text) = some text := by
  rw [decode, encode, decodeBytes_flatMap, String.fromUTF8?]
  have isBytes : ByteArray.mk text.toByteArray.data.toList.toArray = text.toByteArray := by
    rw [Array.toArray_toList]
  simp only [isBytes, dif_pos text.isValidUTF8]
  rfl

/-- The marks between names and values are never part of one. -/
theorem ne_of_mem_encode (mem : char ∈ encode text) : char ≠ '&' ∧ char ≠ '=' := by
  rcases List.mem_flatMap.mp mem with ⟨byte, -, isChar⟩
  simp only [encodeByte] at isChar
  split at isChar
  case isTrue =>
    rw [List.mem_singleton.mp isChar]
    decide
  case isFalse =>
    split at isChar
    case isTrue plain =>
      rcases of_isPlain plain with ⟨-, -, notAmpersand, notEquals, -⟩
      rw [List.mem_singleton.mp isChar]
      exact ⟨notAmpersand, notEquals⟩
    case isFalse =>
      have bound := byte.toNat_lt
      have high := digit_known (byte.toNat / 16) (by omega)
      have low := digit_known (byte.toNat % 16) (by omega)
      simp only [List.mem_cons, List.not_mem_nil, or_false] at isChar
      rcases isChar with rfl | rfl | rfl
      · decide
      · exact high.2
      · exact low.2

theorem parsePair_serialized (pair : String × String) :
    parsePair (encode pair.1 ++ '=' :: encode pair.2) = some pair := by
  have name : (encode pair.1 ++ '=' :: encode pair.2).takeWhile (· != '=') = encode pair.1 := by
    rw [List.takeWhile_append_of_pos fun char mem => by simpa using (ne_of_mem_encode mem).2]
    simp
  have value : (encode pair.1 ++ '=' :: encode pair.2).dropWhile (· != '=') =
      '=' :: encode pair.2 := by
    rw [List.dropWhile_append_of_pos fun char mem => by simpa using (ne_of_mem_encode mem).2]
    simp
  simp only [parsePair, name, value, List.drop_one, List.tail_cons, decode_encode, bind,
    Option.bind_some]

/-- What has been written is read. -/
theorem parse_serialize (pairs : List (String × String)) :
    parse (serialize pairs) = some pairs := by
  by_cases none : pairs = []
  · rw [none]
    rfl
  · have pieces : (serialize pairs).splitOn '&' =
        pairs.map fun pair => encode pair.1 ++ '=' :: encode pair.2 := by
      apply List.splitOn_intercalate
      · intro piece mem inside
        rcases List.mem_map.mp mem with ⟨pair, -, rfl⟩
        rcases List.mem_append.mp inside with name | value
        · exact (ne_of_mem_encode name).1 rfl
        · rcases List.mem_cons.mp value with mark | value
          · exact absurd mark (by decide)
          · exact (ne_of_mem_encode value).1 rfl
      · simpa using none
    have nonempty : ∀ piece ∈ (pairs.map fun pair => encode pair.1 ++ '=' :: encode pair.2),
        (!piece.isEmpty) = true := by
      intro piece mem
      rcases List.mem_map.mp mem with ⟨pair, -, rfl⟩
      simp
    have each : (fun pair : String × String =>
        parsePair (encode pair.1 ++ '=' :: encode pair.2)) = fun pair => pure (id pair) :=
      funext parsePair_serialized
    rw [parse, pieces, List.filter_eq_self.mpr nonempty, List.mapM_map, Function.comp_def, each,
      List.mapM_pure, List.map_id]
    rfl

end FormUrlEncoded
