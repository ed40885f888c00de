import Mathlib.Data.List.Forall2
import MyBuild.Shared.Values

/-!
# Identifiers as they are sent

An identifier comes from the URL, the body or a socket message as text.  The check lets
through any hexadecimal digits in the right places, in either case; the database then reads
the value.  What the check lets through is a `UuidText`: texts that differ in the case of
letters only read to one value, and the text the database writes is one of them.
-/

namespace MyBuild

def isHexDigit (char : Char) : Bool :=
  char.isDigit || ('a' ≤ char && char ≤ 'f') || ('A' ≤ char && char ≤ 'F')

/-- Five groups of hexadecimal digits with hyphens between them, version and variant free. -/
def isUuid (value : String) : Bool :=
  value.toList.length == 36 && value.toList.zipIdx.all fun (char, index) =>
    if index ∈ [8, 13, 18, 23] then char == '-' else isHexDigit char

variable {char : Char}

theorem length_of_isUuid {value : String} (valid : isUuid value = true) :
    value.toList.length = 36 := by
  simp only [isUuid, Bool.and_eq_true, beq_iff_eq] at valid
  exact valid.1

theorem hexDigit_or_hyphen {value : String} (valid : isUuid value = true)
    (mem : char ∈ value.toList) : isHexDigit char = true ∨ char = '-' := by
  rcases List.mem_iff_getElem.mp mem with ⟨index, bound, rfl⟩
  simp only [isUuid, Bool.and_eq_true, List.all_eq_true] at valid
  have allowed := valid.2 (value.toList[index], index) (by simp [List.mk_mem_zipIdx_iff_getElem?])
  split at allowed
  · exact Or.inr (by simpa using allowed)
  · exact Or.inl allowed

theorem slash_not_mem {value : String} (valid : isUuid value = true) : '/' ∉ value.toList := by
  intro mem
  rcases hexDigit_or_hyphen valid mem with isDigit | isHyphen
  · simp [isHexDigit] at isDigit
  · simp at isHyphen

/-- The characters of an identifier. -/
def uuidChars : List Char := "-0123456789abcdefABCDEF".toList

theorem mem_uuidChars (allowed : isHexDigit char = true ∨ char = '-') : char ∈ uuidChars := by
  have bound : char.toNat < 128 := by
    rcases allowed with isDigit | rfl
    · simp only [isHexDigit, Char.isDigit, Char.le_def, UInt32.le_iff_toNat_le, Bool.or_eq_true,
        Bool.and_eq_true, decide_eq_true_eq] at isDigit
      simp at isDigit
      omega
    · decide
  have known : ∀ code < 128, isHexDigit (Char.ofNat code) = true ∨ Char.ofNat code = '-' →
      Char.ofNat code ∈ uuidChars := by
    decide
  have ofCode := known char.toNat bound
  rw [Char.ofNat_toNat] at ofCode
  exact ofCode allowed

/-- A hexadecimal digit as the database reads it, in either case. -/
def hexValue (char : Char) : ℕ :=
  if char.isDigit then char.toNat - '0'.toNat else char.toLower.toNat - 'a'.toNat + 10

def readHex (digits : List Char) : ℕ :=
  digits.foldl (fun number digit => 16 * number + hexValue digit) 0

def otherCase (char : Char) : Char :=
  if char.isLower then char.toUpper else char.toLower

theorem of_toLower_eq {letter other : Char} (mem : letter ∈ uuidChars)
    (otherMem : other ∈ uuidChars) (same : letter.toLower = other.toLower) :
    hexValue letter = hexValue other ∧
      (letter != '-') = (other != '-') ∧ (letter.isAlpha = false → other = letter) := by
  have all : (uuidChars.all fun letter => uuidChars.all fun other =>
      letter.toLower != other.toLower || (hexValue letter == hexValue other &&
        (letter != '-') == (other != '-') && (letter.isAlpha || other == letter))) = true := by
    decide
  have known := List.all_eq_true.mp (List.all_eq_true.mp all letter mem) other otherMem
  simpa [same, and_assoc, or_iff_not_imp_left] using known

theorem otherCase_facts {letter : Char} (mem : letter ∈ uuidChars) :
    letter.toLower = (otherCase letter).toLower ∧
      isHexDigit (otherCase letter) = isHexDigit letter ∧
      (otherCase letter == '-') = (letter == '-') ∧
      (letter.isAlpha = true → otherCase letter ≠ letter) := by
  have all : (uuidChars.all fun letter => letter.toLower == (otherCase letter).toLower &&
      isHexDigit (otherCase letter) == isHexDigit letter &&
      (otherCase letter == '-') == (letter == '-') &&
      (!letter.isAlpha || otherCase letter != letter)) = true := by
    decide
  have known := List.all_eq_true.mp all letter mem
  simpa only [Bool.and_eq_true, beq_iff_eq, and_assoc, Bool.or_eq_true, Bool.not_eq_true',
    bne_iff_ne, or_iff_not_imp_left, Bool.not_eq_false] using known

/-- A text the check lets through. -/
structure UuidText where
  text : String
  isUuid : isUuid text = true

namespace UuidText

/-- The value the database compares. -/
def value (id : UuidText) : Uuid :=
  ⟨BitVec.ofNat 128 (readHex (id.text.toList.filter (· != '-')))⟩

/-- Letters are replaced by their other case, and nothing else. -/
def SameButCase (id other : UuidText) : Prop :=
  List.Forall₂ (fun letter other => letter.toLower = other.toLower) id.text.toList
    other.text.toList

def hasLetters (id : UuidText) : Bool :=
  id.text.toList.any Char.isAlpha

variable {id other : UuidText}

theorem mem_chars (mem : char ∈ id.text.toList) : char ∈ uuidChars :=
  mem_uuidChars (hexDigit_or_hyphen id.isUuid mem)

theorem ext_toList (same : id.text.toList = other.text.toList) : id = other := by
  cases id
  cases other
  simpa [String.toList_inj] using same

theorem readHex_congr {letters others : List Char} (number : ℕ)
    (same : List.Forall₂ (fun letter other => letter.toLower = other.toLower) letters others)
    (known : ∀ letter ∈ letters, letter ∈ uuidChars)
    (otherKnown : ∀ letter ∈ others, letter ∈ uuidChars) :
    (letters.filter (· != '-')).foldl (fun number digit => 16 * number + hexValue digit) number =
      (others.filter (· != '-')).foldl (fun number digit => 16 * number + hexValue digit)
        number := by
  induction same generalizing number with
  | nil => rfl
  | cons sameLetter _ ih =>
      rw [List.forall_mem_cons] at known otherKnown
      rcases of_toLower_eq known.1 otherKnown.1 sameLetter with ⟨sameValue, sameHyphen, _⟩
      simp only [List.filter_cons, sameHyphen]
      split
      · simp only [List.foldl_cons, sameValue]
        exact ih _ known.2 otherKnown.2
      · exact ih _ known.2 otherKnown.2

theorem SameButCase.refl (id : UuidText) : id.SameButCase id :=
  List.forall₂_same.mpr fun _ _ => rfl

/-- The database compares values: the case of letters does not show. -/
theorem SameButCase.value_eq (same : id.SameButCase other) : other.value = id.value := by
  have read := readHex_congr 0 same (fun _ => mem_chars) (fun _ => mem_chars)
  simp only [value, readHex, read]

theorem SameButCase.eq_of_no_letters (same : id.SameButCase other)
    (none : id.hasLetters = false) : other = id := by
  have chars : ∀ letters others : List Char,
      List.Forall₂ (fun letter other => letter.toLower = other.toLower) letters others →
      (∀ letter ∈ letters, letter ∈ uuidChars) → (∀ letter ∈ others, letter ∈ uuidChars) →
      (∀ letter ∈ letters, letter.isAlpha = false) → others = letters := by
    intro letters others same known otherKnown none
    induction same with
    | nil => rfl
    | cons sameLetter _ ih =>
        rw [List.forall_mem_cons] at known otherKnown none
        rw [(of_toLower_eq known.1 otherKnown.1 sameLetter).2.2 none.1,
          ih known.2 otherKnown.2 none.2]
  apply ext_toList
  refine chars _ _ same (fun _ => mem_chars) (fun _ => mem_chars) ?_
  simpa [hasLetters] using none

theorem isUuid_otherCase (id : UuidText) :
    MyBuild.isUuid (String.ofList (id.text.toList.map otherCase)) = true := by
  have valid := id.isUuid
  simp only [MyBuild.isUuid, Bool.and_eq_true, List.all_eq_true, String.toList_ofList,
    List.length_map] at valid ⊢
  refine ⟨valid.1, ?_⟩
  rintro ⟨letter, index⟩ mem
  rw [List.zipIdx_map, List.mem_map] at mem
  rcases mem with ⟨⟨old, place⟩, oldMem, same⟩
  simp only [Prod.map, id_eq, Prod.mk.injEq] at same
  rcases same with ⟨rfl, rfl⟩
  have known := otherCase_facts (mem_chars (List.fst_mem_of_mem_zipIdx oldMem))
  have allowed := valid.2 (old, place) oldMem
  simp only [known.2.1, known.2.2.1]
  exact allowed

/-- Every letter in its other case. -/
def swapped (id : UuidText) : UuidText :=
  ⟨String.ofList (id.text.toList.map otherCase), id.isUuid_otherCase⟩

theorem sameButCase_swapped (id : UuidText) : id.SameButCase id.swapped := by
  simp only [SameButCase, swapped, String.toList_ofList, List.forall₂_map_right_iff]
  exact List.forall₂_same.mpr fun letter mem => (otherCase_facts (mem_chars mem)).1

theorem swapped_ne (letters : id.hasLetters = true) : id.swapped.text ≠ id.text := by
  intro same
  rcases List.any_eq_true.mp letters with ⟨letter, mem, isLetter⟩
  have chars := congrArg String.toList same
  simp only [swapped, String.toList_ofList] at chars
  have fixed := List.map_inj_left.mp (chars.trans (List.map_id _).symm) letter mem
  exact (otherCase_facts (mem_chars mem)).2.2.2 isLetter fixed

theorem isHexDigit_digitChar {digit : ℕ} (bound : digit < 16) :
    isHexDigit (Nat.digitChar digit) = true ∧ hexValue (Nat.digitChar digit) = digit := by
  interval_cases digit <;> exact ⟨rfl, rfl⟩

theorem isUuid_toText (id : Uuid) : MyBuild.isUuid id.toText = true := by
  have digit : ∀ number, isHexDigit (Nat.digitChar (number % 16)) = true := fun number =>
    (isHexDigit_digitChar (Nat.mod_lt _ (by omega))).1
  simp [MyBuild.isUuid, Uuid.toText, Uuid.group, List.range_succ, List.zipIdx, digit]

theorem readHex_digits {number count : ℕ} (bound : number < 16 ^ 32) (places : count ≤ 32) :
    readHex ((List.range count).map fun index =>
      Nat.digitChar (number / 16 ^ (31 - index) % 16)) = number / 16 ^ (32 - count) := by
  induction count with
  | zero => exact (Nat.div_eq_of_lt bound).symm
  | succ count ih =>
      have digit : number / 16 ^ (31 - count) % 16 < 16 := Nat.mod_lt _ (by omega)
      have shorter := ih (by omega)
      rw [readHex] at shorter ⊢
      rw [List.range_succ, List.map_append, List.foldl_append, shorter, List.map_singleton,
        List.foldl_cons, List.foldl_nil, (isHexDigit_digitChar digit).2,
        show 32 - count = 31 - count + 1 by omega, show 32 - (count + 1) = 31 - count by omega,
        Nat.pow_succ, ← Nat.div_div_eq_div_mul]
      omega

/-- The text the database writes. -/
def ofUuid (id : Uuid) : UuidText :=
  ⟨id.toText, isUuid_toText id⟩

theorem value_ofUuid (id : Uuid) : (ofUuid id).value = id := by
  have digits : id.toText.toList.filter (· != '-') = (List.range 32).map fun index =>
      Nat.digitChar (id.value.toNat / 16 ^ (31 - index) % 16) := by
    have digit : ∀ number, (Nat.digitChar (number % 16) != '-') = true := by
      intro number
      have bound : number % 16 < 16 := Nat.mod_lt _ (by omega)
      generalize number % 16 = digit at bound
      interval_cases digit <;> rfl
    simp [Uuid.toText, Uuid.group, List.range_succ, digit]
  have bound : id.value.toNat < 16 ^ 32 := by
    have isLt := id.value.isLt
    omega
  simp only [value, ofUuid, digits, readHex_digits bound (le_refl 32)]
  simp

end UuidText

end MyBuild
