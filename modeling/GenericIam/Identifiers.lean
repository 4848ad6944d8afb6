import GenericIam.Database

/-! Identifiers as the database compares them and as requests write them. -/

namespace GenericIam.Identifiers
open Database

/-- A written identifier: the `uuid` that the database reads out of it, how a `uuid`
is written when it comes out of the database, and the letters of it. -/
class Identifier (Id : Type) where
  value : Id → Uuid
  canonical : Uuid → Id
  text : Id → String
  value_canonical : ∀ id, value (canonical id) = id

export Identifier (value canonical text value_canonical)

attribute [simp] value_canonical

def isHexDigit (letter : Char) : Bool :=
  letter.isDigit || ('a' ≤ letter && letter ≤ 'f') || ('A' ≤ letter && letter ≤ 'F')

/-- Eight, four, four, four and twelve hexadecimal digits of either case; every
spelling that `IsUUID` and `ParseUUIDPipe` let through has this shape. -/
def isUuid (text : String) : Bool :=
  text.toList.length == 36 && text.toList.zipIdx.all fun (letter, index) =>
    if index ∈ [8, 13, 18, 23] then letter == '-' else isHexDigit letter

structure UuidText where
  text : String
  wellFormed : isUuid text = true

instance : DecidableEq UuidText := fun first second =>
  decidable_of_iff (first.text = second.text)
    ⟨fun same => by cases first; cases second; cases same; rfl, congrArg _⟩

def hexValue (letter : Char) : Nat :=
  if letter.isDigit then letter.toNat - '0'.toNat
  else if 'a' ≤ letter then letter.toNat - 'a'.toNat + 10
  else letter.toNat - 'A'.toNat + 10

/-- What `::uuid` makes of the text; the case of a digit is lost. -/
def UuidText.toUuid (id : UuidText) : Uuid :=
  (id.text.toList.filter fun letter => letter != '-').foldl
    (fun total letter => total * 16 + BitVec.ofNat 128 (hexValue letter)) 0

theorem UuidText.eq_of_text_eq {first second : UuidText} (same : first.text = second.text) :
    first = second := by
  cases first
  cases second
  cases same
  rfl

theorem UuidText.letters (id : UuidText) {letter : Char} (member : letter ∈ id.text.toList) :
    letter = '-' ∨ isHexDigit letter = true := by
  have checked := id.wellFormed
  simp only [isUuid, Bool.and_eq_true, List.all_eq_true] at checked
  obtain ⟨index, bound, rfl⟩ := List.getElem_of_mem member
  have here := checked.2 (id.text.toList[index], index) (by
    rw [List.mem_zipIdx_iff_getElem?]
    simp)
  by_cases hyphen : index ∈ [8, 13, 18, 23]
  · simp only [hyphen, if_true, beq_iff_eq] at here
    exact .inl here
  · simp only [hyphen, if_false] at here
    exact .inr here

theorem UuidText.not_mem (id : UuidText) {letter : Char} (other : letter ≠ '-')
    (notHex : isHexDigit letter = false) : letter ∉ id.text.toList := by
  intro member
  rcases id.letters member with hyphen | hex
  · exact other hyphen
  · rw [notHex] at hex
    cases hex

theorem UuidText.colon_free (id : UuidText) : ':' ∉ id.text.toList := id.not_mem (by decide) (by decide)

def hexDigit (digit : Nat) : Char :=
  if digit < 10 then Char.ofNat (48 + digit) else Char.ofNat (87 + digit)

theorem isHexDigit_hexDigit {digit : Nat} (small : digit < 16) :
    isHexDigit (hexDigit digit) = true := by
  have cases : ∀ n < 16, isHexDigit (hexDigit n) = true := by decide
  exact cases digit small

def digitAt (id : Uuid) (index : Nat) : Char := hexDigit ((id >>> (4 * index)).toNat % 16)

theorem isHexDigit_digitAt (id : Uuid) (index : Nat) : isHexDigit (digitAt id index) = true :=
  isHexDigit_hexDigit (Nat.mod_lt _ (by decide))

def digits (id : Uuid) (indices : List Nat) : List Char := indices.map (digitAt id)

def printUuid (id : Uuid) : String :=
  String.ofList (digits id [31, 30, 29, 28, 27, 26, 25, 24] ++ '-' ::
  (digits id [23, 22, 21, 20] ++ '-' :: (digits id [19, 18, 17, 16] ++ '-' ::
    (digits id [15, 14, 13, 12] ++ '-' :: digits id [11, 10, 9, 8, 7, 6, 5, 4, 3, 2, 1, 0]))))

theorem isUuid_printUuid (id : Uuid) : isUuid (printUuid id) = true := by
  simp [isUuid, printUuid, digits, List.zipIdx, isHexDigit_digitAt]

theorem hexValue_digitAt (id : Uuid) (index : Nat) :
    hexValue (digitAt id index) = (id >>> (4 * index)).toNat % 16 := by
  have values : ∀ digit < 16, hexValue (hexDigit digit) = digit := by decide
  exact values _ (Nat.mod_lt _ (by decide))

/-- Appending a digit to what stands above it. -/
theorem shift_digit (id : Uuid) (index : Nat) :
    (id >>> (4 * (index + 1))) * 16 + BitVec.ofNat 128 (hexValue (digitAt id index)) =
      id >>> (4 * index) := by
  rw [hexValue_digitAt]
  apply BitVec.eq_of_toNat_eq
  have split : id.toNat / 2 ^ (4 * (index + 1)) = id.toNat / 2 ^ (4 * index) / 16 := by
    rw [Nat.div_div_eq_div_mul]
    congr 1
    rw [Nat.mul_add, Nat.pow_add]
  have bound : id.toNat / 2 ^ (4 * index) < 2 ^ 128 := Nat.lt_of_le_of_lt (Nat.div_le_self _ _) id.isLt
  simp only [BitVec.toNat_add, BitVec.toNat_mul, BitVec.toNat_ushiftRight, BitVec.toNat_ofNat,
    Nat.shiftRight_eq_div_pow, split]
  have sixteen : (16 : BitVec 128).toNat = 16 := rfl
  rw [sixteen]
  omega

/-- Reading digits from the top down to the given index, all above already read. -/
theorem read_digits (id : Uuid) (count : Nat) :
    (digits id (List.range count).reverse).foldl
      (fun total letter => total * 16 + BitVec.ofNat 128 (hexValue letter))
        (id >>> (4 * count)) = id := by
  induction count with
  | zero => simp [digits]
  | succ count ih =>
    have step := shift_digit id count
    simp only [digits, List.range_succ, List.reverse_append, List.reverse_singleton,
      List.singleton_append,
      List.map_cons, List.foldl_cons, step]
    exact ih

theorem digitAt_ne_hyphen (id : Uuid) (index : Nat) : digitAt id index ≠ '-' := by
  intro same
  have hex := isHexDigit_digitAt id index
  rw [same] at hex
  revert hex
  decide

theorem toUuid_printUuid (id : Uuid) : UuidText.toUuid ⟨printUuid id, isUuid_printUuid id⟩ = id := by
  have kept : ∀ indices,
      (digits id indices).filter (fun letter => letter != '-') = digits id indices := by
    intro indices
    rw [List.filter_eq_self]
    intro letter member
    obtain ⟨index, _, rfl⟩ := List.mem_map.mp member
    simpa using digitAt_ne_hyphen id index
  have letters : (printUuid id).toList.filter (fun letter => letter != '-') =
      digits id (List.range 32).reverse := by
    simp only [printUuid, String.toList_ofList, List.filter_append, List.filter_cons, kept]
    rfl
  have above : id >>> (4 * 32) = 0 := by
    apply BitVec.eq_of_toNat_eq
    rw [BitVec.toNat_ushiftRight, Nat.shiftRight_eq_div_pow]
    exact Nat.div_eq_of_lt id.isLt
  have whole := read_digits id 32
  rw [above] at whole
  rw [UuidText.toUuid, letters]
  exact whole

instance : Identifier Uuid := ⟨id, id, printUuid, fun _ => rfl⟩

instance : Identifier UuidText :=
  ⟨UuidText.toUuid, fun id => ⟨printUuid id, isUuid_printUuid id⟩, UuidText.text, toUuid_printUuid⟩

end GenericIam.Identifiers
