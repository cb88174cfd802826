import RowTree.MySql.Wire
import RowTree.Value.Key

/-!
# Parameters that come back

A text is read from its own UTF-8 bytes. So a value that was sent with a statement is the same one
when a MySQL connection gives it back, except that a truth value has become a number.
-/

namespace RowTree

namespace Text

variable {value missing low high : Nat} {b : UInt8} {state : Utf8State}

theorem decodeFrom_first (h : firstByte b.toNat = ([], state)) (rest : List UInt8) :
    decodeFrom .between (b :: rest) = decodeFrom state rest := by
  rw [decodeFrom, nextByte, h]
  exact List.nil_append _

theorem decodeFrom_next (hLow : low ≤ b.toNat) (hHigh : b.toNat ≤ high) (rest : List UInt8) :
    decodeFrom (.inside value (missing + 2) low high) (b :: rest) =
      decodeFrom (.inside (value * 64 + (b.toNat - 0x80)) (missing + 1) 0x80 0xBF) rest := by
  have hMore : ¬missing + 2 ≤ 1 := by omega
  simp only [decodeFrom, nextByte, if_pos (And.intro hLow hHigh), if_neg hMore, List.nil_append]
  rfl

theorem decodeFrom_last (hLow : low ≤ b.toNat) (hHigh : b.toNat ≤ high) (rest : List UInt8) :
    decodeFrom (.inside value 1 low high) (b :: rest) =
      Char.ofNat (value * 64 + (b.toNat - 0x80)) :: decodeFrom .between rest := by
  simp only [decodeFrom, nextByte, if_pos (And.intro hLow hHigh), Nat.le_refl, if_true,
    List.singleton_append]

/-- The first byte of two. -/
theorem firstByte_two (n : Nat) (hLow : 0xC2 ≤ n) (hHigh : n < 0xE0) :
    firstByte n = ([], .inside (n - 0xC0) 1 0x80 0xBF) := by
  simp only [firstByte]
  rw [if_neg (by omega), if_neg (by omega), if_pos hHigh]

/-- The first byte of three. The bounds of the second byte leave out what two bytes can write, and
the surrogates. -/
theorem firstByte_three (n next : Nat) (hLow : 0xE0 ≤ n) (hHigh : n < 0xF0) (hNext : 0x80 ≤ next)
    (hNext' : next ≤ 0xBF) (hLong : n = 0xE0 → 0xA0 ≤ next) (hScalar : n = 0xED → next ≤ 0x9F) :
    ∃ low high, firstByte n = ([], .inside (n - 0xE0) 2 low high) ∧ low ≤ next ∧ next ≤ high := by
  simp only [firstByte]
  rw [if_neg (by omega), if_neg (by omega), if_neg (by omega)]
  split
  · rename_i h
    exact ⟨0xA0, 0xBF, by rw [h], hLong h, hNext'⟩
  · split
    · rename_i h
      exact ⟨0x80, 0x9F, by rw [h], hNext, hScalar h⟩
    · exact ⟨0x80, 0xBF, rfl, hNext, hNext'⟩

/-- The first byte of four. The bounds of the second byte leave out what three bytes can write, and
what is beyond all characters. -/
theorem firstByte_four (n next : Nat) (hLow : 0xF0 ≤ n) (hHigh : n ≤ 0xF4) (hNext : 0x80 ≤ next)
    (hNext' : next ≤ 0xBF) (hLong : n = 0xF0 → 0x90 ≤ next) (hScalar : n = 0xF4 → next ≤ 0x8F) :
    ∃ low high, firstByte n = ([], .inside (n - 0xF0) 3 low high) ∧ low ≤ next ∧ next ≤ high := by
  simp only [firstByte]
  rw [if_neg (by omega), if_neg (by omega), if_neg (by omega), if_neg (by omega),
    if_neg (by omega), if_neg (by omega)]
  split
  · rename_i h
    exact ⟨0x90, 0xBF, by rw [h], hLong h, hNext'⟩
  · split
    · exact ⟨0x80, 0xBF, rfl, hNext, hNext'⟩
    · have h : n = 0xF4 := by omega
      exact ⟨0x80, 0x8F, by rw [if_pos h, h], hNext, hScalar h⟩

variable {v : Nat} (rest : List UInt8)

theorem toNat_byte {n : Nat} (h : n < 256) : (UInt8.ofNat n).toNat = n :=
  UInt8.toNat_ofNat_of_lt' h

theorem toNat_tail (n : Nat) : (UInt8.ofNat (n % 64 + 128)).toNat = n % 64 + 128 :=
  toNat_byte (by omega)

theorem decodeFrom_one (h : v ≤ 0x7F) :
    decodeFrom .between (UInt8.ofNat v :: rest) = Char.ofNat v :: decodeFrom .between rest := by
  rw [decodeFrom, nextByte, firstByte, toNat_byte (by omega), if_pos (by omega)]
  exact List.singleton_append

theorem decodeFrom_two (hLow : 0x7F < v) (hHigh : v ≤ 0x7FF) :
    decodeFrom .between (UInt8.ofNat (v / 64 % 32 + 192) :: UInt8.ofNat (v % 64 + 128) :: rest) =
      Char.ofNat v :: decodeFrom .between rest := by
  have hFirst : (UInt8.ofNat (v / 64 % 32 + 192)).toNat = v / 64 % 32 + 192 :=
    toNat_byte (by omega)
  have hState := firstByte_two (v / 64 % 32 + 192) (by omega) (by omega)
  have hTail := toNat_tail v
  rw [decodeFrom_first (by rw [hFirst, hState]), decodeFrom_last (by omega) (by omega), hTail]
  have hValue : (v / 64 % 32 + 192 - 0xC0) * 64 + (v % 64 + 128 - 0x80) = v := by omega
  rw [hValue]

theorem decodeFrom_three (hLow : 0x7FF < v) (hHigh : v ≤ 0xFFFF)
    (hScalar : v < 0xD800 ∨ 0xDFFF < v) :
    decodeFrom .between (UInt8.ofNat (v / 4096 % 16 + 224) :: UInt8.ofNat (v / 64 % 64 + 128) ::
        UInt8.ofNat (v % 64 + 128) :: rest) =
      Char.ofNat v :: decodeFrom .between rest := by
  have hFirst : (UInt8.ofNat (v / 4096 % 16 + 224)).toNat = v / 4096 % 16 + 224 :=
    toNat_byte (by omega)
  obtain ⟨low, high, hState, hNext, hNext'⟩ := firstByte_three (v / 4096 % 16 + 224)
    (v / 64 % 64 + 128) (by omega) (by omega) (by omega) (by omega) (by omega) (by omega)
  have hTail := toNat_tail v
  have hTail' := toNat_tail (v / 64)
  rw [decodeFrom_first (by rw [hFirst, hState]), decodeFrom_next (by omega) (by omega),
    decodeFrom_last (by omega) (by omega), hTail, hTail']
  have hValue : ((v / 4096 % 16 + 224 - 0xE0) * 64 + (v / 64 % 64 + 128 - 0x80)) * 64 +
      (v % 64 + 128 - 0x80) = v := by omega
  rw [hValue]

theorem decodeFrom_four (hLow : 0xFFFF < v) (hHigh : v ≤ 0x10FFFF) :
    decodeFrom .between (UInt8.ofNat (v / 262144 % 8 + 240) ::
        UInt8.ofNat (v / 4096 % 64 + 128) :: UInt8.ofNat (v / 64 % 64 + 128) ::
        UInt8.ofNat (v % 64 + 128) :: rest) =
      Char.ofNat v :: decodeFrom .between rest := by
  have hFirst : (UInt8.ofNat (v / 262144 % 8 + 240)).toNat = v / 262144 % 8 + 240 :=
    toNat_byte (by omega)
  obtain ⟨low, high, hState, hNext, hNext'⟩ := firstByte_four (v / 262144 % 8 + 240)
    (v / 4096 % 64 + 128) (by omega) (by omega) (by omega) (by omega) (by omega) (by omega)
  have hTail := toNat_tail v
  have hTail' := toNat_tail (v / 64)
  have hTail'' := toNat_tail (v / 4096)
  rw [decodeFrom_first (by rw [hFirst, hState]), decodeFrom_next (by omega) (by omega),
    decodeFrom_next (by omega) (by omega), decodeFrom_last (by omega) (by omega), hTail, hTail',
    hTail'']
  have hValue : (((v / 262144 % 8 + 240 - 0xF0) * 64 + (v / 4096 % 64 + 128 - 0x80)) * 64 +
      (v / 64 % 64 + 128 - 0x80)) * 64 + (v % 64 + 128 - 0x80) = v := by omega
  rw [hValue]

/-- The bytes of a character are read as that character, whatever follows. -/
theorem decodeFrom_utf8EncodeChar (c : Char) :
    decodeFrom .between (String.utf8EncodeChar c ++ rest) = c :: decodeFrom .between rest := by
  have hScalar : c.val.toNat < 0xD800 ∨ 0xDFFF < c.val.toNat ∧ c.val.toNat < 0x110000 := c.valid
  have hChar : Char.ofNat c.val.toNat = c := Char.ofNat_toNat c
  simp only [String.utf8EncodeChar]
  split
  · rename_i hOne
    rw [List.cons_append, List.nil_append, decodeFrom_one rest hOne, hChar]
  · rename_i hOne
    split
    · rename_i hTwo
      rw [List.cons_append, List.cons_append, List.nil_append,
        decodeFrom_two rest (by omega) hTwo, hChar]
    · rename_i hTwo
      split
      · rename_i hThree
        rw [List.cons_append, List.cons_append, List.cons_append, List.nil_append,
          decodeFrom_three rest (by omega) hThree (by omega), hChar]
      · rename_i hThree
        rw [List.cons_append, List.cons_append, List.cons_append, List.cons_append,
          List.nil_append, decodeFrom_four rest (by omega) (by omega), hChar]

theorem ofUtf8_utf8 (text : String) : ofUtf8 (utf8 text) = text := by
  have hChars (cs : List Char) : decodeFrom .between (cs.flatMap String.utf8EncodeChar) = cs := by
    induction cs with
    | nil => rfl
    | cons c cs ih => rw [List.flatMap_cons, decodeFrom_utf8EncodeChar, ih]
  rw [ofUtf8, utf8, hChars, String.ofList_toList]

end Text

namespace MySql

/-- What a value that was sent is when it comes back: a truth value is one or zero, and a list the
text of its members. -/
def returned : Value → Value
  | .bool b => .int (if b then 1 else 0)
  | .list items => .string (Value.text (.list items))
  | v => v

theorem decode?_encode (v : Value) : decode? (encode v) = some (returned v) := by
  have hText (text : String) : decode? (.bytes (Text.utf8 text)) = some (.string text) := by
    rw [decode?, Text.ofUtf8_utf8]
  cases v with
  | string s => exact hText s
  | list items => exact hText _
  | _ => rfl

theorem truth_returned {v : Value} (hScalar : v.isList = false) :
    (returned v).truth = v.truth := by
  cases v with
  | bool b => cases b <;> rfl
  | list items => cases hScalar
  | _ => rfl

theorem returned_eq_self {v : Value} (hScalar : v.isList = false) (hApart : v.bool? = none) :
    returned v = v := by
  cases v with
  | bool b => cases hApart
  | list items => cases hScalar
  | _ => rfl

/-- A scalar comes back as it was sent, with its key, unless it is a truth value, which comes back
as one or zero. In either case it is as true as before. -/
theorem parameters_come_back {v : Value} (hScalar : v.isList = false) :
    ∃ back, decode? (encode v) = some back ∧
      (v.bool? = none → back = v ∧ back.key? = v.key?) ∧
      (∀ b, v.bool? = some b → back = .int (if b then 1 else 0)) ∧
      back.truth = v.truth := by
  refine ⟨_, decode?_encode v, fun hApart => ?_, fun b hBool => ?_, truth_returned hScalar⟩
  · rw [returned_eq_self hScalar hApart]
    exact ⟨rfl, rfl⟩
  · cases v with
    | bool b' =>
      cases hBool
      rfl
    | _ => cases hBool

/-- A text with characters of one to four bytes. -/
theorem harbour_comes_back :
    (Value.string "Cóbh ⚓ 🚢").isList = false ∧ (Value.string "Cóbh ⚓ 🚢").bool? = none ∧
    decode? (encode (.string "Cóbh ⚓ 🚢")) = some (.string "Cóbh ⚓ 🚢") ∧
    (Value.bool true).isList = false ∧ decode? (encode (.bool true)) = some (.int 1) := by
  obtain ⟨text, hText, hSame, -, -⟩ := parameters_come_back (v := .string "Cóbh ⚓ 🚢") rfl
  obtain ⟨flag, hFlag, -, hOne, -⟩ := parameters_come_back (v := .bool true) rfl
  obtain ⟨rfl, -⟩ := hSame rfl
  obtain rfl := hOne true rfl
  exact ⟨rfl, rfl, hText, rfl, hFlag⟩

end MySql

end RowTree
