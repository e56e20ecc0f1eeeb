import Stencil.Form
import Stencil.Json.Reader
import Stencil.Proofs.Text.Letter

/-!
# Reading form encoding

How whoever is asked for an address reads its query string. Pairs that were written are read as they
were, whatever their names and values are (`decode?_encode`): what separates pairs, names and values
is never written for anything else, and what is written for a byte stands for that byte.
-/

namespace Stencil.Form

open Json.Reader (hexDigit?)

variable {b : UInt8} {c : Char} {cs : List Char} {bs : List UInt8}

/-! ## Reading -/

/-- The bytes that written characters stand for. A `%` without two digits behind it stands for
itself. -/
def decodeBytes : List Char → List UInt8
  | [] => []
  | '%' :: x :: y :: cs =>
    match hexDigit? x, hexDigit? y with
    | some m, some n => UInt8.ofNat (16 * m + n) :: decodeBytes cs
    | _, _ => String.utf8EncodeChar '%' ++ decodeBytes (x :: y :: cs)
  | '+' :: cs => String.utf8EncodeChar ' ' ++ decodeBytes cs
  | c :: cs => String.utf8EncodeChar c ++ decodeBytes cs

/-- The name or the value that is written, if its bytes are a text. -/
def decodeText? (cs : List Char) : Option String := String.fromUTF8? (decodeBytes cs).toByteArray

/-- The pair that is written. The first `=` ends the name; without any the value is empty. -/
def decodePair? (cs : List Char) : Option (String × String) := do
  let name ← decodeText? (cs.takeWhile (· ≠ '='))
  let value ← decodeText? ((cs.dropWhile (· ≠ '=')).drop 1)
  return (name, value)

/-- The pairs that are written. Where nothing stands between two `&` there is no pair. -/
def decode? (s : String) : Option (List (String × String)) :=
  ((s.toList.splitOn '&').filter (· ≠ [])).mapM decodePair?

/-! ## Bytes -/

theorem decodeBytes_cons (h : c ≠ '%') (h' : c ≠ '+') :
    decodeBytes (c :: cs) = String.utf8EncodeChar c ++ decodeBytes cs := by
  rw [decodeBytes]
  · exact fun _ _ _ hc => absurd hc h
  · exact h'

/-- A hexadecimal digit is read back. -/
theorem hexDigit?_toUpper_digitChar {n : Nat} (h : n < 16) :
    hexDigit? (Nat.digitChar n).toUpper = some n := by
  decide +revert

/-- The two digits are the halves of the byte. -/
theorem decodeBytes_percent :
    decodeBytes ('%' :: (Text.hexByte b).map Char.toUpper ++ cs) = b :: decodeBytes cs := by
  have hb := b.toNat_lt
  have hhigh := hexDigit?_toUpper_digitChar (Nat.div_lt_of_lt_mul (show b.toNat < 16 * 16 from hb))
  have hlow := hexDigit?_toUpper_digitChar (Nat.mod_lt b.toNat (show 0 < 16 by decide))
  have hsum : 16 * (b.toNat / 16) + b.toNat % 16 = b.toNat := Nat.div_add_mod _ _
  simp only [Text.hexByte, List.map_cons, List.map_nil, List.cons_append, List.nil_append,
    decodeBytes, hhigh, hlow, hsum, UInt8.ofNat_toNat]

/-- What stands for itself means nothing else. -/
theorem ne_of_isPlain (h : isPlain b = true) (hc : c ∈ ['%', '+', '&', '=']) :
    Char.ofUInt8 b ≠ c := by
  intro hb
  simp only [isPlain, hb] at h
  simp only [List.mem_cons, List.not_mem_nil, or_false] at hc
  rcases hc with rfl | rfl | rfl | rfl <;> exact absurd h (by decide)

/-- A byte that is left as it is is a character of one byte. -/
theorem utf8EncodeChar_of_isPlain (h : isPlain b = true) :
    String.utf8EncodeChar (Char.ofUInt8 b) = [b] := by
  have hlt : (Char.ofUInt8 b).toNat < 128 := by
    simp only [isPlain, Char.isAlphanum, Bool.or_eq_true, beq_iff_eq, Text.isAlpha_iff,
      Text.isDigit_iff] at h
    rcases h with ((((h | h) | h) | h) | h) | h
    · omega
    · omega
    all_goals
      rw [h]
      decide
  have hval : (Char.ofUInt8 b).val ≤ 127 := UInt32.le_iff_toNat_le.2 (Nat.le_of_lt_succ hlt)
  rw [String.utf8EncodeChar_eq_singleton (Char.utf8Size_eq_one_iff.2 hval)]
  exact congrArg ([·]) b.toUInt8_toUInt32

/-- A byte that is written is read back, whatever comes behind it. -/
theorem decodeBytes_encodeByte (b : UInt8) (cs : List Char) :
    decodeBytes (encodeByte b ++ cs) = b :: decodeBytes cs := by
  rw [encodeByte]
  split
  · next h =>
    rw [List.singleton_append, decodeBytes_cons (ne_of_isPlain h (by simp))
      (ne_of_isPlain h (by simp)), utf8EncodeChar_of_isPlain h, List.singleton_append]
  split
  · next h =>
    obtain rfl : b = 0x20 := by simpa using h
    rfl
  · exact decodeBytes_percent

/-- Bytes that are written one by one are read back. -/
theorem decodeBytes_flatMap (bs : List UInt8) : decodeBytes (bs.flatMap encodeByte) = bs := by
  induction bs with
  | nil => rfl
  | cons b bs ih => rw [List.flatMap_cons, decodeBytes_encodeByte, ih]

/-- What separates pairs, and what separates a name from its value, is not written for a byte. -/
theorem notMem_encodeByte (hc : c = '&' ∨ c = '=') (b : UInt8) : c ∉ encodeByte b := by
  have hnone : hexDigit? c = none := by rcases hc with rfl | rfl <;> rfl
  have hdigit : ∀ n < 16, c ≠ (Nat.digitChar n).toUpper := by
    rintro n hn rfl
    simp [hexDigit?_toUpper_digitChar hn] at hnone
  have hb := b.toNat_lt
  rw [encodeByte]
  split
  · next h =>
    rw [List.mem_singleton]
    exact (ne_of_isPlain h (by simp [hc])).symm
  split
  · rcases hc with rfl | rfl <;> simp
  · have hpercent : c ≠ '%' := by rcases hc with rfl | rfl <;> simp
    simp only [Text.hexByte, List.map_cons, List.map_nil, List.mem_cons, List.not_mem_nil,
      or_false, not_or]
    exact ⟨hpercent, hdigit _ (by omega), hdigit _ (by omega)⟩

/-! ## Texts -/

theorem toList_loop (bytes : ByteArray) (i : Nat) (bs : List UInt8) :
    ByteArray.toList.loop bytes i bs = bs.reverse ++ bytes.data.toList.drop i := by
  fun_induction ByteArray.toList.loop bytes i bs with
  | case1 i bs h ih =>
    have hi : i < bytes.data.toList.length := h
    have hget : bytes.get! i = bytes.data.toList[i] := getElem!_pos bytes.data i h
    rw [ih, List.drop_eq_getElem_cons hi, hget, List.reverse_cons, List.append_assoc,
      List.singleton_append]
  | case2 i bs h => rw [List.drop_eq_nil_of_le (Nat.le_of_not_lt h), List.append_nil]

/-- An array of bytes is the array of its list. -/
theorem toByteArray_toList (bytes : ByteArray) : bytes.toList.toByteArray = bytes := by
  have h : bytes.toList = bytes.data.toList := toList_loop bytes 0 []
  rw [ByteArray.ext_iff, List.data_toByteArray, h]

/-- None of the signs that separate pairs is left in a text that is written. -/
theorem notMem_encodeText (hc : c = '&' ∨ c = '=') (s : String) : c ∉ (encodeText s).toList := by
  rw [encodeText, String.toList_ofList, List.mem_flatMap]
  rintro ⟨b, -, hb⟩
  exact notMem_encodeByte hc b hb

/-- A text that is written is read back. -/
theorem decodeText?_encodeText (s : String) : decodeText? (encodeText s).toList = some s := by
  rw [encodeText, String.toList_ofList, decodeText?, decodeBytes_flatMap, toByteArray_toList]
  exact dif_pos s.isValidUTF8

/-! ## Pairs -/

/-- A pair as it is written. -/
def encodePair (pair : String × String) : String := encodeText pair.1 ++ "=" ++ encodeText pair.2

theorem toList_encodePair (pair : String × String) :
    (encodePair pair).toList = (encodeText pair.1).toList ++ '=' :: (encodeText pair.2).toList := by
  simp [encodePair]

/-- The sign between pairs does not stand in one of them. -/
theorem notMem_encodePair (pair : String × String) : '&' ∉ (encodePair pair).toList := by
  simp [toList_encodePair, notMem_encodeText]

/-- A pair that is written is read back. -/
theorem decodePair?_encodePair (pair : String × String) :
    decodePair? (encodePair pair).toList = some pair := by
  have hname : ∀ c ∈ (encodeText pair.1).toList, decide (c ≠ '=') = true := by
    intro c hc
    simpa using ne_of_mem_of_not_mem hc (notMem_encodeText (by simp) pair.1)
  rw [decodePair?, toList_encodePair, List.takeWhile_append_of_pos hname,
    List.dropWhile_append_of_pos hname, List.takeWhile_cons_of_neg (by simp),
    List.dropWhile_cons_of_neg (by simp), List.append_nil, List.drop_one, List.tail_cons,
    decodeText?_encodeText, decodeText?_encodeText]
  rfl

/-- Pairs that are written are read as they were, in their order and however often. -/
theorem decode?_encode (pairs : List (String × String)) : decode? (encode pairs) = some pairs := by
  cases pairs with
  | nil => rfl
  | cons pair pairs =>
    have hlist : (encode (pair :: pairs)).toList =
        ['&'].intercalate ((pair :: pairs).map fun pair => (encodePair pair).toList) := by
      rw [encode, String.toList_intercalate, List.map_map]
      rfl
    have hsplit : (encode (pair :: pairs)).toList.splitOn '&' =
        (pair :: pairs).map fun pair => (encodePair pair).toList := by
      rw [hlist, List.splitOn_intercalate '&' (fun cs hcs => ?_) (by simp)]
      obtain ⟨pair, -, rfl⟩ := List.mem_map.1 hcs
      exact notMem_encodePair pair
    have hfilter : ((pair :: pairs).map fun pair => (encodePair pair).toList).filter (· ≠ []) =
        (pair :: pairs).map fun pair => (encodePair pair).toList := by
      refine List.filter_eq_self.2 fun cs hcs => ?_
      obtain ⟨pair, -, rfl⟩ := List.mem_map.1 hcs
      simp [toList_encodePair]
    have hpair : decodePair? ∘ (fun pair => (encodePair pair).toList) = fun pair => pure pair :=
      funext decodePair?_encodePair
    rw [decode?, hsplit, hfilter, List.mapM_map, hpair, List.mapM_pure, List.map_id']
    rfl

end Stencil.Form
