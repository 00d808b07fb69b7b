import Mathlib.Data.Nat.Notation
import Newsstand.Text.Utf8

/-!
# Reading what was written as octets

The lossy reading has to take any octets.  Of those that a text was written as
it loses nothing: each character is taken off the front as it was put there,
whatever octets come behind it.
-/

namespace Newsstand.Text.Utf8

/-! ## The octets of a text -/

/-- The octets of an array are listed from a place on. -/
theorem toList_loop_eq (bytes : ByteArray) (i : ℕ) (done : List UInt8) :
    ByteArray.toList.loop bytes i done =
      done.reverse ++ bytes.data.toList.drop i := by
  fun_induction ByteArray.toList.loop bytes i done with
  | case1 i done hlt ih =>
      have hdata : i < bytes.data.toList.length := by simpa using hlt
      have hget : bytes.get! i = bytes.data.toList[i] := by
        rw [Array.getElem_toList]
        exact getElem!_pos bytes.data i (by simpa using hlt)
      rw [ih, hget, List.reverse_cons, List.append_assoc, List.singleton_append,
        ← List.drop_eq_getElem_cons hdata]
  | case2 i done hge =>
      have hend : bytes.data.toList.length ≤ i := by simpa using hge
      rw [List.drop_eq_nil_of_le hend, List.append_nil]

theorem encode_eq_flatMap (s : String) :
    encode s = s.toList.flatMap String.utf8EncodeChar := by
  have hlist (bytes : ByteArray) : bytes.toList = bytes.data.toList := by
    rw [ByteArray.toList, toList_loop_eq]
    rfl
  have hoctets : s.toByteArray = s.toList.utf8Encode := by
    rw [← String.toByteArray_ofList, String.ofList_toList]
  rw [encode, String.toUTF8, hlist, hoctets, List.utf8Encode]
  simp

/-! ## One character -/

/-- What the first octet of a character of several octets says, by its number. -/
theorem lead?_ofNat {n : ℕ} (hlow : 0xC2 ≤ n) (hhigh : n < 0xF5) :
    lead? (UInt8.ofNat n) =
      if n < 0xE0 then some ⟨1, n - 0xC0, 0x80, 0xBF⟩
      else if n < 0xF0 then
        some ⟨2, n - 0xE0, if n = 0xE0 then 0xA0 else 0x80,
          if n = 0xED then 0x9F else 0xBF⟩
      else
        some ⟨3, n - 0xF0, if n = 0xF0 then 0x90 else 0x80,
          if n = 0xF4 then 0x8F else 0xBF⟩ := by
  have hn : (UInt8.ofNat n).toNat = n :=
    UInt8.toNat_ofNat_of_lt' (Nat.lt_trans hhigh (by decide))
  have hle : ¬n < 0xC2 := Nat.not_lt.mpr hlow
  simp only [lead?, UInt8.lt_iff_toNat_lt, ← UInt8.toNat_inj, hn, UInt8.reduceToNat,
    if_neg hle, if_pos hhigh]

/-- An octet in its range goes on with a character. -/
theorem readRest_ofNat {low high : UInt8} {n : ℕ} (hlow : low.toNat ≤ n)
    (hhigh : n ≤ high.toNat) (count code : ℕ) (rest : List UInt8) :
    readRest (count + 1) low high code (UInt8.ofNat n :: rest) =
      readRest count 0x80 0xBF (code * 64 + (n - 0x80)) rest := by
  have hn : (UInt8.ofNat n).toNat = n :=
    UInt8.toNat_ofNat_of_lt' (Nat.lt_of_le_of_lt hhigh high.toNat_lt)
  have hrange : low ≤ UInt8.ofNat n ∧ UInt8.ofNat n ≤ high := by
    rw [UInt8.le_iff_toNat_le, UInt8.le_iff_toNat_le, hn]
    exact ⟨hlow, hhigh⟩
  rw [readRest, if_pos hrange, hn]

theorem not_ofNat_lt {n : ℕ} (hlow : 0x80 ≤ n) (hhigh : n < 256) :
    ¬UInt8.ofNat n < 0x80 := by
  rw [UInt8.lt_iff_toNat_lt, UInt8.toNat_ofNat_of_lt' hhigh]
  exact Nat.not_lt.mpr hlow

theorem readScalar_one {v : ℕ} (hhigh : v ≤ 0x7F) (rest : List UInt8) :
    readScalar (UInt8.ofNat v) rest = (some (Char.ofNat v), rest) := by
  have hv : (UInt8.ofNat v).toNat = v :=
    UInt8.toNat_ofNat_of_lt' (Nat.lt_of_le_of_lt hhigh (by decide))
  have hlt : UInt8.ofNat v < 0x80 := by
    rw [UInt8.lt_iff_toNat_lt, hv]
    exact Nat.lt_succ_of_le hhigh
  rw [readScalar, if_pos hlt, hv]

theorem readScalar_two {v : ℕ} (hlow : 0x7F < v) (hhigh : v ≤ 0x7FF)
    (rest : List UInt8) :
    readScalar (UInt8.ofNat (v / 64 % 32 + 192))
        (UInt8.ofNat (v % 64 + 128) :: rest) = (some (Char.ofNat v), rest) := by
  have hlead : v / 64 % 32 + 192 < 0xE0 := by omega
  have hcode :
      (v / 64 % 32 + 192 - 0xC0) * 64 + (v % 64 + 128 - 0x80) = v := by omega
  rw [readScalar, if_neg (not_ofNat_lt (by omega) (by omega)),
    lead?_ofNat (by omega) (by omega), if_pos hlead]
  simp only
  rw [readRest_ofNat (by simp) (by simp; omega), readRest, hcode]

theorem readScalar_three {v : ℕ} (hlow : 0x7FF < v) (hhigh : v ≤ 0xFFFF)
    (hvalid : v < 0xD800 ∨ 0xDFFF < v) (rest : List UInt8) :
    readScalar (UInt8.ofNat (v / 4096 % 16 + 224))
        (UInt8.ofNat (v / 64 % 64 + 128) :: UInt8.ofNat (v % 64 + 128) :: rest) =
      (some (Char.ofNat v), rest) := by
  have hlead : ¬v / 4096 % 16 + 224 < 0xE0 := by omega
  have hlead' : v / 4096 % 16 + 224 < 0xF0 := by omega
  have hcode :
      ((v / 4096 % 16 + 224 - 0xE0) * 64 + (v / 64 % 64 + 128 - 0x80)) * 64 +
        (v % 64 + 128 - 0x80) = v := by omega
  rw [readScalar, if_neg (not_ofNat_lt (by omega) (by omega)),
    lead?_ofNat (by omega) (by omega), if_neg hlead, if_pos hlead']
  simp only
  -- The second octet is bounded more narrowly behind some first ones.
  rw [readRest_ofNat (by split <;> simp; omega) (by split <;> simp <;> omega),
    readRest_ofNat (by simp) (by simp; omega), readRest, hcode]

theorem readScalar_four {v : ℕ} (hlow : 0xFFFF < v) (hhigh : v < 0x110000)
    (rest : List UInt8) :
    readScalar (UInt8.ofNat (v / 262144 % 8 + 240))
        (UInt8.ofNat (v / 4096 % 64 + 128) :: UInt8.ofNat (v / 64 % 64 + 128) ::
          UInt8.ofNat (v % 64 + 128) :: rest) = (some (Char.ofNat v), rest) := by
  have hlead : ¬v / 262144 % 8 + 240 < 0xE0 := by omega
  have hlead' : ¬v / 262144 % 8 + 240 < 0xF0 := by omega
  have hcode :
      (((v / 262144 % 8 + 240 - 0xF0) * 64 + (v / 4096 % 64 + 128 - 0x80)) * 64 +
        (v / 64 % 64 + 128 - 0x80)) * 64 + (v % 64 + 128 - 0x80) = v := by omega
  rw [readScalar, if_neg (not_ofNat_lt (by omega) (by omega)),
    lead?_ofNat (by omega) (by omega), if_neg hlead, if_neg hlead']
  simp only
  rw [readRest_ofNat (by split <;> simp; omega) (by split <;> simp <;> omega),
    readRest_ofNat (by simp) (by simp; omega),
    readRest_ofNat (by simp) (by simp; omega), readRest, hcode]

/-- A character that was written is read again, whatever octets follow. -/
theorem readScalar_utf8EncodeChar (c : Char) (rest : List UInt8) :
    ∃ b tail, String.utf8EncodeChar c = b :: tail ∧
      readScalar b (tail ++ rest) = (some c, rest) := by
  have hvalid : c.toNat < 0xD800 ∨ 0xDFFF < c.toNat ∧ c.toNat < 0x110000 :=
    c.valid
  have hval : c.val.toNat = c.toNat := rfl
  have hread : (some c, rest) = (some (Char.ofNat c.toNat), rest) := by
    rw [Char.ofNat_toNat]
  rw [String.utf8EncodeChar, hval, hread]
  split
  next hone => exact ⟨_, [], rfl, readScalar_one hone rest⟩
  next hone =>
      split
      next htwo => exact ⟨_, [_], rfl, readScalar_two (by omega) htwo rest⟩
      next htwo =>
          split
          next hthree =>
              exact ⟨_, [_, _], rfl,
                readScalar_three (by omega) hthree (by omega) rest⟩
          next hthree =>
              exact ⟨_, [_, _, _], rfl,
                readScalar_four (by omega) (by omega) rest⟩

/-! ## All characters -/

theorem scalarsFrom_encode (done : List (Option Char)) (cs : List Char)
    (rest : List UInt8) :
    scalarsFrom done (cs.flatMap String.utf8EncodeChar ++ rest) =
      scalarsFrom ((cs.map some).reverse ++ done) rest := by
  induction cs generalizing done with
  | nil => rfl
  | cons c cs ih =>
      obtain ⟨b, tail, hoctets, hread⟩ := readScalar_utf8EncodeChar c
        (cs.flatMap String.utf8EncodeChar ++ rest)
      rw [List.flatMap_cons, hoctets, List.append_assoc, List.cons_append,
        scalarsFrom, hread, ih]
      simp

/-- A text is read as it was written. -/
theorem decodeLossy_encode (s : String) : decodeLossy (encode s) = s := by
  have hscalars : scalars (encode s) = s.toList.map some := by
    have hread := scalarsFrom_encode [] s.toList []
    rw [List.append_nil, List.append_nil] at hread
    rw [scalars, encode_eq_flatMap, hread, scalarsFrom, List.reverse_reverse]
  rw [decodeLossy, hscalars, List.map_map]
  simp [Function.comp_def]

end Newsstand.Text.Utf8
