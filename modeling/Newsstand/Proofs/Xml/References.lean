import Mathlib.Data.List.Forall2
import Mathlib.Data.List.TakeWhile
import Mathlib.Data.Nat.Notation
import Newsstand.Xml.Reference

/-!
# References that name a character

The name of a reference has a meaning if it is one of the five predefined ones,
or a number sign with the numeral of a code point.  A text can be resolved
exactly if behind each of its ampersands such a name and a semicolon stand.  The
written form of a text is resolved to the text.
-/

namespace Newsstand.Xml

open Newsstand.Text

/-! ## Numerals -/

/-- The number that some digits stand for behind those of another number. -/
def numberFrom (base start : ℕ) (values : List ℕ) : ℕ :=
  values.foldl (fun number value => number * base + value) start

/-- Some digits, at least one, are the numeral of a number in a base. -/
def IsNumeral (base : ℕ) (digits : List Char) (number : ℕ) : Prop :=
  digits ≠ [] ∧ ∃ values,
    List.Forall₂ (fun c value => digitValue base c = some value) digits values ∧
      numberFrom base 0 values = number

theorem le_numberFrom {base : ℕ} (hbase : 0 < base) (start : ℕ)
    (values : List ℕ) : start ≤ numberFrom base start values := by
  induction values generalizing start with
  | nil => exact le_rfl
  | cons value values ih =>
      have hstart : start ≤ start * base := Nat.le_mul_of_pos_right start hbase
      exact (hstart.trans (Nat.le_add_right _ value)).trans (ih _)

/-- Digits are read unless their number takes more than 32 bits. -/
theorem readDigits_eq_ok_iff {base : ℕ} (hbase : 0 < base) {digits : List Char}
    {start number : ℕ} (hstart : start < UInt32.size) :
    readDigits base start digits = .ok number ↔
      number < UInt32.size ∧ ∃ values,
        List.Forall₂ (fun c value => digitValue base c = some value) digits
            values ∧
          numberFrom base start values = number := by
  induction digits generalizing start with
  | nil =>
      simp only [readDigits, List.forall₂_nil_left_iff, exists_eq_left,
        Except.ok.injEq]
      exact ⟨fun heq => ⟨heq ▸ hstart, heq⟩, And.right⟩
  | cons c digits ih =>
      simp only [readDigits, List.forall₂_cons_left_iff]
      cases hvalue : digitValue base c with
      | none => simp
      | some value =>
          by_cases hsmall : start * base + value < UInt32.size
          · simp only [hsmall, if_true, ih hsmall]
            refine and_congr_right fun _ => ⟨?_, ?_⟩
            · rintro ⟨values, hvalues, hnumber⟩
              exact ⟨value :: values, ⟨value, values, rfl, hvalues, rfl⟩,
                hnumber⟩
            · rintro ⟨-, ⟨first, values, hfirst, hvalues, rfl⟩, hnumber⟩
              obtain rfl := Option.some.inj hfirst
              exact ⟨values, hvalues, hnumber⟩
          · simp only [hsmall, if_false, reduceCtorEq, false_iff]
            rintro ⟨hnumber, -, ⟨first, values, hfirst, -, rfl⟩, rfl⟩
            obtain rfl := Option.some.inj hfirst
            exact hsmall ((le_numberFrom hbase _ values).trans_lt hnumber)

/-! ## Names -/

/-- The names of references, with the characters that they stand for. -/
inductive Names : List Char → Char → Prop where
  | predefined {name : List Char} {c : Char} (h : predefined name = some c) :
      Names name c
  | decimal {digits : List Char} {c : Char} (h : IsNumeral 10 digits c.toNat)
      (hnull : c.toNat ≠ 0) : Names ('#' :: digits) c
  | hexadecimal {digits : List Char} {c : Char}
      (h : IsNumeral 16 digits c.toNat) (hnull : c.toNat ≠ 0) :
      Names ('#' :: 'x' :: digits) c

/-- A digit is none of the characters at which a name ends. -/
theorem inReference_of_digitValue {base value : ℕ} {c : Char}
    (h : digitValue base c = some value) : inReference c := by
  rw [inReference, Bool.and_eq_true, bne_iff_ne, bne_iff_ne]
  constructor <;> rintro rfl <;> simp [digitValue] at h

theorem IsNumeral.inReference {base number : ℕ} {digits : List Char}
    (h : IsNumeral base digits number) : ∀ c ∈ digits, inReference c := by
  obtain ⟨-, values, hvalues, -⟩ := h
  clear * - hvalues
  induction hvalues with
  | nil => exact nofun
  | cons hvalue _ ih =>
      exact List.forall_mem_cons.mpr ⟨inReference_of_digitValue hvalue, ih⟩

theorem predefined_eq_some {name : List Char} {c : Char}
    (h : predefined name = some c) :
    name ∈ ["lt", "gt", "amp", "apos", "quot"].map String.toList := by
  unfold predefined at h
  split_ifs at h <;> simp_all

/-- A name with a meaning ends where its reference does. -/
theorem Names.inReference {name : List Char} {c : Char} (h : Names name c) :
    ∀ d ∈ name, inReference d := by
  cases h with
  | predefined h =>
      have hall : ∀ name ∈ ["lt", "gt", "amp", "apos", "quot"].map
          String.toList, name.all Xml.inReference := by
        decide
      exact List.all_eq_true.mp (hall name (predefined_eq_some h))
  | decimal h hnull =>
      exact List.forall_mem_cons.mpr ⟨by decide, h.inReference⟩
  | hexadecimal h hnull =>
      exact List.forall_mem_cons.mpr
        ⟨by decide, List.forall_mem_cons.mpr ⟨by decide, h.inReference⟩⟩

theorem not_isNumeral_cons {base number : ℕ} {c : Char} {digits : List Char}
    (h : digitValue base c = none) : ¬IsNumeral base (c :: digits) number := by
  rintro ⟨-, values, hvalues, -⟩
  obtain ⟨value, rest, hvalue, -⟩ := List.forall₂_cons_left_iff.mp hvalues
  rw [h] at hvalue
  cases hvalue

/-- A number sign is followed by a decimal numeral, or by a hexadecimal one
behind a letter. -/
theorem names_number_iff {digits rest : List Char} {base : ℕ} {c : Char}
    (h : (match digits with
      | 'x' :: hex => (16, hex)
      | other => (10, other)) = (base, rest)) :
    Names ('#' :: digits) c ↔ IsNumeral base rest c.toNat ∧ c.toNat ≠ 0 := by
  constructor
  · intro hnames
    cases hnames with
    | predefined hname =>
        have hnone : predefined ('#' :: digits) = none := by simp [predefined]
        rw [hnone] at hname
        cases hname
    | decimal hnumeral hnull =>
        split at h
        · exact absurd hnumeral (not_isNumeral_cons (by decide))
        · cases h
          exact ⟨hnumeral, hnull⟩
    | hexadecimal hnumeral hnull =>
        cases h
        exact ⟨hnumeral, hnull⟩
  · rintro ⟨hnumeral, hnull⟩
    split at h
    · cases h
      exact .hexadecimal hnumeral hnull
    · cases h
      exact .decimal hnumeral hnull

theorem digitValue_eq_none {base : ℕ} {c : Char} (h : c.toNat < 48) :
    digitValue base c = none := by
  have hlow : ¬48 ≤ c.toNat ∧ ¬65 ≤ c.toNat ∧ ¬97 ≤ c.toNat := by omega
  simp [digitValue, hlow]

/-- No code point takes more than 32 bits. -/
theorem readDigits_toNat_iff {base : ℕ} (hbase : 0 < base) {digits : List Char}
    (hdigits : digits ≠ []) (c : Char) :
    readDigits base 0 digits = .ok c.toNat ↔ IsNumeral base digits c.toNat := by
  rw [readDigits_eq_ok_iff hbase (by decide), IsNumeral, and_iff_right hdigits]
  exact and_iff_right c.val.toNat_lt_size

/-- A number is the code point of one character at most. -/
theorem ofNatAux_eq_iff {code : ℕ} (h : code.isValidChar) (c : Char) :
    Char.ofNatAux code h = c ↔ code = c.toNat := by
  constructor
  · rintro rfl
    rfl
  · rintro rfl
    rfl

/-- A code point is read as its own character, and the null one as none. -/
theorem readCode_eq_ok_iff {code : ℕ} {c : Char} :
    (if code = 0 then .error .null
      else if h : code.isValidChar then .ok (Char.ofNatAux code h)
      else .error (.notCharacter code) : Except NumberFault Char) = .ok c ↔
      code = c.toNat ∧ c.toNat ≠ 0 := by
  by_cases hzero : code = 0
  · rw [if_pos hzero]
    refine iff_of_false (by simp) ?_
    rintro ⟨rfl, hnull⟩
    exact hnull hzero
  · rw [if_neg hzero]
    by_cases hvalid : code.isValidChar
    · rw [dif_pos hvalid, Except.ok.injEq, ofNatAux_eq_iff]
      exact (and_iff_left_of_imp fun heq => heq ▸ hzero).symm
    · rw [dif_neg hvalid]
      refine iff_of_false (by simp) ?_
      rintro ⟨rfl, -⟩
      exact hvalid c.valid

/-- The numerals of code points are read. -/
theorem readNumber_eq_ok_iff {digits : List Char} {c : Char} :
    readNumber digits = .ok c ↔ Names ('#' :: digits) c := by
  unfold readNumber
  split
  next base rest hrest =>
      have hbase : 0 < base := by
        split at hrest <;> cases hrest <;> decide
      rw [names_number_iff hrest]
      split
      next => simp [IsNumeral]
      next tail =>
          have hplus : ¬IsNumeral base ('+' :: tail) c.toNat :=
            not_isNumeral_cons (digitValue_eq_none (by decide))
          simp [hplus]
      next tail =>
          have hminus : ¬IsNumeral base ('-' :: tail) c.toNat :=
            not_isNumeral_cons (digitValue_eq_none (by decide))
          simp [hminus]
      next hnil _ _ =>
          rw [← readDigits_toNat_iff hbase hnil]
          cases hcode : readDigits base 0 rest with
          | error fault => simp
          | ok code =>
              rw [Except.ok.injEq]
              exact readCode_eq_ok_iff

/-- The names with a meaning are those that are read as references. -/
theorem readReference_eq_ok_iff (start : ℕ) {name : List Char} {c : Char} :
    readReference start name = .ok c ↔ Names name c := by
  unfold readReference
  split
  next digits =>
      rw [← readNumber_eq_ok_iff]
      cases readNumber digits <;> simp [Except.mapError]
  next hnumber =>
      have hnames : Names name c ↔ predefined name = some c := by
        constructor
        · intro h
          cases h with
          | predefined h => exact h
          | decimal => exact absurd rfl (hnumber _)
          | hexadecimal => exact absurd rfl (hnumber _)
        · exact .predefined
      rw [hnames]
      cases predefined name <;> simp

/-! ## Texts -/

/-- At some ampersand of a text no reference with a meaning begins: no name that
stands for a character follows with a semicolon behind it. -/
def Misreferenced (text : List Char) : Prop :=
  ∃ before after, text = before ++ '&' :: after ∧
    ∀ name c, Names name c → ¬name ++ [';'] <+: after

theorem misreferenced_cons_iff {c : Char} {text : List Char} :
    Misreferenced (c :: text) ↔
      (c = '&' ∧ ∀ name d, Names name d → ¬name ++ [';'] <+: text) ∨
        Misreferenced text := by
  constructor
  · rintro ⟨before, after, heq, hafter⟩
    cases before with
    | nil =>
        cases heq
        exact Or.inl ⟨rfl, hafter⟩
    | cons d before =>
        cases heq
        exact Or.inr ⟨before, after, rfl, hafter⟩
  · rintro (⟨rfl, hafter⟩ | ⟨before, after, rfl, hafter⟩)
    · exact ⟨[], text, rfl, hafter⟩
    · exact ⟨c :: before, after, rfl, hafter⟩

theorem misreferenced_append_iff {before : List Char}
    (h : ∀ c ∈ before, c ≠ '&') (text : List Char) :
    Misreferenced (before ++ text) ↔ Misreferenced text := by
  induction before with
  | nil => rfl
  | cons c before ih =>
      obtain ⟨hc, hbefore⟩ := List.forall_mem_cons.mp h
      rw [List.cons_append, misreferenced_cons_iff, ih hbefore]
      simp [hc]

/-- A reference with a meaning is cut out at its semicolon. -/
theorem split_of_names {name : List Char} {c : Char} (h : Names name c)
    (rest : List Char) :
    (name ++ ';' :: rest).takeWhile inReference = name ∧
      (name ++ ';' :: rest).dropWhile inReference = ';' :: rest := by
  constructor
  · rw [List.takeWhile_append_of_pos h.inReference,
      List.takeWhile_cons_of_neg (by decide), List.append_nil]
  · rw [List.dropWhile_append_of_pos h.inReference,
      List.dropWhile_cons_of_neg (by decide)]

/-- What cannot be cut out as a reference, or has no meaning, is none. -/
theorem no_names_of_split {text : List Char}
    (h : ∀ name rest c, text.takeWhile inReference = name →
      text.dropWhile inReference = ';' :: rest → ¬Names name c) :
    ∀ name c, Names name c → ¬name ++ [';'] <+: text := by
  rintro name c hname ⟨rest, rfl⟩
  rw [List.append_assoc] at h
  obtain ⟨htake, hdrop⟩ := split_of_names hname rest
  exact h name rest c htake hdrop hname

/-- A text cannot be resolved exactly if one of its ampersands begins no
reference with a meaning. -/
theorem exists_resolve_error_iff {text : List Char} :
    (∃ fault, resolve text = .error fault) ↔ Misreferenced text := by
  suffices hfrom : ∀ total pos done,
      (∃ fault, resolveFrom total pos done text = .error fault) ↔
        Misreferenced text from hfrom _ _ _
  intro total pos done
  fun_induction resolveFrom total pos done text with
  | case1 => simp [Misreferenced]
  | case2 pos done rest name rest' hdrop fault hread =>
      refine iff_of_true ⟨fault, rfl⟩ (misreferenced_cons_iff.mpr (Or.inl ?_))
      refine ⟨rfl, no_names_of_split fun other _ c htake _ hnames => ?_⟩
      subst htake
      rw [← readReference_eq_ok_iff (pos + 1), hread] at hnames
      cases hnames
  | case3 pos done rest name rest' hdrop c hread ih =>
      have hnames : Names name c := (readReference_eq_ok_iff _).mp hread
      have hrest : rest = (name ++ [';']) ++ rest' := by
        rw [List.append_assoc, List.singleton_append, ← hdrop,
          List.takeWhile_append_dropWhile]
      have hno : ∀ d ∈ name ++ [';'], d ≠ '&' := by
        rw [List.forall_mem_append, List.forall_mem_singleton]
        refine ⟨?_, by decide⟩
        rintro d hd rfl
        exact absurd (hnames.inReference _ hd) (by decide)
      rw [ih, misreferenced_cons_iff, hrest, misreferenced_append_iff hno]
      refine (or_iff_right ?_).symm
      rintro ⟨-, hafter⟩
      exact hafter name c hnames (List.prefix_append _ _)
  | case4 pos done rest hdrop =>
      refine iff_of_true ⟨_, rfl⟩ (misreferenced_cons_iff.mpr (Or.inl ?_))
      refine ⟨rfl, no_names_of_split fun other rest' c _ hdrop' => ?_⟩
      exact absurd hdrop' (hdrop rest')
  | case5 pos done c rest hc ih =>
      rw [ih, misreferenced_cons_iff]
      simp [hc]

theorem resolveFrom_of_names {name : List Char} {c : Char} (h : Names name c)
    (total pos : ℕ) (done rest : List Char) :
    resolveFrom total pos done ('&' :: (name ++ ';' :: rest)) =
      resolveFrom total (pos + byteLength name + 2) (c :: done) rest := by
  obtain ⟨htake, hdrop⟩ := split_of_names h rest
  have hread : readReference (pos + 1) name = .ok c :=
    (readReference_eq_ok_iff _).mpr h
  rw [resolveFrom, if_pos rfl]
  simp only [htake]
  split
  next rest' heq =>
      rw [hdrop] at heq
      cases heq
      rw [hread]
  next hnot => exact absurd hdrop (hnot rest)

/-! ## Resolved characters -/

/-- What has been passed stays when more is passed. -/
theorem prefix_of_reverse_cons {α : Type} {a : α} {done whole : List α}
    (h : (a :: done).reverse <+: whole) : done.reverse <+: whole := by
  rw [List.reverse_cons] at h
  exact (List.prefix_append _ _).trans h

/-- The characters that have been resolved stay. -/
theorem prefix_resolveFrom {total pos : ℕ} {done cs text : List Char}
    (h : resolveFrom total pos done cs = .ok text) : done.reverse <+: text := by
  fun_induction resolveFrom total pos done cs with
  | case1 =>
      cases h
      exact List.prefix_rfl
  | case2 => cases h
  | case3 _ _ _ _ _ _ _ _ ih => exact prefix_of_reverse_cons (ih h)
  | case4 => cases h
  | case5 _ _ _ _ _ ih => exact prefix_of_reverse_cons (ih h)

/-- A text that does not begin with a reference begins as it is written. -/
theorem exists_cons_of_resolve {c : Char} (hc : c ≠ '&') {cs text : List Char}
    (h : resolve (c :: cs) = .ok text) : ∃ rest, text = c :: rest := by
  rw [resolve, resolveFrom, if_neg hc] at h
  obtain ⟨rest, hrest⟩ := prefix_resolveFrom h
  exact ⟨rest, hrest.symm⟩

/-! ## Written forms -/

/-- A character is written as itself or as a reference to it. -/
theorem escapeChar_cases (c : Char) :
    (escapeChar c = [c] ∧ c ≠ '&') ∨
      ∃ name, Names name c ∧ escapeChar c = '&' :: (name ++ [';']) := by
  unfold escapeChar
  split
  next => exact Or.inr ⟨"amp".toList, .predefined (by decide), rfl⟩
  next => exact Or.inr ⟨"lt".toList, .predefined (by decide), rfl⟩
  next => exact Or.inr ⟨"gt".toList, .predefined (by decide), rfl⟩
  next hamp _ _ => exact Or.inl ⟨rfl, hamp⟩

/-- No bracket stands in a written form. -/
theorem ne_of_mem_escape {text : List Char} {c : Char} (h : c ∈ escape text) :
    c ≠ '<' := by
  obtain ⟨d, -, hc⟩ := List.mem_flatMap.mp h
  have hforms : ∀ form ∈ ["&amp;", "&lt;", "&gt;"].map String.toList,
      '<' ∉ form := by decide
  rintro rfl
  unfold escapeChar at hc
  split at hc
  next => exact hforms _ (by decide) hc
  next => exact hforms _ (by decide) hc
  next => exact hforms _ (by decide) hc
  next _ hbracket _ => exact hbracket (List.mem_singleton.mp hc).symm

/-- The written form of a text is resolved to the text. -/
theorem resolve_escape (text : List Char) : resolve (escape text) = .ok text := by
  suffices hfrom : ∀ total pos done,
      resolveFrom total pos done (escape text) = .ok (done.reverse ++ text) from
    hfrom _ _ _
  induction text with
  | nil =>
      intro total pos done
      rw [escape, List.flatMap_nil, resolveFrom, List.append_nil]
  | cons c text ih =>
      intro total pos done
      have hcons : escape (c :: text) = escapeChar c ++ escape text :=
        List.flatMap_cons
      have hdone : done.reverse ++ c :: text = (c :: done).reverse ++ text := by
        simp
      rw [hcons, hdone]
      rcases escapeChar_cases c with ⟨heq, hc⟩ | ⟨name, hname, heq⟩
      · rw [heq, List.singleton_append, resolveFrom, if_neg hc]
        exact ih _ _ _
      · rw [heq, List.cons_append, List.append_assoc, List.singleton_append,
          resolveFrom_of_names hname]
        exact ih _ _ _

end Newsstand.Xml
