import Mathlib.Data.List.Infix
import Newsstand.Proofs.Text.Utf8
import Newsstand.Text.Percent

/-!
# Reading percent-encoded texts

Where no percent sign stands before two hexadecimal digits, a text is read as it
is.  A question mark, which is no part of such a triple, is read in any case,
even where what is around it is no text.
-/

namespace Newsstand.Text

/-! ## Octets that are text -/

namespace Utf8

/-- What a text was written as is text throughout. -/
theorem breachFrom?_encode (index : ℕ) (s : String) :
    breachFrom? index (encode s) = none := by
  rw [encode_eq_flatMap]
  induction s.toList generalizing index with
  | nil => rw [List.flatMap_nil, breachFrom?]
  | cons c cs ih =>
      obtain ⟨b, tail, hoctets, hread⟩ := readScalar_utf8EncodeChar c
        (cs.flatMap String.utf8EncodeChar)
      rw [List.flatMap_cons, hoctets, List.cons_append, breachFrom?]
      simp only [hread, Option.isSome_some, if_true]
      exact ih _

theorem encode_injective {s t : String} (h : encode s = encode t) : s = t := by
  rw [← decodeLossy_encode s, h, decodeLossy_encode]

/-! ## Question marks in octets -/

/-- The octet of a question mark. -/
def questionOctet : UInt8 := 0x3F

/-- A question mark does not go on with a character. -/
theorem question_mem_readRest {count code : ℕ} {low high : UInt8}
    (hlow : 0x80 ≤ low) {octets : List UInt8} (h : questionOctet ∈ octets) :
    questionOctet ∈ (readRest count low high code octets).2 := by
  induction octets generalizing count code low high with
  | nil => cases h
  | cons b rest ih =>
      cases count with
      | zero => exact h
      | succ count =>
          rw [readRest]
          split
          next hrange =>
              refine ih (by decide) ((List.mem_cons.mp h).resolve_left ?_)
              rintro rfl
              exact absurd (UInt8.le_trans hlow hrange.1) (by decide)
          next => exact h

theorem low_lead? {b : UInt8} {lead : Lead} (h : lead? b = some lead) :
    0x80 ≤ lead.low := by
  unfold lead? at h
  split_ifs at h <;> cases h <;> dsimp only <;> decide

theorem question_mem_readScalar {b : UInt8} {rest : List UInt8}
    (h : questionOctet ∈ b :: rest) :
    (readScalar b rest).1 = some '?' ∨
      questionOctet ∈ (readScalar b rest).2 := by
  rcases List.mem_cons.mp h with rfl | h
  · exact Or.inl rfl
  · right
    unfold readScalar
    split
    next => exact h
    next =>
        split
        next => exact h
        next lead hlead => exact question_mem_readRest (low_lead? hlead) h

theorem question_mem_scalarsFrom {done : List (Option Char)}
    {octets : List UInt8} (h : some '?' ∈ done ∨ questionOctet ∈ octets) :
    some '?' ∈ scalarsFrom done octets := by
  fun_induction scalarsFrom done octets with
  | case1 done => exact h.resolve_right List.not_mem_nil
  | case2 done b rest _ ih =>
      refine ih ?_
      rcases h with h | h
      · exact Or.inl (List.mem_cons_of_mem _ h)
      · rcases question_mem_readScalar h with hread | hrest
        · exact Or.inl (hread ▸ List.mem_cons_self)
        · exact Or.inr hrest

theorem question_mem_decodeLossy {octets : List UInt8}
    (h : questionOctet ∈ octets) :
    '?' ∈ (decodeLossy octets).toList := by
  rw [decodeLossy, String.toList_ofList, scalars]
  exact List.mem_map.mpr
    ⟨some '?', List.mem_reverse.mpr (question_mem_scalarsFrom (Or.inr h)), rfl⟩

end Utf8

namespace Percent

/-! ## Triples -/

/-- No percent sign stands before two hexadecimal digits. -/
def Unescaped (cs : List Char) : Prop :=
  ∀ a b, ['%', a, b] <:+: cs → hexValue? a = none ∨ hexValue? b = none

theorem Unescaped.tail {c : Char} {cs : List Char} (h : Unescaped (c :: cs)) :
    Unescaped cs :=
  fun a b hwithin => h a b (hwithin.trans (List.suffix_cons c cs).isInfix)

theorem unescaped_of_notMem {cs : List Char} (h : '%' ∉ cs) : Unescaped cs :=
  fun _ _ hwithin => absurd (hwithin.subset List.mem_cons_self) h

theorem encode_singleton (c : Char) :
    Utf8.encode (String.singleton c) = String.utf8EncodeChar c := by
  rw [Utf8.encode_eq_flatMap, String.toList_singleton, List.flatMap_singleton]

theorem octetsFrom_of_unescaped {cs : List Char} (h : Unescaped cs)
    (done : List UInt8) :
    octetsFrom done cs =
      (cs.flatMap String.utf8EncodeChar).reverse ++ done := by
  fun_induction octetsFrom done cs with
  | case1 done => rfl
  | case2 done a b rest x y hb ha ih =>
      have hnone := h a b (List.prefix_append ['%', a, b] rest).isInfix
      simp [ha, hb] at hnone
  | case3 done a b rest _ ih =>
      have hrest := ih h.tail
      generalize a :: b :: rest = more at hrest ⊢
      rw [hrest, List.flatMap_cons, List.reverse_append, List.append_assoc]
      rfl
  | case4 done c rest _ ih =>
      rw [ih h.tail, encode_singleton, List.flatMap_cons, List.reverse_append,
        List.append_assoc]

/-- The number of octets that the characters have. -/
def octetLength (cs : List Char) : ℕ :=
  (cs.flatMap String.utf8EncodeChar).length

theorem octetLength_cons (c : Char) (cs : List Char) :
    octetLength (c :: cs) =
      (String.utf8EncodeChar c).length + octetLength cs := by
  rw [octetLength, List.flatMap_cons, List.length_append, octetLength]

theorem octetLength_append (cs ds : List Char) :
    octetLength (cs ++ ds) = octetLength cs + octetLength ds := by
  rw [octetLength, List.flatMap_append, List.length_append]
  rfl

theorem octetLength_le_of_suffix {cs ds : List Char} (h : cs <:+ ds) :
    octetLength cs ≤ octetLength ds := by
  obtain ⟨front, rfl⟩ := h
  rw [octetLength_append]
  exact Nat.le_add_left _ _

theorem length_encode (s : String) :
    (Utf8.encode s).length = octetLength s.toList := by
  rw [Utf8.encode_eq_flatMap, octetLength]

theorem length_utf8EncodeChar_pos (c : Char) :
    1 ≤ (String.utf8EncodeChar c).length := by
  obtain ⟨b, tail, hoctets, -⟩ := Utf8.readScalar_utf8EncodeChar c []
  rw [hoctets]
  exact Nat.succ_le_succ (Nat.zero_le _)

theorem length_octetsFrom_le (done : List UInt8) (cs : List Char) :
    (octetsFrom done cs).length ≤ octetLength cs + done.length := by
  fun_induction octetsFrom done cs with
  | case1 done => simp
  | case2 done a b rest x y hb ha ih =>
      rw [octetLength_cons]
      have hpos := length_utf8EncodeChar_pos '%'
      have hrest : octetLength rest ≤ octetLength (a :: b :: rest) := by
        rw [octetLength_cons, octetLength_cons]
        omega
      rw [List.length_cons] at ih
      omega
  | case3 done a b rest _ ih =>
      rw [octetLength_cons]
      have hpos := length_utf8EncodeChar_pos '%'
      rw [List.length_cons] at ih
      omega
  | case4 done c rest _ ih =>
      rw [encode_singleton, List.length_append, List.length_reverse] at ih
      rw [encode_singleton, octetLength_cons]
      omega

theorem length_octets_le (cs : List Char) :
    (octets cs).length ≤ octetLength cs := by
  rw [octets, List.length_reverse]
  exact length_octetsFrom_le [] cs

theorem Unescaped.cons {c : Char} {cs : List Char} (h : Unescaped cs)
    (hfirst : ∀ a b, ['%', a, b] <+: c :: cs →
      hexValue? a = none ∨ hexValue? b = none) : Unescaped (c :: cs) := by
  intro a b hwithin
  rcases List.infix_cons_iff.mp hwithin with hprefix | htail
  · exact hfirst a b hprefix
  · exact h a b htail

/-- Triples make a text shorter. -/
theorem unescaped_of_length_eq {done : List UInt8} {cs : List Char}
    (h : (octetsFrom done cs).length = octetLength cs + done.length) :
    Unescaped cs := by
  fun_induction octetsFrom done cs with
  | case1 done => simp [Unescaped]
  | case2 done a b rest x y hb ha ih =>
      have hle := length_octetsFrom_le (UInt8.ofNat (x * 16 + y) :: done) rest
      have hpercent := length_utf8EncodeChar_pos '%'
      have hfirst := length_utf8EncodeChar_pos a
      rw [octetLength_cons, octetLength_cons, octetLength_cons] at h
      rw [List.length_cons] at hle
      have hsecond := length_utf8EncodeChar_pos b
      omega
  | case3 done a b rest hnot ih =>
      have hpercent : (String.utf8EncodeChar '%').length = 1 := by decide
      rw [octetLength_cons, hpercent] at h
      rw [List.length_cons] at ih
      refine (ih (by omega)).cons fun a' b' hprefix => ?_
      obtain ⟨-, htwo⟩ := List.cons_prefix_cons.mp hprefix
      obtain ⟨heq, hone⟩ := List.cons_prefix_cons.mp htwo
      obtain ⟨heq', -⟩ := List.cons_prefix_cons.mp hone
      subst heq heq'
      by_contra hboth
      rw [not_or, ← ne_eq, ← ne_eq, Option.ne_none_iff_exists',
        Option.ne_none_iff_exists'] at hboth
      obtain ⟨⟨x, hx⟩, y, hy⟩ := hboth
      exact hnot x y hx hy
  | case4 done c rest hnot ih =>
      rw [encode_singleton, octetLength_cons] at h
      rw [encode_singleton, List.length_append, List.length_reverse] at ih
      refine (ih (by omega)).cons fun a b hprefix => ?_
      obtain ⟨hpercent, hprefix⟩ := List.cons_prefix_cons.mp hprefix
      obtain ⟨more, hrest⟩ := hprefix
      exact (hnot a b more hpercent.symm hrest.symm).elim

/-- A text is read as it is exactly if it has no triples. -/
theorem octets_eq_encode_iff (s : String) :
    octets s.toList = Utf8.encode s ↔ Unescaped s.toList := by
  rw [octets, Utf8.encode_eq_flatMap]
  constructor
  · intro h
    have hlength := congrArg List.length h
    rw [List.length_reverse] at hlength
    exact unescaped_of_length_eq hlength
  · intro h
    rw [octetsFrom_of_unescaped h, List.append_nil, List.reverse_reverse]

/-! ## Question marks -/

theorem question_mem_octetsFrom {done : List UInt8} {cs : List Char}
    (h : Utf8.questionOctet ∈ done ∨ '?' ∈ cs) :
    Utf8.questionOctet ∈ octetsFrom done cs := by
  fun_induction octetsFrom done cs with
  | case1 done => exact h.resolve_right List.not_mem_nil
  | case2 done a b rest x y hb ha ih =>
      refine ih (h.imp (List.mem_cons_of_mem _) fun hmem => ?_)
      have hquestion : hexValue? '?' = none := by decide
      simp only [List.mem_cons] at hmem
      rcases hmem with heq | rfl | rfl | hmem
      · cases heq
      · rw [hquestion] at ha
        cases ha
      · rw [hquestion] at hb
        cases hb
      · exact hmem
  | case3 done a b rest _ ih =>
      refine ih (h.imp (List.mem_cons_of_mem _) fun hmem => ?_)
      exact (List.mem_cons.mp hmem).resolve_left (by decide)
  | case4 done c rest _ ih =>
      refine ih ?_
      rcases h with h | hmem
      · exact Or.inl (List.mem_append_right _ h)
      · rcases List.mem_cons.mp hmem with rfl | hmem
        · rw [encode_singleton]
          exact Or.inl (List.mem_append_left _ (by decide))
        · exact Or.inr hmem

theorem question_mem_octets {cs : List Char} (h : '?' ∈ cs) :
    Utf8.questionOctet ∈ octets cs :=
  List.mem_reverse.mpr (question_mem_octetsFrom (Or.inr h))

end Percent

end Newsstand.Text
