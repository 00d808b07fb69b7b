import Mathlib.Data.List.DropRight
import Newsstand.Text.Blank

/-!
# Trimming

What is trimmed once has no blanks at its ends any more, and blanks that are put
around a text are lost when it is trimmed.
-/

namespace Newsstand.Text

theorem dropEndWhile_eq_rdropWhile (p : Char → Bool) (cs : List Char) :
    dropEndWhile p cs = cs.rdropWhile p := rfl

/-- A text that begins with no blank does so when it loses those at its end. -/
theorem trimChars_trimChars (cs : List Char) :
    trimChars (trimChars cs) = trimChars cs := by
  have hbegins : (trimChars cs).dropWhile isBlank = trimChars cs := by
    obtain ⟨rest, hrest⟩ : trimChars cs <+: cs.dropWhile isBlank :=
      List.rdropWhile_prefix _ _
    cases htrim : trimChars cs with
    | nil => rfl
    | cons c text =>
        have hfirst := List.head?_dropWhile_not isBlank cs
        rw [← hrest, htrim, List.cons_append, List.head?_cons] at hfirst
        exact List.dropWhile_cons_of_neg (by simpa using hfirst)
  calc
    trimChars (trimChars cs) = (trimChars cs).rdropWhile isBlank := by
      rw [trimChars, hbegins, dropEndWhile_eq_rdropWhile]
    _ = trimChars cs := List.rdropWhile_idempotent _ _

/-- Blanks around a text do not count. -/
theorem trimChars_append_blanks {before after : List Char}
    (hbefore : ∀ c ∈ before, isBlank c) (hafter : ∀ c ∈ after, isBlank c)
    (cs : List Char) : trimChars (before ++ cs ++ after) = trimChars cs := by
  have hfront : (before ++ cs ++ after).dropWhile isBlank =
      (cs ++ after).dropWhile isBlank := by
    rw [List.append_assoc, List.dropWhile_append_of_pos hbefore]
  have hnone : after.dropWhile isBlank = [] :=
    List.dropWhile_eq_nil_iff.mpr hafter
  rw [trimChars, trimChars, hfront, List.dropWhile_append]
  by_cases hblank : cs.dropWhile isBlank = []
  · rw [hblank, List.isEmpty_nil, if_pos rfl, hnone]
  · rw [List.isEmpty_eq_false_iff.mpr hblank, if_neg Bool.false_ne_true,
      dropEndWhile, List.reverse_append, List.dropWhile_append_of_pos
        fun c hc => hafter c (List.mem_reverse.mp hc), dropEndWhile]

theorem trim_append_blanks {before after : String}
    (hbefore : isBlankString before) (hafter : isBlankString after)
    (s : String) : trim (before ++ s ++ after) = trim s := by
  rw [isBlankString, List.all_eq_true] at hbefore hafter
  rw [trim, String.toList_append, String.toList_append,
    trimChars_append_blanks hbefore hafter, trim]

theorem trim_of_isBlankString {s : String} (h : isBlankString s) :
    trim s = "" := by
  rw [isBlankString, List.all_eq_true] at h
  rw [trim, trimChars, List.dropWhile_eq_nil_iff.mpr h]
  rfl

theorem trim_trim (s : String) : trim (trim s) = trim s := by
  simp only [trim, String.toList_ofList, trimChars_trimChars]

end Newsstand.Text
