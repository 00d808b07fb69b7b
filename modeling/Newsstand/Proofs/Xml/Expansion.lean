import Newsstand.Proofs.Xml.Writing

/-!
# Self-closing tags in full

A self-closing tag can be written as a start tag with its end tag.  The reader
takes these for what they are unless the slash at the end of an attribute makes
the start tag self-closing again, or a quote in the name hides the bracket of
the end tag.
-/

namespace Newsstand.Xml

variable {body rest : List Char} {tag : Tag} {open? : Option (List Char)}

/-- What has been passed and the bracket make up the tag. -/
theorem eq_append_of_splitTag {quote : Option Char} {done cs : List Char}
    (h : splitTag quote done cs = some (body, rest)) :
    ∃ passed, body = done.reverse ++ passed ∧ cs = passed ++ '>' :: rest := by
  induction cs generalizing quote done with
  | nil => cases h
  | cons c cs ih =>
      have hpassed (quote : Option Char)
          (h : splitTag quote (c :: done) cs = some (body, rest)) :
          ∃ passed, body = done.reverse ++ passed ∧
            c :: cs = passed ++ '>' :: rest := by
        obtain ⟨passed, rfl, rfl⟩ := ih h
        exact ⟨c :: passed, by simp, rfl⟩
      simp only [splitTag] at h
      split at h
      next =>
          split at h
          next hend =>
              cases h
              exact ⟨[], by simp, by simp [hend]⟩
          next =>
              split at h
              · exact hpassed _ h
              · exact hpassed _ h
      next =>
          split at h
          · exact hpassed _ h
          · exact hpassed _ h

/-- A tag that ends behind a slash ends without it too, as a slash is no
quote. -/
theorem splitTag_without_slash {quote : Option Char} {done cs : List Char}
    (hquote : quote ≠ some '/')
    (h : splitTag quote done (cs ++ ['/', '>']) = some (body, [])) :
    splitTag quote done (cs ++ ['>']) = some (done.reverse ++ cs, []) := by
  induction cs generalizing quote done with
  | nil =>
      cases quote with
      | none => simp [splitTag]
      | some q =>
          have hq : '/' ≠ q := fun heq => hquote (congrArg some heq.symm)
          simp [splitTag, hq] at h
  | cons c cs ih =>
      have hdone : done.reverse ++ c :: cs = (c :: done).reverse ++ cs := by
        simp
      rw [List.cons_append] at h ⊢
      rw [hdone]
      simp only [splitTag] at h ⊢
      split at h
      next =>
          split at h
          next hend => simp at h
          next hend =>
              rw [if_neg hend]
              split at h
              next hopen =>
                  rw [if_pos hopen]
                  refine ih ?_ h
                  rintro hopened
                  obtain rfl := Option.some.inj hopened
                  exact absurd hopen (by decide)
              next hopen =>
                  rw [if_neg hopen]
                  exact ih (Option.some_ne_none '/').symm h
      next q =>
          split at h
          next hclose =>
              simp only [if_pos hclose]
              exact ih (Option.some_ne_none '/').symm h
          next hclose =>
              simp only [if_neg hclose]
              exact ih hquote h

/-- A self-closing tag is what stands in it with a slash and a bracket. -/
theorem eq_of_readMarkup_single {markup : List Char}
    (h : readMarkup open? markup = .ok (.single tag, [])) :
    markup = tag.content ++ ['/', '>'] ∧
      splitTag none [] markup = some (tag.content ++ ['/'], []) ∧
      ∃ c more, markup = c :: more ∧ (c ≠ '!' ∧ c ≠ '/' ∧ c ≠ '?') := by
  rcases readMarkup_cases h with hevent | ⟨_, hevent⟩ | ⟨_, hevent⟩ |
    ⟨_, hevent⟩ | ⟨_, _, hevent⟩ | ⟨c, more, hmarkup, hc, hstart⟩
  · cases hevent
  · cases hevent
  · cases hevent
  · cases hevent
  · cases hevent
  · unfold readStartTag at hstart
    split at hstart
    next => cases hstart
    next content rest hsplit =>
        split at hstart
        next hslash =>
            cases hstart
            obtain ⟨passed, hpassed, rfl⟩ := eq_append_of_splitTag hsplit
            obtain rfl : content = passed := hpassed
            have hcontent : content.dropLast ++ ['/'] = content :=
              List.dropLast_append_getLast? '/' hslash
            refine ⟨?_, ?_, c, more, hmarkup, hc⟩
            · show content ++ ['>'] = content.dropLast ++ (['/'] ++ ['>'])
              rw [← List.append_assoc, hcontent]
            · rw [hsplit, hcontent]
        next => cases hstart

/-- Without the slash, a self-closing tag is a start tag, unless the slash of an
attribute makes it self-closing again. -/
theorem plain_of_readMarkup_single {markup : List Char}
    (h : readMarkup open? markup = .ok (.single tag, []))
    (hslash : tag.content.getLast? ≠ some '/') (hname : Closable tag.name) :
    tag.Plain := by
  refine ⟨fun other => ?_, hname⟩
  obtain ⟨rfl, hsplit, c, more, hmarkup, hc⟩ := eq_of_readMarkup_single h
  obtain ⟨rest, hrest⟩ : ∃ rest, tag.content ++ ['>'] = c :: rest := by
    cases hcontent : tag.content with
    | nil =>
        rw [hcontent] at hmarkup
        obtain ⟨rfl, -⟩ := List.cons.inj hmarkup
        exact absurd rfl hc.2.1
    | cons d content =>
        rw [hcontent] at hmarkup
        obtain ⟨rfl, -⟩ := List.cons.inj hmarkup
        exact ⟨content ++ ['>'], rfl⟩
  have hnone : (none : Option Char) ≠ some '/' := (Option.some_ne_none '/').symm
  have hopened := splitTag_without_slash hnone hsplit
  rw [hrest, readMarkup_eq_readStartTag hc, ← hrest]
  simp only [readStartTag, hopened]
  exact if_neg hslash

/-- Every self-closing tag of a document stands in some place.  Written in full
there, it is read as a start tag and an end tag, and what stands before and
behind it is read as before. -/
theorem exists_read_around {doc : List Char} {events more : List Event}
    (hread : (read doc).events = events ++ .single tag :: more)
    (hslash : tag.content.getLast? ≠ some '/') (hname : Closable tag.name) :
    ∃ before after,
      doc = before ++ '<' :: (tag.content ++ '/' :: '>' :: after) ∧
      read before = ⟨events, none⟩ ∧
      read (before ++ (tag.around [] ++ after)) =
        ⟨events ++ .opened tag :: .closed tag.name :: more,
          (read doc).fault⟩ := by
  obtain ⟨before, markup, after, rfl, rfl, hstands⟩ := exists_stands hread nofun
  obtain ⟨rfl, -⟩ := eq_of_readMarkup_single hstands.reads
  have hplain := plain_of_readMarkup_single hstands.reads hslash hname
  have hsingle := hstands.read_eq_of_openAfter (fun _ => rfl) after
  have hfull : read (before ++ (tag.around [] ++ after)) =
      (readFrom (openBehind (read before).events) [] after).behind
        ((read before).events ++ [.opened tag, .closed tag.name]) := by
    have hbegins : BeginsMarkup (tag.around [] ++ after) := beginsMarkup_cons _
    rw [read_append hbegins hstands.faultless, readFrom_around .nil hplain,
      readFrom_eq_behind]
    simp
  refine ⟨before, after, by simp, ?_, ?_⟩
  · rw [← hstands.faultless]
  · rw [hsingle] at hread
    have hmore : (readFrom (openBehind (read before).events) [] after).events =
        more := by
      simpa [Transcript.behind] using hread
    rw [hfull, hsingle, ← hmore]
    simp [Transcript.behind]

end Newsstand.Xml
