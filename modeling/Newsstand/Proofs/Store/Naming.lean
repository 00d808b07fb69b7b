import Newsstand.Proofs.Text.Percent
import Newsstand.Store.Location

/-!
# How paths are read

A path stands in a connection string, where it is read as a name: what looks like
a scheme is taken off, percent signs are decoded, and a question mark ends it.
The name is the path itself exactly if there is nothing of this in it.  A path
with a question mark is read as none, since what is put behind it is then part of
a parameter.
-/

namespace Newsstand.Location

open Newsstand.Text

/-! ## Taking words off -/

section Words

variable {word cs before behind : List Char}

theorem prefix_append_cons_iff {c : Char} (hword : c ∉ word) :
    word <+: before ++ c :: behind ↔ word <+: before := by
  refine ⟨fun h => ?_, fun h => h.trans (List.prefix_append _ _)⟩
  induction word generalizing before with
  | nil => exact List.nil_prefix
  | cons d word ih =>
      obtain ⟨hd, hword⟩ := not_or.mp (mt List.mem_cons.mpr hword)
      cases before with
      | nil => exact absurd (List.cons_prefix_cons.mp h).1.symm hd
      | cons b before =>
          obtain ⟨rfl, hrest⟩ := List.cons_prefix_cons.mp h
          exact List.cons_prefix_cons.mpr ⟨rfl, ih hword hrest⟩

theorem dropRepeated_eq_self (h : ¬word <+: cs) (fuel : ℕ) :
    dropRepeated word fuel cs = cs := by
  cases fuel with
  | zero => rfl
  | succ fuel => rw [dropRepeated, if_neg (by simpa using h)]

theorem dropRepeated_succ (word cs : List Char) (fuel : ℕ) :
    dropRepeated word (fuel + 1) (word ++ cs) = dropRepeated word fuel cs := by
  rw [dropRepeated, if_pos (by simp), List.drop_left]

/-- Taking off words that have no question mark in them leaves what stands behind
one, and an end of what stands before it. -/
theorem dropRepeated_append (hword : '?' ∉ word) (fuel : ℕ)
    (before behind : List Char) :
    ∃ kept, kept <:+ before ∧
      dropRepeated word fuel (before ++ '?' :: behind) =
        kept ++ '?' :: behind := by
  induction fuel generalizing before with
  | zero => exact ⟨before, List.suffix_refl _, rfl⟩
  | succ fuel ih =>
      by_cases hprefix : word <+: before
      · obtain ⟨rest, rfl⟩ := hprefix
        obtain ⟨kept, hkept, heq⟩ := ih rest
        refine ⟨kept, hkept.trans (List.suffix_append _ _), ?_⟩
        rw [List.append_assoc, dropRepeated_succ, heq]
      · refine ⟨before, List.suffix_refl _, dropRepeated_eq_self ?_ _⟩
        rwa [prefix_append_cons_iff hword]

end Words

/-! ## The parts of a connection string -/

/-- The parameter that is put behind a path. -/
def rights : List Char := "mode=rwc".toList

/-- The scheme with the slashes in front of a host. -/
def hostScheme : List Char := "sqlite://".toList

/-- The scheme that is put before a path. -/
def scheme : List Char := "sqlite:".toList

section Connection

variable {path : String} {front once kept behind rest : List Char}

theorem question_notMem_hostScheme : '?' ∉ hostScheme := by
  decide

theorem question_notMem_scheme : '?' ∉ scheme := by
  decide

theorem text_eq (path : String) :
    ("sqlite:" ++ path ++ "?mode=rwc").toList =
      scheme ++ path.toList ++ '?' :: rights := by
  have htail : "?mode=rwc".toList = '?' :: rights := by decide
  have hhead : "sqlite:".toList = scheme := rfl
  rw [String.toList_append, String.toList_append, htail, hhead]

theorem connection_def (path : String) :
    connection path =
      let text := ("sqlite:" ++ path ++ "?mode=rwc").toList
      let once := dropRepeated hostScheme text.length text
      let twice := dropRepeated scheme once.length once
      (twice.takeWhile (· != '?'), (twice.dropWhile (· != '?')).drop 1) :=
  rfl

/-- A connection string is split at its first question mark, once the schemes are
taken off. -/
theorem connection_eq_of (hfront : dropRepeated hostScheme
      (scheme ++ path.toList ++ '?' :: rights).length
      (scheme ++ path.toList ++ '?' :: rights) = once)
    (honce : dropRepeated scheme once.length once = kept ++ '?' :: behind)
    (hkept : '?' ∉ kept) : connection path = (kept, behind) := by
  have hnone : ∀ c ∈ kept, (c != '?') = true := by
    intro c hc
    have hne : c ≠ '?' := fun heq => hkept (heq ▸ hc)
    simpa using hne
  simp only [connection_def, text_eq, hfront, honce]
  rw [List.takeWhile_append_of_pos hnone, List.dropWhile_append_of_pos hnone]
  simp

/-- What the first question mark of a connection string has before it is left but
for schemes, and what it has behind it are the parameters. -/
theorem connection_eq (hfront : '?' ∉ front)
    (h : scheme ++ path.toList ++ '?' :: rights = front ++ '?' :: behind) :
    ∃ kept, kept <:+ front ∧ connection path = (kept, behind) := by
  obtain ⟨once, honce, hfirst⟩ := dropRepeated_append question_notMem_hostScheme
    (front ++ '?' :: behind).length front behind
  obtain ⟨kept, hkept, hsecond⟩ := dropRepeated_append question_notMem_scheme
    (once ++ '?' :: behind).length once behind
  have hsuffix := hkept.trans honce
  rw [← h] at hfirst
  exact ⟨kept, hsuffix, connection_eq_of hfirst hsecond fun hmem =>
    hfront (hsuffix.mem hmem)⟩

theorem question_notMem_scheme_append (h : '?' ∉ front) :
    '?' ∉ scheme ++ front := by
  rw [List.mem_append, not_or]
  exact ⟨question_notMem_scheme, h⟩

/-- A path with a question mark leaves its end to the parameters. -/
theorem connection_of_mem (h : '?' ∈ path.toList) :
    ∃ kept back, connection path = (kept, back ++ '?' :: rights) := by
  obtain ⟨front, back, hpath, hfront⟩ := List.eq_append_cons_of_mem h
  have htext : scheme ++ path.toList ++ '?' :: rights =
      (scheme ++ front) ++ '?' :: (back ++ '?' :: rights) := by
    rw [hpath, List.append_assoc, List.append_assoc, List.append_assoc,
      List.cons_append]
  obtain ⟨kept, -, heq⟩ :=
    connection_eq (question_notMem_scheme_append hfront) htext
  exact ⟨kept, back, heq⟩

/-- A path that names a host loses the slashes. -/
theorem connection_of_host (hpath : path.toList = "//".toList ++ rest)
    (hrest : '?' ∉ rest) :
    ∃ kept, kept <:+ rest ∧ connection path = (kept, rights) := by
  have htext : scheme ++ path.toList ++ '?' :: rights =
      hostScheme ++ (rest ++ '?' :: rights) := by
    rw [hpath, ← List.append_assoc, List.append_assoc]
    rfl
  obtain ⟨fuel, hfuel⟩ : ∃ fuel,
      (hostScheme ++ (rest ++ '?' :: rights)).length = fuel + 1 := ⟨_, rfl⟩
  obtain ⟨once, honce, hfirst⟩ :=
    dropRepeated_append question_notMem_hostScheme fuel rest rights
  obtain ⟨kept, hkept, hsecond⟩ := dropRepeated_append question_notMem_scheme
    (once ++ '?' :: rights).length once rights
  have hsuffix := hkept.trans honce
  refine ⟨kept, hsuffix, connection_eq_of ?_ hsecond fun hmem =>
    hrest (hsuffix.mem hmem)⟩
  rw [htext, hfuel, dropRepeated_succ, hfirst]

/-- Without slashes in front one scheme is taken off, and then those that the
path has itself. -/
theorem connection_of_not_host (hquestion : '?' ∉ path.toList)
    (hhost : ¬"//".toList <+: path.toList) :
    ∃ fuel kept, dropRepeated scheme (fuel + 1) (path.toList ++ '?' :: rights) =
      kept ++ '?' :: rights ∧ connection path = (kept, rights) := by
  have hlong : ¬hostScheme <+: scheme ++ path.toList ++ '?' :: rights := by
    intro hprefix
    have hsplit : hostScheme = scheme ++ "//".toList := by decide
    rw [hsplit, List.append_assoc, List.prefix_append_right_inj,
      prefix_append_cons_iff (by decide)] at hprefix
    exact hhost hprefix
  -- The length leaves a turn for the scheme that is put before the path, and one
  -- more for a scheme in the path.
  obtain ⟨fuel, hfuel⟩ : ∃ fuel,
      (scheme ++ (path.toList ++ '?' :: rights)).length = fuel + 1 + 1 :=
    ⟨_, rfl⟩
  obtain ⟨kept, hkept, hsecond⟩ := dropRepeated_append question_notMem_scheme
    (fuel + 1) path.toList rights
  refine ⟨fuel, kept, hsecond, connection_eq_of
    (dropRepeated_eq_self hlong _) ?_ fun hmem =>
      hquestion (hkept.mem hmem)⟩
  rw [List.append_assoc, hfuel, dropRepeated_succ, hsecond]

end Connection

/-! ## Names -/

/-- The path is read as the name: it brings no parameters of its own, percent
signs in what is left of it are decoded to the name, and that is no URI. -/
structure Reads (path name : String) : Prop where
  rights_eq : (connection path).2 = rights
  octets_eq : Percent.octets (connection path).1 = Utf8.encode name
  zero_notMem : '\x00' ∉ name.toList
  not_uri : ¬"file:".toList <+: name.toList

/-- A path in which nothing means anything to a connection string. -/
structure Plain (path : String) : Prop where
  question_notMem : '?' ∉ path.toList
  zero_notMem : '\x00' ∉ path.toList
  unescaped : Percent.Unescaped path.toList
  not_scheme : ¬scheme <+: path.toList
  not_host : ¬"//".toList <+: path.toList
  not_uri : ¬"file:".toList <+: path.toList

section Names

variable {path name : String}

/-- A path that is read as the name of a file leads to this file. -/
theorem Reads.ofPath_eq (h : Reads path name) (hname : name ≠ "")
    (hmemory : name ≠ ":memory:") :
    ofPath path = .ok (.file (resolve name)) := by
  obtain ⟨hrights, hoctets, hzero, huri⟩ := h
  have hparameters : checkParameters none (parameters rights) = .ok none := by
    decide +kernel
  have hdatabase : (connection path).1 ≠ ":memory:".toList := by
    intro heq
    rw [heq] at hoctets
    have hself : Percent.octets ":memory:".toList = Utf8.encode ":memory:" :=
      (Percent.octets_eq_encode_iff ":memory:").mpr
        (Percent.unescaped_of_notMem (by decide))
    exact hmemory (Utf8.encode_injective (hoctets.symm.trans hself))
  have hfile : ofName name.toList = .ok (.file (resolve name)) := by
    have hempty : name.toList ≠ [] := by simpa using hname
    have hother : name.toList ≠ ":memory:".toList := fun heq =>
      hmemory (String.toList_inj.mp heq)
    rw [ofName, if_neg fun h => hzero (List.contains_iff_mem.mp h),
      if_neg fun h => huri (List.isPrefixOf_iff_prefix.mp h), ofFile,
      if_neg (not_or.mpr ⟨hempty, hother⟩), String.ofList_toList]
  simp only [ofPath, if_neg hdatabase, hoctets, Utf8.breachFrom?_encode,
    Utf8.decodeLossy_encode, hrights, hparameters]
  exact hfile

theorem connection_eq_self (hquestion : '?' ∉ path.toList)
    (hhost : ¬"//".toList <+: path.toList)
    (hscheme : ¬scheme <+: path.toList) :
    connection path = (path.toList, rights) := by
  obtain ⟨fuel, kept, hkept, heq⟩ := connection_of_not_host hquestion hhost
  have hshort : ¬scheme <+: path.toList ++ '?' :: rights := by
    rwa [prefix_append_cons_iff question_notMem_scheme]
  rw [dropRepeated_eq_self hshort, List.append_cancel_right_eq] at hkept
  rw [heq, hkept]

/-- What is taken off a path that is read as itself has no octets. -/
theorem Reads.octetLength_le (h : Reads path path) :
    Percent.octetLength path.toList ≤
      Percent.octetLength (connection path).1 := by
  rw [← Percent.length_encode, ← h.octets_eq]
  exact Percent.length_octets_le _

theorem Reads.question_notMem (h : Reads path name) : '?' ∉ path.toList := by
  intro hmem
  obtain ⟨kept, back, heq⟩ := connection_of_mem hmem
  have hlength := congrArg List.length h.rights_eq
  rw [heq, List.length_append, List.length_cons] at hlength
  omega

theorem Reads.not_host (h : Reads path path) :
    ¬"//".toList <+: path.toList := by
  rintro ⟨rest, hpath⟩
  have hquestion := h.question_notMem
  have hlength := h.octetLength_le
  rw [← hpath, List.mem_append, not_or] at hquestion
  obtain ⟨kept, hkept, heq⟩ := connection_of_host hpath.symm hquestion.2
  have hslashes : Percent.octetLength "//".toList = 2 := by decide
  have hle := Percent.octetLength_le_of_suffix hkept
  rw [heq, ← hpath, Percent.octetLength_append] at hlength
  dsimp only at hlength
  omega

theorem Reads.not_scheme (h : Reads path path) : ¬scheme <+: path.toList := by
  rintro ⟨rest, hpath⟩
  have hlength := h.octetLength_le
  obtain ⟨fuel, kept, hkept, heq⟩ :=
    connection_of_not_host h.question_notMem h.not_host
  obtain ⟨shorter, hshorter, hdropped⟩ :=
    dropRepeated_append question_notMem_scheme fuel rest rights
  rw [← hpath, List.append_assoc, dropRepeated_succ, hdropped,
    List.append_cancel_right_eq] at hkept
  have hscheme : Percent.octetLength scheme = 7 := by decide
  have hle := Percent.octetLength_le_of_suffix hshorter
  rw [heq, ← hpath, Percent.octetLength_append, ← hkept] at hlength
  dsimp only at hlength
  omega

/-- A path is read as itself exactly if it is plain. -/
theorem reads_self_iff : Reads path path ↔ Plain path := by
  constructor
  · intro h
    have heq :=
      connection_eq_self h.question_notMem h.not_host h.not_scheme
    have hoctets := h.octets_eq
    rw [heq] at hoctets
    exact ⟨h.question_notMem, h.zero_notMem,
      (Percent.octets_eq_encode_iff path).mp hoctets, h.not_scheme, h.not_host,
      h.not_uri⟩
  · intro h
    have heq :=
      connection_eq_self h.question_notMem h.not_host h.not_scheme
    refine ⟨by rw [heq], ?_, h.zero_notMem, h.not_uri⟩
    rw [heq]
    exact (Percent.octets_eq_encode_iff path).mpr h.unescaped

end Names

/-! ## Question marks -/

section Questions

theorem splitFrom_of_notMem {sep : Char} {cs : List Char} (h : sep ∉ cs)
    (part : List Char) : splitFrom sep part cs = [part.reverse ++ cs] := by
  induction cs generalizing part with
  | nil => simp [splitFrom]
  | cons c cs ih =>
      obtain ⟨hc, hcs⟩ := not_or.mp (mt List.mem_cons.mpr h)
      rw [splitFrom, if_neg (Ne.symm hc), ih hcs]
      simp

/-- The last part of a text ends as the text does. -/
theorem exists_splitAtChar_append {sep : Char} {behind : List Char}
    (h : sep ∉ behind) (cs : List Char) :
    ∃ parts last, splitAtChar sep (cs ++ behind) =
      parts ++ [last ++ behind] := by
  rw [splitAtChar]
  generalize ([] : List Char) = part
  induction cs generalizing part with
  | nil => exact ⟨[], part.reverse, splitFrom_of_notMem h part⟩
  | cons c cs ih =>
      rw [List.cons_append, splitFrom]
      split
      · obtain ⟨parts, last, heq⟩ := ih []
        exact ⟨part.reverse :: parts, last, by rw [heq, List.cons_append]⟩
      · exact ih (c :: part)

theorem question_mem_formText {cs : List Char} (h : '?' ∈ cs) :
    '?' ∈ (formText cs).toList := by
  refine Utf8.question_mem_decodeLossy (Percent.question_mem_octets ?_)
  exact List.mem_map.mpr ⟨'?', h, rfl⟩

/-- There is neither a parameter nor a value with a question mark. -/
theorem valuesOf?_of_question {name : String} {values : List String}
    (h : valuesOf? name = some values) :
    '?' ∉ name.toList ∧ ∀ value ∈ values, '?' ∉ value.toList := by
  unfold valuesOf? at h
  split at h <;> cases h <;> decide

theorem checkParameters_of_question {last : String × String}
    (h : '?' ∈ last.1.toList ∨ '?' ∈ last.2.toList)
    (system? : Option String) (others : List (String × String)) :
    checkParameters system? (others ++ [last]) ≠ .ok none := by
  induction others generalizing system? with
  | nil =>
      obtain ⟨name, value⟩ := last
      rw [List.nil_append, checkParameters]
      split
      · exact nofun
      · exact nofun
      next values _ hvalues =>
          obtain ⟨hname, hvalue⟩ := valuesOf?_of_question hvalues
          split
          next hcontains =>
              have hmem := List.contains_iff_mem.mp hcontains
              exact absurd h (not_or.mpr ⟨hname, hvalue value hmem⟩)
          · exact nofun
  | cons other others ih =>
      obtain ⟨name, value⟩ := other
      rw [List.cons_append, checkParameters]
      split
      · exact nofun
      · exact ih _
      · split
        · exact ih _
        · exact nofun

/-- What is read from a part with a question mark has one in the name of the
parameter or in its value. -/
theorem question_mem_or {part : List Char} (h : '?' ∈ part) :
    '?' ∈ (formText (part.takeWhile (· != '='))).toList ∨
      '?' ∈ (formText ((part.dropWhile (· != '=')).drop 1)).toList := by
  have hsplit := List.takeWhile_append_dropWhile (p := (· != '=')) (l := part)
  rw [← hsplit, List.mem_append] at h
  refine h.imp question_mem_formText fun hmem => question_mem_formText ?_
  have hhead := List.head?_dropWhile_not (· != '=') part
  cases hrest : part.dropWhile (· != '=') with
  | nil =>
      rw [hrest] at hmem
      cases hmem
  | cons c rest =>
      rw [hrest] at hmem hhead
      have hc : c = '=' := by simpa using hhead
      exact (List.mem_cons.mp hmem).resolve_left (by rw [hc]; decide)

/-- A path with a question mark leads nowhere. -/
theorem exists_fault_of_question {path : String} (h : '?' ∈ path.toList) :
    ∃ fault, ofPath path = .error fault := by
  obtain ⟨kept, back, heq⟩ := connection_of_mem h
  have hparameters : checkParameters none (parameters (back ++ '?' :: rights)) ≠
      .ok none := by
    obtain ⟨parts, last, hparts⟩ :=
      exists_splitAtChar_append (by decide : '&' ∉ '?' :: rights) back
    have hmem : '?' ∈ last ++ '?' :: rights :=
      List.mem_append_right _ List.mem_cons_self
    have hlast : [last ++ '?' :: rights].filter (!·.isEmpty) =
        [last ++ '?' :: rights] :=
      List.filter_cons_of_pos (by simp)
    rw [parameters, hparts, List.filter_append, hlast, List.map_append,
      List.map_singleton]
    refine checkParameters_of_question ?_ none _
    exact question_mem_or hmem
  simp only [ofPath, heq]
  generalize parameters (back ++ '?' :: rights) = read at hparameters ⊢
  -- A name that is not text is at fault before the parameters are.
  cases hchecked : checkParameters none read with
  | ok system? =>
      cases system? with
      | none => exact absurd hchecked hparameters
      | some system =>
          split
          · exact ⟨_, rfl⟩
          · split <;> exact ⟨_, rfl⟩
  | error fault =>
      split
      · exact ⟨fault, rfl⟩
      · split <;> exact ⟨_, rfl⟩

end Questions

end Newsstand.Location
