import Newsstand.Proofs.Aggregator.Subscribing
import Newsstand.Proofs.Outline.Truncation

/-!
# Imports

An import joins the feeds of a file to the list of a user: behind what was there
it puts what is new, in the order of the file, and so a second import finds
nothing to add.  Where the file cannot be read, the user is blank or the store is
closed, nothing is changed.
-/

namespace Newsstand

/-- URLs that are added one after another stand behind the old ones if they are
new. -/
theorem Roll.foldl_add (roll : Roll) (user : String) {urls : List String}
    (h : urls.Nodup) :
    urls.foldl (·.add user) roll =
      Function.update roll user
        (roll user ++ urls.filter (· ∉ roll user)) := by
  induction urls generalizing roll with
  | nil => rw [List.foldl_nil, List.filter_nil, List.append_nil,
      Function.update_eq_self]
  | cons url urls ih =>
      obtain ⟨hnew, hurls⟩ := List.nodup_cons.mp h
      rw [List.foldl_cons, ih _ hurls]
      by_cases hmem : url ∈ roll user
      · rw [add_of_mem hmem, List.filter_cons_of_neg (by simpa using hmem)]
      · have hothers : urls.filter (· ∉ roll user ++ [url]) =
            urls.filter (· ∉ roll user) := by
          refine List.filter_congr fun other hother => ?_
          have hne : other ≠ url := ne_of_mem_of_not_mem hother hnew
          simp [hne]
        rw [add_of_not_mem hmem, Function.update_idem, Function.update_self,
          hothers, List.filter_cons_of_pos (by simpa using hmem),
          List.append_assoc, List.singleton_append]

/-- Adding them once more changes nothing. -/
theorem Roll.foldl_add_twice (roll : Roll) (user : String) {urls : List String}
    (h : urls.Nodup) :
    urls.foldl (·.add user) (urls.foldl (·.add user) roll) =
      urls.foldl (·.add user) roll := by
  have hthere : urls.filter (· ∉ urls.foldl (·.add user) roll user) = [] := by
    rw [List.filter_eq_nil_iff, roll.foldl_add user h, Function.update_self]
    intro url hurl
    by_cases hmem : url ∈ roll user <;> simp [hmem, hurl]
  rw [foldl_add _ user h, hthere, List.append_nil, Function.update_eq_self]

namespace Aggregator

variable {a : Aggregator} {user : String} {file : FileRead}
  {urls : List String}

/-- The feeds of a file are distinct, and each of them can be subscribed to. -/
theorem nodup_and_subscribable_of_read {text : String}
    (h : (Outline.read text).1 = .ok urls) :
    urls.Nodup ∧ ∀ url ∈ urls, Subscribable url := by
  obtain rfl := Outline.eq_listed_of_readTranscript h
  refine ⟨nodup_eraseDups _, fun url hurl => ?_⟩
  rw [Outline.listed, List.mem_eraseDups] at hurl
  obtain ⟨tag, -, htag⟩ := List.mem_filterMap.mp hurl
  obtain ⟨htrimmed, hreadable⟩ := Outline.feedUrl?_eq_some htag
  exact ⟨htrimmed, hreadable⟩

theorem readOutline_eq_ok (h : (readOutline file).1 = .ok urls) :
    ∃ text, FileRead.text file = .ok text ∧
      (Outline.read text).1 = .ok urls := by
  unfold readOutline at h
  split at h
  · cases h
  next text htext =>
      refine ⟨text, htext, ?_⟩
      rcases hread : Outline.read text with ⟨result, log⟩
      simp only [hread] at h
      cases result with
      | error fault => cases h
      | ok found => exact congrArg Except.ok (Except.ok.inj h)

theorem importOutline_of_error {fault : ImportFault}
    (h : (readOutline file).1 = .error fault) :
    (a.importOutline user file).1 = .error fault ∧
      (a.importOutline user file).2.1 = a := by
  rcases hread : readOutline file with ⟨result, log⟩
  rw [hread] at h
  obtain rfl : result = .error fault := h
  simp only [importOutline, hread, and_self]

/-- An import in which no URL is taken. -/
theorem importOutline_of_refused (hread : (readOutline file).1 = .ok urls)
    (h : ∀ url, ∃ fault, a.subscribe user url = (.error fault, a, [])) :
    (a.importOutline user file).1 = .ok ⟨urls.length, 0⟩ ∧
      (a.importOutline user file).2.1 = a := by
  obtain ⟨text, htext, houtline⟩ := readOutline_eq_ok hread
  obtain ⟨hsummary, hnext⟩ := a.importOutline_of_read user htext houtline
  obtain ⟨hnumber, hsame⟩ := subscribeAll_of_refused h urls
  rw [hsummary, hnext, hnumber]
  exact ⟨rfl, hsame⟩

/-- An import into a store that is open. -/
theorem importOutline_of_holds {roll : Roll} (h : a.storage.Holds a.store roll)
    (huser : ¬Text.isBlankString user)
    (hread : (readOutline file).1 = .ok urls) :
    (a.importOutline user file).1 = .ok ⟨urls.length, urls.length⟩ ∧
      ∃ storage, (a.importOutline user file).2.1 = { a with storage } ∧
        storage.Holds a.store (urls.foldl (·.add user) roll) := by
  obtain ⟨text, htext, houtline⟩ := readOutline_eq_ok hread
  obtain ⟨hsummary, hnext⟩ := a.importOutline_of_read user htext houtline
  obtain ⟨-, hurls⟩ := nodup_and_subscribable_of_read houtline
  obtain ⟨hnumber, hlater⟩ := subscribeAll_of_holds h huser hurls
  rw [hsummary, hnext, hnumber]
  exact ⟨rfl, hlater⟩

/-- An import of a file that cannot be read fails and changes nothing.  That of a
readable one counts its feeds.  If the user is not blank and the store is open,
it puts the feeds that are new behind the others in the order of the file, leaves
the lists of other users as they are, and changes nothing when it is made again.
For a blank user or in a closed store it takes none of the feeds. -/
theorem import_joins_feeds (directory : Directory) (past : List Storage.Step)
    (store : Store)
    (hstore : ((Storage.Run.start directory).steps past).storage.Has store)
    (fetcher : Fetcher) (user : String) (file : FileRead) :
    let a : Aggregator :=
      ⟨((Storage.Run.start directory).steps past).storage, store, fetcher⟩
    let b := (a.importOutline user file).2.1
    (∀ fault, (readOutline file).1 = .error fault →
      (a.importOutline user file).1 = .error fault ∧ b = a) ∧
      ∀ urls, (readOutline file).1 = .ok urls →
        ((Text.isBlankString user ∨ ¬a.storage.isOpen store) →
          (a.importOutline user file).1 = .ok ⟨urls.length, 0⟩ ∧ b = a) ∧
        (¬Text.isBlankString user → a.storage.isOpen store →
          (a.importOutline user file).1 = .ok ⟨urls.length, urls.length⟩ ∧
          (∃ old, a.urls user = .ok old ∧
            b.urls user = .ok (old ++ urls.filter (· ∉ old))) ∧
          (∀ other, other ≠ user → b.urls other = a.urls other) ∧
          (b.importOutline user file).1 = .ok ⟨urls.length, urls.length⟩ ∧
          ∀ anyone,
            (b.importOutline user file).2.1.urls anyone = b.urls anyone) := by
  intro a b
  refine ⟨fun fault hread => importOutline_of_error hread,
    fun urls hread => ⟨fun hrefused => ?_, fun huser hopen => ?_⟩⟩
  · refine importOutline_of_refused hread fun url => ?_
    rcases hrefused with hblank | hclosed
    · obtain ⟨fault, hcheck⟩ := checkSubscription_of_blank hblank url
      exact ⟨fault, subscribe_of_error hcheck⟩
    · exact subscribe_of_not_isOpen hclosed user url
  · have hrooted : a.storage.Rooted :=
      Storage.Run.rooted_steps_start directory past
    obtain ⟨roll, hholds⟩ := hrooted.holds hstore hopen
    obtain ⟨text, -, houtline⟩ := readOutline_eq_ok hread
    obtain ⟨hdistinct, -⟩ := nodup_and_subscribable_of_read houtline
    obtain ⟨hsummary, storage, hb, hlater⟩ :=
      importOutline_of_holds hholds huser hread
    have hheld : b.storage.Holds b.store (urls.foldl (·.add user) roll) := by
      simp only [b, hb]
      exact hlater
    obtain ⟨hagain, last, hc, hlast⟩ := importOutline_of_holds hheld huser hread
    rw [Roll.foldl_add_twice roll user hdistinct] at hlast
    rw [Roll.foldl_add roll user hdistinct] at hheld hlast
    refine ⟨hsummary, ⟨roll user, hholds.list user, ?_⟩, fun other hother => ?_,
      hagain, fun anyone => ?_⟩
    · rw [Aggregator.urls, hheld.list user, Function.update_self]
    · rw [Aggregator.urls, Aggregator.urls, hheld.list other,
        hholds.list other, Function.update_of_ne hother]
    · rw [hc, Aggregator.urls, Aggregator.urls, hlast.list anyone,
        hheld.list anyone]

/-- A feed of the file comes in, one is in the list already, and one cannot be
subscribed to; a blank user gets none of them. -/
theorem import_joins_feeds_behind_old_ones :
    let content := "<opml><outline xmlUrl=' http://c.test/'/>"
      ++ "<outline xmlUrl='http://a.test/'/><outline xmlUrl='ftp://b/'/></opml>"
    let file : FileRead := .ok content.toUTF8.toList
    let past : List Storage.Step :=
      [.openAs "s" {}, .act "s" (.add "ann" "http://a.test/"),
        .act "s" (.add "bob" "http://c.test/")]
    let storage := ((Storage.Run.start ⟨[]⟩).steps past).storage
    let a : Aggregator :=
      ⟨storage, .volatile 0, .ofConfig {} {} (.scripted [])⟩
    let b := (a.importOutline "ann" file).2.1
    storage.Has (.volatile 0) ∧
      (readOutline file).1 =
        .ok ["http://c.test/", "http://a.test/"] ∧
      (a.importOutline "ann" file).1 = .ok ⟨2, 2⟩ ∧
      b.urls "ann" = .ok ["http://a.test/", "http://c.test/"] ∧
      b.urls "bob" = .ok ["http://c.test/"] ∧
      (b.importOutline "ann" file).1 = .ok ⟨2, 2⟩ ∧
      (b.importOutline "ann" file).2.1.urls "ann" = b.urls "ann" ∧
      (a.importOutline " " file).1 = .ok ⟨2, 0⟩ := by
  intro content file past storage a b
  have hhas : storage.Has (.volatile 0) := Nat.zero_lt_one
  have hread : (readOutline file).1 =
      .ok ["http://c.test/", "http://a.test/"] := by
    decide +kernel
  have hann : a.urls "ann" = .ok ["http://a.test/"] := by decide +kernel
  have hbob : a.urls "bob" = .ok ["http://c.test/"] := by decide +kernel
  obtain ⟨-, himport⟩ :=
    import_joins_feeds ⟨[]⟩ past (.volatile 0) hhas a.fetcher "ann" file
  obtain ⟨hsummary, ⟨old, hold, hnew⟩, hothers, hagain, hsame⟩ :=
    (himport _ hread).2 (by decide) rfl
  obtain rfl : old = ["http://a.test/"] := Except.ok.inj (hold.symm.trans hann)
  obtain ⟨-, hblank⟩ :=
    import_joins_feeds ⟨[]⟩ past (.volatile 0) hhas a.fetcher " " file
  exact ⟨hhas, hread, hsummary, hnew.trans (by decide +kernel),
    (hothers "bob" (by decide)).trans hbob, hagain, hsame "ann",
    ((hblank _ hread).1 (Or.inl (by decide))).1⟩

end Aggregator

end Newsstand
