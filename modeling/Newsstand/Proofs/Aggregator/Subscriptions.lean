import Newsstand.Aggregator.Session
import Newsstand.Proofs.Aggregator.Import
import Newsstand.Proofs.Fetch.Requests
import Newsstand.Proofs.Store.Distinctness

/-!
# What is subscribed to

Whatever is done with an aggregator whose store was empty, each list holds
trimmed feed URLs of a user who is not blank, and each of them once.  So whatever
is listed passes the checks of later calls: it can be removed, and a fetch gets
as far as the client takes its URL.
-/

namespace Newsstand

open Newsstand.Text

/-- Lists that an aggregator can have made. -/
structure Roll.Proper (roll : Roll) : Prop where
  distinct : roll.Distinct
  subscribable : ∀ user, ∀ url ∈ roll user, Subscribable url
  named : ∀ user, roll user ≠ [] → ¬isBlankString user

namespace Roll

variable {roll : Roll} {user url : String}

theorem proper_of_empty (h : ∀ user, roll user = []) : roll.Proper := by
  obtain rfl : roll = empty := funext h
  exact ⟨distinct_empty, by simp [empty], by simp [empty]⟩

theorem Proper.add (h : roll.Proper) (huser : ¬isBlankString user)
    (hurl : Subscribable url) : (roll.add user url).Proper := by
  refine ⟨h.distinct.add user url, fun other held hheld => ?_,
    fun other hother => ?_⟩
  · rcases mem_add.mp hheld with hheld | ⟨-, rfl⟩
    · exact h.subscribable other held hheld
    · exact hurl
  · obtain ⟨held, hheld⟩ := List.exists_mem_of_ne_nil _ hother
    rcases mem_add.mp hheld with hheld | ⟨rfl, -⟩
    · exact h.named other (List.ne_nil_of_mem hheld)
    · exact huser

theorem Proper.remove (h : roll.Proper) (user url : String) :
    (roll.remove user url).Proper := by
  refine ⟨h.distinct.remove user url, fun other held hheld => ?_,
    fun other hother => ?_⟩
  · exact h.subscribable other held (mem_remove.mp hheld).1
  · obtain ⟨held, hheld⟩ := List.exists_mem_of_ne_nil _ hother
    exact h.named other (List.ne_nil_of_mem (mem_remove.mp hheld).1)

end Roll

namespace Aggregator

variable {a : Aggregator}

/-- The store of an aggregator is closed, or it holds proper lists. -/
def Kept (a : Aggregator) : Prop :=
  (∃ roll, a.storage.Holds a.store roll ∧ roll.Proper) ∨
    ¬a.storage.isOpen a.store

theorem Kept.subscribe (h : a.Kept) (user url : String) :
    (a.subscribe user url).2.1.Kept := by
  rcases h with ⟨roll, hholds, hproper⟩ | hclosed
  · cases hcheck : checkSubscription user url with
    | error fault =>
        rw [subscribe_of_error hcheck]
        exact Or.inl ⟨roll, hholds, hproper⟩
    | ok listed =>
        obtain ⟨rfl, huser, hurl⟩ := checkSubscription_eq_ok_iff.mp hcheck
        obtain ⟨storage, log, hsubscribe, hlater⟩ :=
          subscribe_of_holds hholds hcheck
        rw [hsubscribe]
        exact Or.inl ⟨_, hlater, hproper.add huser hurl⟩
  · obtain ⟨fault, hsubscribe⟩ := subscribe_of_not_isOpen hclosed user url
    rw [hsubscribe]
    exact Or.inr hclosed

theorem Kept.unsubscribe (h : a.Kept) (user url : String) :
    (a.unsubscribe user url).2.1.Kept := by
  rcases h with ⟨roll, hholds, hproper⟩ | hclosed
  · cases hcheck : checkSubscription user url with
    | error fault =>
        rw [unsubscribe_of_error hcheck]
        exact Or.inl ⟨roll, hholds, hproper⟩
    | ok listed =>
        obtain ⟨storage, log, hunsubscribe, hlater⟩ :=
          unsubscribe_of_holds hholds hcheck
        rw [hunsubscribe]
        exact Or.inl ⟨_, hlater, hproper.remove user listed⟩
  · obtain ⟨fault, hunsubscribe⟩ := unsubscribe_of_not_isOpen hclosed user url
    rw [hunsubscribe]
    exact Or.inr hclosed

theorem Kept.subscribeAll (h : a.Kept) (user : String) (urls : List String) :
    (a.subscribeAll user urls).2.1.Kept := by
  induction urls generalizing a with
  | nil => exact h
  | cons url urls ih =>
      have hnext := ih (h.subscribe user url)
      simp only [Aggregator.subscribeAll]
      split
      next b log heq =>
          rw [heq] at hnext
          exact hnext
      next fault b log heq =>
          rw [heq] at hnext
          exact hnext

theorem Kept.importOutline (h : a.Kept) (user : String) (file : FileRead) :
    (a.importOutline user file).2.1.Kept := by
  simp only [Aggregator.importOutline]
  split
  · exact h
  next urls log heq => exact h.subscribeAll user urls

theorem Kept.close (h : a.Kept) : a.close.Kept := by
  cases hstore : a.store with
  | volatile number =>
      have hsame : a.storage.close a.store = a.storage := by rw [hstore]; rfl
      rw [Aggregator.close, hsame]
      exact h
  | durable number =>
      refine Or.inr ?_
      simp only [Aggregator.close, hstore, Storage.isOpen,
        Storage.connection?_close, Option.isSome_none, Bool.false_eq_true,
        not_false_eq_true]

/-- An aggregator over a store that is empty, be it open or closed. -/
theorem kept_of_empty (hrooted : a.storage.Rooted)
    (hstore : a.storage.Has a.store)
    (hempty : ∀ user urls, a.urls user = .ok urls → urls = []) : a.Kept := by
  by_cases hopen : a.storage.isOpen a.store
  · obtain ⟨roll, hholds⟩ := hrooted.holds hstore hopen
    exact Or.inl ⟨roll, hholds, Roll.proper_of_empty fun user =>
      hempty user _ (hholds.list user)⟩
  · exact Or.inr hopen

/-- What is listed is one of the proper lists. -/
theorem Kept.exists_proper (h : a.Kept) {user : String}
    {urls : List String} (hurls : a.urls user = .ok urls) :
    ∃ roll, a.storage.Holds a.store roll ∧ roll.Proper ∧ roll user = urls := by
  rcases h with ⟨roll, hholds, hproper⟩ | hclosed
  · have hlist := hholds.list user
    exact ⟨roll, hholds, hproper, Except.ok.inj (hlist.symm.trans hurls)⟩
  · obtain ⟨number, hstore, hnone⟩ :=
      Storage.connection?_eq_none_of_not_isOpen hclosed
    simp only [Aggregator.urls, Storage.list, hstore, hnone] at hurls
    cases hurls

/-- A URL that is listed is taken off the list of its user alone, whatever blanks
are put around it. -/
theorem unsubscribe_of_mem {roll : Roll} {user url : String}
    (hholds : a.storage.Holds a.store roll) (hproper : roll.Proper)
    (hurl : url ∈ roll user) {before after : String}
    (hbefore : isBlankString before) (hafter : isBlankString after) :
    (a.unsubscribe user (before ++ url ++ after)).1 = .ok () ∧
      ∀ other, (a.unsubscribe user (before ++ url ++ after)).2.1.urls other =
        .ok (roll.remove user url other) := by
  have hsubscribable := hproper.subscribable user url hurl
  have htrim : trim (before ++ url ++ after) = url := by
    rw [trim_append_blanks hbefore hafter, hsubscribable.trimmed]
  have huser := hproper.named user (List.ne_nil_of_mem hurl)
  have hcheck : checkSubscription user (before ++ url ++ after) = .ok url :=
    checkSubscription_eq_ok_iff.mpr
      ⟨htrim.symm, huser, htrim.symm ▸ hsubscribable⟩
  obtain ⟨storage, log, hunsubscribe, hlater⟩ :=
    unsubscribe_of_holds hholds hcheck
  rw [hunsubscribe]
  exact ⟨rfl, fun other => hlater.list other⟩

/-- What is kept does not depend on the fetcher. -/
theorem Kept.withFetcher (h : a.Kept) (fetcher : Fetcher) :
    ({ a with fetcher } : Aggregator).Kept := h

theorem Kept.list (h : a.Kept) (user : String) : (a.list user).2.1.Kept := by
  simp only [Aggregator.list]
  split
  · exact h
  · simp only [ofSweep]
    split <;> exact h.withFetcher _

end Aggregator

namespace Session

open Newsstand.Aggregator

theorem kept_step {s : Session} (h : s.aggregator.Kept) (step : Step) :
    (s.step step).2.1.aggregator.Kept := by
  cases step with
  | subscribe user url => exact h.subscribe user url
  | unsubscribe user url => exact h.unsubscribe user url
  | urls user =>
      simp only [Session.step]
      split <;> exact h
  | list user =>
      have hlist := h.list user
      simp only [Session.step]
      split <;>
        next heq =>
          rw [heq] at hlist
          exact hlist
  | fetch url =>
      simp only [Session.step]
      split <;> exact h.withFetcher _
  | tryFetch url =>
      simp only [Session.step]
      split <;> exact h.withFetcher _
  | importOutline user file =>
      have himport := h.importOutline user file
      simp only [Session.step]
      split <;>
        next heq =>
          rw [heq] at himport
          exact himport
  | health => exact h
  | advance ms =>
      simp only [Session.step]
      split
      · exact h.withFetcher _
      · exact h
  | close => exact h.close
  | hold =>
      simp only [Session.step, Session.hold]
      split <;> exact h.withFetcher _
  | release =>
      simp only [Session.step]
      split
      · exact h
      · exact h.withFetcher _

theorem kept_steps {s : Session} (h : s.aggregator.Kept) (steps : List Step) :
    (s.steps steps).aggregator.Kept := by
  induction steps generalizing s with
  | nil => exact h
  | cons step steps ih => exact ih (kept_step h step)

/-! ## What is listed -/

/-- Whatever is done with an aggregator whose store was empty, a list holds
trimmed feed URLs, each of them once, and its user is not blank.  A URL that is
listed can be removed, also with blanks around it, which leaves all others in
their order.  A fetch of it does not fail because it would be no URL; where the
client does not take a URL, this one is too long or has a quote or a brace in its
host, or a server has been asked, so that the URL comes from a redirect. -/
theorem lists_hold_feeds (directory : Directory) (past : List Storage.Step)
    (store : Store)
    (hstore : ((Storage.Run.start directory).steps past).storage.Has store)
    (hempty : ∀ user urls,
      ((Storage.Run.start directory).steps past).storage.list store user =
        .ok urls → urls = [])
    (fetcher : Fetcher) (byHand : Bool) (held : ℕ) (steps : List Step) :
    let storage := ((Storage.Run.start directory).steps past).storage
    let a := (Session.steps ⟨⟨storage, store, fetcher⟩, byHand, held⟩
      steps).aggregator
    ∀ user urls, a.urls user = .ok urls →
      urls.Nodup ∧ (urls ≠ [] → ¬isBlankString user) ∧
        ∀ url ∈ urls,
          trim url = url ∧
          (∀ before after, isBlankString before → isBlankString after →
            let removed := a.unsubscribe user (before ++ url ++ after)
            removed.1 = .ok () ∧
              removed.2.1.urls user = .ok (urls.filter (· ≠ url)) ∧
              ∀ other, other ≠ user → removed.2.1.urls other = a.urls other) ∧
          ∃ target, Url.readFeedUrl url = .ok target ∧
            ∀ (f g : Fetcher) fault log,
              f.tryFetch url = (some (.error (.request fault)), g, log) →
              fault ≠ .notUrl ∧ ∀ text, fault = .unsupported text →
                (text = target.withoutCredentials.text ∧
                    target.withoutCredentials.Unaskable) ∨
                  f.requests.length < g.requests.length := by
  intro storage a user urls hurls
  have hstart : (Aggregator.mk storage store fetcher).Kept :=
    kept_of_empty (Storage.Run.rooted_steps_start directory past) hstore hempty
  have hkept : a.Kept :=
    kept_steps (s := ⟨⟨storage, store, fetcher⟩, byHand, held⟩) hstart steps
  obtain ⟨roll, hholds, hproper, rfl⟩ := hkept.exists_proper hurls
  refine ⟨hproper.distinct user, hproper.named user, fun url hurl => ?_⟩
  obtain ⟨htrim, target, htarget⟩ := hproper.subscribable user url hurl
  refine ⟨htrim, ?_, target, htarget, fun f g fault log hfetch =>
    Fetcher.fault_of_tryFetch htrim htarget hfetch⟩
  intro before after hbefore hafter removed
  obtain ⟨hresult, hlists⟩ :=
    unsubscribe_of_mem hholds hproper hurl hbefore hafter
  refine ⟨hresult, ?_, fun other hother => ?_⟩
  · rw [hlists user, Roll.remove, Function.update_self]
  · rw [hlists other, Roll.remove, Function.update_of_ne hother,
      Aggregator.urls, hholds.list other]

/-- A feed is read from a file and another one is asked for with blanks; one user
is blank.  The first one is removed with blanks around it. -/
theorem lists_hold_feeds_of_file :
    let content := "<outline xmlUrl='http://b.test/'/>"
    let file : FileRead := .ok content.toUTF8.toList
    let fetcher := Fetcher.ofConfig {} {} (.scripted [])
    let past : List Storage.Step := [.openAs "s" {}]
    let storage := ((Storage.Run.start ⟨[]⟩).steps past).storage
    let a := (Session.steps ⟨⟨storage, .volatile 0, fetcher⟩, false, 0⟩
      [.subscribe "ann" " http://a.test/", .subscribe " " "http://a.test/",
        .importOutline "ann" file]).aggregator
    let removed := a.unsubscribe "ann" "\thttp://a.test/ "
    storage.Has (.volatile 0) ∧
      a.urls "ann" = .ok ["http://a.test/", "http://b.test/"] ∧
      a.urls " " = .ok [] ∧ removed.1 = .ok () ∧
      removed.2.1.urls "ann" = .ok ["http://b.test/"] := by
  intro content file fetcher past storage a removed
  have hhas : storage.Has (.volatile 0) := Nat.zero_lt_one
  have hempty : ∀ user urls, storage.list (.volatile 0) user = .ok urls →
      urls = [] := fun user urls h => (Except.ok.inj h).symm
  have hann : a.urls "ann" = .ok ["http://a.test/", "http://b.test/"] := by
    decide +kernel
  have hblank : a.urls " " = .ok [] := by decide +kernel
  obtain ⟨-, -, hfeeds⟩ := lists_hold_feeds ⟨[]⟩ past (.volatile 0) hhas hempty
    fetcher false 0 _ "ann" _ hann
  obtain ⟨-, hremove, -⟩ := hfeeds "http://a.test/" (by decide)
  obtain ⟨hresult, hleft, -⟩ := hremove "\t" " " (by decide) (by decide)
  exact ⟨hhas, hann, hblank, hresult, hleft.trans (by decide +kernel)⟩

/-- That a URL is listed is not enough for it to be requested: the client does not
take this host, which a feed may have. -/
theorem lists_feed_that_cannot_be_requested :
    let url := "http://a\x7bb/"
    let storage :=
      ((Storage.Run.start ⟨[]⟩).steps [.openAs "s" {}]).storage
    let fetcher := Fetcher.ofConfig {} {} .unreachable
    let a := (Session.steps ⟨⟨storage, .volatile 0, fetcher⟩, false, 0⟩
      [.subscribe "ann" url]).aggregator
    let fault : FetchFault := .request (.unsupported url)
    (∀ user, storage.list (.volatile 0) user = .ok []) ∧
      a.urls "ann" = .ok [url] ∧
      (a.fetcher.tryFetch url).1 = some (.error fault) ∧
      (a.fetcher.tryFetch url).2.1.requests = [] ∧
      fault.message =
        "Request failed: builder error for url (http://a\x7bb/)" := by
  intro url storage fetcher a fault
  have hread : Url.read url = .ok ⟨"http", "", "", some (.name "a\x7bb"), none,
      .segments [""], none, none⟩ := by decide +kernel
  have htrim : trim url = url := by decide +kernel
  have hcheck : checkSubscription "ann" url = .ok url :=
    checkSubscription_of_subscribable (by decide) ⟨htrim, _, by
      rw [Url.readFeedUrl, htrim, hread]
      rfl⟩
  have hasked : Url.readRequest url = .error (.unsupported url) := by
    rw [Url.readRequest, hread]
    decide +kernel
  obtain ⟨later, log, hsubscribe, hholds⟩ :=
    subscribe_of_holds (a := ⟨storage, .volatile 0, fetcher⟩)
      (Storage.holds_openVolatile (Storage.start ⟨[]⟩)) hcheck
  -- Both are said of all texts, so that nothing is evaluated for this one.
  have hstep : ∀ (s : Session) (user url : String),
      (s.steps [.subscribe user url]).aggregator =
        (s.aggregator.subscribe user url).2.1 := fun _ _ _ => rfl
  have hfetch : ∀ text, (fetcher.tryFetch text).1 =
        some (Network.unreachable.download {} text).result ∧
      (fetcher.tryFetch text).2.1.requests =
        (Network.unreachable.download {} text).requests := fun text => ⟨rfl, rfl⟩
  have ha := hstep ⟨⟨storage, .volatile 0, fetcher⟩, false, 0⟩ "ann" url
  simp only [hsubscribe] at ha
  simp only [a, ha]
  refine ⟨fun user => rfl, hholds.list "ann", ?_, ?_, by decide +kernel⟩
  · rw [(hfetch url).1, Network.download, hasked]
  · rw [(hfetch url).2, Network.download, hasked]

end Session

end Newsstand
