import Newsstand.Aggregator.Basic
import Newsstand.Proofs.Store.Rows
import Newsstand.Proofs.Url.FeedUrl

/-!
# Subscribing

What an aggregator does when a user subscribes or ends a subscription, in terms
of what its store holds.  The URL is checked first, and its text goes into the
store without the blanks around it; a store that is closed takes nothing.
-/

namespace Newsstand

open Newsstand.Text

/-- A trimmed text that is the URL of a feed. -/
structure Subscribable (url : String) : Prop where
  trimmed : trim url = url
  readable : ∃ target, Url.readFeedUrl url = .ok target

namespace Aggregator

variable {a : Aggregator} {roll : Roll} {user url listed : String}

/-! ## The check -/

/-- What comes out of the check is the trimmed text, if that is the URL of a feed
and the user is not blank. -/
theorem checkSubscription_eq_ok_iff :
    checkSubscription user url = .ok listed ↔
      listed = trim url ∧ ¬isBlankString user ∧ Subscribable (trim url) := by
  simp only [checkSubscription, bind, Except.bind, pure, Except.pure]
  cases hvalid : requireUserAndUrl user (trim url) with
  | error fault =>
      refine iff_of_false (by simp) fun ⟨_, huser, hsubscribable⟩ => ?_
      obtain ⟨target, htarget⟩ := hsubscribable.readable
      have hurl := Url.not_isBlankString_of_readFeedUrl htarget
      rw [Storage.requireUserAndUrl_eq_ok_iff.mpr ⟨huser, hurl⟩] at hvalid
      cases hvalid
  | ok =>
      have huser := (Storage.requireUserAndUrl_eq_ok_iff.mp hvalid).1
      cases htarget : Url.readFeedUrl (trim url) with
      | error fault =>
          refine iff_of_false (by simp [Except.mapError]) fun h => ?_
          obtain ⟨target, hother⟩ := h.2.2.readable
          rw [htarget] at hother
          cases hother
      | ok target =>
          simp only [Except.mapError, Except.ok.injEq]
          refine ⟨fun h => ?_, fun h => h.1.symm⟩
          exact ⟨h.symm, huser, trim_trim url, target, htarget⟩

theorem checkSubscription_of_subscribable (huser : ¬isBlankString user)
    (h : Subscribable url) : checkSubscription user url = .ok url :=
  checkSubscription_eq_ok_iff.mpr
    ⟨h.trimmed.symm, huser, h.trimmed.symm ▸ h⟩

theorem checkSubscription_of_blank (h : isBlankString user) (url : String) :
    ∃ fault, checkSubscription user url = .error fault := by
  cases hcheck : checkSubscription user url with
  | error fault => exact ⟨fault, rfl⟩
  | ok listed => exact absurd h (checkSubscription_eq_ok_iff.mp hcheck).2.1

theorem requireUserAndUrl_of_checkSubscription
    (h : checkSubscription user url = .ok listed) :
    requireUserAndUrl user listed = .ok () := by
  obtain ⟨rfl, huser, hsubscribable⟩ := checkSubscription_eq_ok_iff.mp h
  obtain ⟨target, htarget⟩ := hsubscribable.readable
  exact Storage.requireUserAndUrl_eq_ok_iff.mpr
    ⟨huser, Url.not_isBlankString_of_readFeedUrl htarget⟩

/-! ## Changes -/

theorem subscribe_of_error {fault : StoreFault}
    (h : checkSubscription user url = .error fault) :
    a.subscribe user url = (.error fault, a, []) := by
  rw [subscribe, h]

theorem unsubscribe_of_error {fault : StoreFault}
    (h : checkSubscription user url = .error fault) :
    a.unsubscribe user url = (.error fault, a, []) := by
  rw [unsubscribe, h]

/-- In a store that is open a valid URL is put behind the others of its user. -/
theorem subscribe_of_holds (h : a.storage.Holds a.store roll)
    (hcheck : checkSubscription user url = .ok listed) :
    ∃ storage log, a.subscribe user url = (.ok (), { a with storage }, log) ∧
      storage.Holds a.store (roll.add user listed) := by
  have hvalid := requireUserAndUrl_of_checkSubscription hcheck
  obtain ⟨hok, hholds⟩ := h.add hvalid
  rcases hadd : a.storage.add a.store user listed with ⟨result, storage, log⟩
  rw [hadd] at hok hholds
  obtain rfl : result = .ok () := hok
  exact ⟨storage, log ++ [reportSubscribed user listed],
    by simp only [subscribe, hcheck, hadd], hholds⟩

theorem unsubscribe_of_holds (h : a.storage.Holds a.store roll)
    (hcheck : checkSubscription user url = .ok listed) :
    ∃ storage log, a.unsubscribe user url = (.ok (), { a with storage }, log) ∧
      storage.Holds a.store (roll.remove user listed) := by
  have hvalid := requireUserAndUrl_of_checkSubscription hcheck
  obtain ⟨hok, hholds⟩ := h.remove hvalid
  rcases hremove : a.storage.remove a.store user listed with
    ⟨result, storage, log⟩
  rw [hremove] at hok hholds
  obtain rfl : result = .ok () := hok
  exact ⟨storage, log ++ [reportUnsubscribed user listed],
    by simp only [unsubscribe, hcheck, hremove], hholds⟩

/-- A store that is closed refuses whatever it is asked, and stays as it is. -/
theorem subscribe_of_not_isOpen (h : ¬a.storage.isOpen a.store)
    (user url : String) :
    ∃ fault, a.subscribe user url = (.error fault, a, []) := by
  obtain ⟨number, hstore, hnone⟩ :=
    Storage.connection?_eq_none_of_not_isOpen h
  cases hcheck : checkSubscription user url with
  | error fault => exact ⟨fault, subscribe_of_error hcheck⟩
  | ok listed =>
      have hvalid := requireUserAndUrl_of_checkSubscription hcheck
      have hadd : a.storage.add a.store user listed =
          (.error .closed, a.storage, []) := by
        simp only [Storage.add, hvalid, hstore, hnone]
      exact ⟨.closed, by simp only [subscribe, hcheck, hadd]⟩

theorem unsubscribe_of_not_isOpen (h : ¬a.storage.isOpen a.store)
    (user url : String) :
    ∃ fault, a.unsubscribe user url = (.error fault, a, []) := by
  obtain ⟨number, hstore, hnone⟩ :=
    Storage.connection?_eq_none_of_not_isOpen h
  cases hcheck : checkSubscription user url with
  | error fault => exact ⟨fault, unsubscribe_of_error hcheck⟩
  | ok listed =>
      have hvalid := requireUserAndUrl_of_checkSubscription hcheck
      have hremove : a.storage.remove a.store user listed =
          (.error .closed, a.storage, []) := by
        simp only [Storage.remove, hvalid, hstore, hnone]
      exact ⟨.closed, by simp only [unsubscribe, hcheck, hremove]⟩

/-! ## Several URLs -/

/-- Where no URL is taken, nothing is changed. -/
theorem subscribeAll_of_refused
    (h : ∀ url, ∃ fault, a.subscribe user url = (.error fault, a, []))
    (urls : List String) :
    (a.subscribeAll user urls).1 = 0 ∧ (a.subscribeAll user urls).2.1 = a := by
  induction urls with
  | nil => exact ⟨rfl, rfl⟩
  | cons url urls ih =>
      obtain ⟨fault, hrefused⟩ := h url
      simp only [subscribeAll, hrefused]
      exact ih

/-- Where all URLs are valid, all are taken, one after another. -/
theorem subscribeAll_of_holds (h : a.storage.Holds a.store roll)
    (huser : ¬isBlankString user) {urls : List String}
    (hurls : ∀ url ∈ urls, Subscribable url) :
    (a.subscribeAll user urls).1 = urls.length ∧
      ∃ storage, (a.subscribeAll user urls).2.1 = { a with storage } ∧
        storage.Holds a.store (urls.foldl (·.add user) roll) := by
  induction urls generalizing a roll with
  | nil => exact ⟨rfl, a.storage, rfl, h⟩
  | cons url urls ih =>
      obtain ⟨hurl, hurls⟩ := List.forall_mem_cons.mp hurls
      obtain ⟨storage, log, hsubscribe, hholds⟩ := subscribe_of_holds h
        (checkSubscription_of_subscribable huser hurl)
      obtain ⟨hnumber, later, hlater, hheld⟩ :=
        ih (a := { a with storage }) hholds hurls
      simp only [subscribeAll, hsubscribe]
      exact ⟨congrArg (· + 1) hnumber, later, hlater, hheld⟩

end Aggregator

end Newsstand
