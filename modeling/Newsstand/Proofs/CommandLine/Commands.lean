import Newsstand.CommandLine.Run
import Newsstand.Proofs.Aggregator.Feeds
import Newsstand.Proofs.Aggregator.Import
import Newsstand.Proofs.Store.Reopening

/-!
# Commands

A command asks for changes of the subscriptions, which can be told from its
arguments and from the file that it reads.  An aggregator whose store is open
makes these changes and no others.  What it replies depends on nothing else
either, unless feeds are listed, and a reply that says that the command has
failed means that no change was asked for.
-/

namespace Newsstand

open Newsstand.Text

namespace Aggregator

variable {a b c : Aggregator} {user url listed : String}
  {changes more : List Change}

/-! ## What is asked for -/

/-- The change of a subscription that is asked for, if it is valid. -/
def asked (change : Subscription → Change) (user url : String) : List Change :=
  match checkSubscription user url with
  | .error _ => []
  | .ok listed => [change ⟨user, listed⟩]

/-- The subscriptions that a file asks for. -/
def askedByFile (user : String) (file : FileRead) : List Change :=
  match (readOutline file).1 with
  | .error _ => []
  | .ok urls => urls.flatMap (asked .add user)

theorem asked_of_ok (h : checkSubscription user url = .ok listed)
    (change : Subscription → Change) :
    asked change user url = [change ⟨user, listed⟩] := by
  rw [asked, h]

theorem asked_of_error {fault : StoreFault}
    (h : checkSubscription user url = .error fault)
    (change : Subscription → Change) : asked change user url = [] := by
  rw [asked, h]

theorem length_flatMap_asked_le (user : String) (urls : List String) :
    (urls.flatMap (asked .add user)).length ≤ urls.length := by
  induction urls with
  | nil => exact le_rfl
  | cons url urls ih =>
      rw [List.flatMap_cons, List.length_append, List.length_cons, asked]
      split
      · rw [List.length_nil]
        omega
      · rw [List.length_singleton]
        omega

/-- All of several URLs are asked for if all of them are valid. -/
theorem length_flatMap_asked_eq_iff (user : String) (urls : List String) :
    (urls.flatMap (asked .add user)).length = urls.length ↔
      ∀ url ∈ urls, ∃ listed, checkSubscription user url = .ok listed := by
  induction urls with
  | nil => simp
  | cons url urls ih =>
      have hle := length_flatMap_asked_le user urls
      rw [List.flatMap_cons, List.length_append, List.length_cons,
        List.forall_mem_cons, ← ih]
      cases hcheck : checkSubscription user url with
      | error fault =>
          rw [asked_of_error hcheck, List.length_nil]
          refine iff_of_false (by omega) fun h => ?_
          obtain ⟨listed, hlisted⟩ := h.1
          cases hlisted
      | ok listed =>
          rw [asked_of_ok hcheck, List.length_singleton,
            and_iff_right ⟨listed, rfl⟩]
          omega

/-! ## What is made of it -/

/-- The store of an aggregator has been changed. -/
structure Carried (a : Aggregator) (changes : List Change) (b : Aggregator) :
    Prop where
  store : b.store = a.store
  edited : a.storage.Edited a.store changes b.storage

theorem Carried.refl (h : a.storage.Rooted) : a.Carried [] a :=
  ⟨rfl, .refl h a.store⟩

theorem Carried.isOpen (h : a.Carried changes b)
    (hopen : a.storage.isOpen a.store) : b.storage.isOpen b.store := by
  rw [h.store, h.edited.isOpen]
  exact hopen

theorem Carried.trans (hab : a.Carried changes b) (hbc : b.Carried more c) :
    a.Carried (changes ++ more) c :=
  ⟨hbc.store.trans hab.store, hab.edited.trans (hab.store ▸ hbc.edited)⟩

/-- Who has a store that is open subscribes to whatever is valid. -/
theorem subscribe_of_isOpen (hrooted : a.storage.Rooted)
    (hopen : a.storage.isOpen a.store)
    (hcheck : checkSubscription user url = .ok listed) :
    (a.subscribe user url).1 = .ok () ∧
      a.Carried [.add ⟨user, listed⟩] (a.subscribe user url).2.1 := by
  have hvalid := requireUserAndUrl_of_checkSubscription hcheck
  have hok := Storage.add_eq_ok_of_isOpen hopen hvalid
  have hedited := Storage.edited_add hrooted hopen hvalid
  rcases hadd : a.storage.add a.store user listed with ⟨result, storage, log⟩
  rw [hadd] at hok hedited
  obtain rfl : result = .ok () := hok
  simp only [subscribe, hcheck, hadd]
  exact ⟨trivial, rfl, hedited⟩

theorem unsubscribe_of_isOpen (hrooted : a.storage.Rooted)
    (hopen : a.storage.isOpen a.store)
    (hcheck : checkSubscription user url = .ok listed) :
    (a.unsubscribe user url).1 = .ok () ∧
      a.Carried [.remove ⟨user, listed⟩] (a.unsubscribe user url).2.1 := by
  have hvalid := requireUserAndUrl_of_checkSubscription hcheck
  have hok := Storage.remove_eq_ok_of_isOpen hopen hvalid
  have hedited := Storage.edited_remove hrooted hopen hvalid
  rcases hremove : a.storage.remove a.store user listed with
    ⟨result, storage, log⟩
  rw [hremove] at hok hedited
  obtain rfl : result = .ok () := hok
  simp only [unsubscribe, hcheck, hremove]
  exact ⟨trivial, rfl, hedited⟩

theorem carried_subscribe (hrooted : a.storage.Rooted)
    (hopen : a.storage.isOpen a.store) (user url : String) :
    (a.subscribe user url).1 = (checkSubscription user url).map (fun _ => ()) ∧
      a.Carried (asked .add user url) (a.subscribe user url).2.1 := by
  cases hcheck : checkSubscription user url with
  | error fault =>
      rw [subscribe_of_error hcheck, asked_of_error hcheck]
      exact ⟨rfl, .refl hrooted⟩
  | ok listed =>
      rw [asked_of_ok hcheck]
      exact subscribe_of_isOpen hrooted hopen hcheck

theorem carried_unsubscribe (hrooted : a.storage.Rooted)
    (hopen : a.storage.isOpen a.store) (user url : String) :
    (a.unsubscribe user url).1 =
        (checkSubscription user url).map (fun _ => ()) ∧
      a.Carried (asked .remove user url) (a.unsubscribe user url).2.1 := by
  cases hcheck : checkSubscription user url with
  | error fault =>
      rw [unsubscribe_of_error hcheck, asked_of_error hcheck]
      exact ⟨rfl, .refl hrooted⟩
  | ok listed =>
      rw [asked_of_ok hcheck]
      exact unsubscribe_of_isOpen hrooted hopen hcheck

/-- Of several URLs those are counted that are valid. -/
theorem carried_subscribeAll (hrooted : a.storage.Rooted)
    (hopen : a.storage.isOpen a.store) (user : String) (urls : List String) :
    (a.subscribeAll user urls).1 =
        (urls.flatMap (asked .add user)).length ∧
      a.Carried (urls.flatMap (asked .add user))
        (a.subscribeAll user urls).2.1 := by
  induction urls generalizing a with
  | nil => exact ⟨rfl, .refl hrooted⟩
  | cons url urls ih =>
      rw [List.flatMap_cons, List.length_append]
      obtain ⟨hresult, hcarried⟩ := carried_subscribe hrooted hopen user url
      rcases hsubscribe : a.subscribe user url with ⟨result, next, log⟩
      rw [hsubscribe] at hresult hcarried
      obtain ⟨hnumber, hlater⟩ :=
        ih hcarried.edited.rooted (hcarried.isOpen hopen)
      have hall := hcarried.trans hlater
      cases hcheck : checkSubscription user url with
      | error fault =>
          rw [hcheck] at hresult
          obtain rfl : result = .error fault := hresult
          rw [asked_of_error hcheck] at hall ⊢
          simp only [subscribeAll, hsubscribe]
          exact ⟨hnumber.trans (Nat.zero_add _).symm, hall⟩
      | ok listed =>
          rw [hcheck] at hresult
          obtain rfl : result = .ok () := hresult
          rw [asked_of_ok hcheck] at hall ⊢
          simp only [subscribeAll, hsubscribe]
          exact ⟨by rw [hnumber, List.length_singleton, Nat.add_comm], hall⟩

theorem carried_importOutline (hrooted : a.storage.Rooted)
    (hopen : a.storage.isOpen a.store) (user : String) (file : FileRead) :
    (a.importOutline user file).1 = (readOutline file).1.map (fun urls =>
        ⟨urls.length, (urls.flatMap (asked .add user)).length⟩) ∧
      a.Carried (askedByFile user file) (a.importOutline user file).2.1 := by
  cases hread : (readOutline file).1 with
  | error fault =>
      have hfailed : (a.importOutline user file).1 = .error fault ∧
          (a.importOutline user file).2.1 = a := importOutline_of_error hread
      rw [hfailed.1, hfailed.2, askedByFile, hread]
      exact ⟨rfl, .refl hrooted⟩
  | ok urls =>
      obtain ⟨text, htext, houtline⟩ := readOutline_eq_ok hread
      obtain ⟨hresult, hnext⟩ := a.importOutline_of_read user htext houtline
      obtain ⟨hnumber, hcarried⟩ := carried_subscribeAll hrooted hopen user urls
      rw [hresult, hnext, hnumber, askedByFile, hread]
      exact ⟨rfl, hcarried⟩

/-- A list changes nothing but the fetcher. -/
theorem carried_list (hrooted : a.storage.Rooted) (user : String) :
    a.Carried [] (a.list user).2.1 := by
  unfold list
  split
  · exact .refl hrooted
  · simp only [ofSweep]
    split <;> exact ⟨rfl, .refl hrooted a.store⟩

end Aggregator

/-! ## Commands -/

/-- The changes that a command asks for, with the files as they are read. -/
def Command.changes (read : String → FileRead) : Command → List Change
  | .list _ => []
  | .subscribe user url => Aggregator.asked .add user url
  | .unsubscribe user url => Aggregator.asked .remove user url
  | .importFile user file => Aggregator.askedByFile user (read file)
  | .health => []

namespace Aggregator

variable {a b : Aggregator}

theorem carried_carryOut (hrooted : a.storage.Rooted)
    (hopen : a.storage.isOpen a.store) (command : Command) :
    a.Carried (command.changes a.storage.readFile) (a.carryOut command).2 := by
  cases command with
  | list user =>
      have hcarried := carried_list hrooted user
      simp only [carryOut]
      split <;>
        next heq =>
          rw [heq] at hcarried
          exact hcarried
  | subscribe user url => exact (carried_subscribe hrooted hopen user url).2
  | unsubscribe user url => exact (carried_unsubscribe hrooted hopen user url).2
  | importFile user file =>
      have hcarried :=
        (carried_importOutline hrooted hopen user (a.storage.readFile file)).2
      simp only [carryOut]
      split <;>
        next heq =>
          rw [heq] at hcarried
          exact hcarried
  | health => exact .refl hrooted

/-! ## Replies -/

/-- The operation of a command succeeds. -/
def Succeeds (a : Aggregator) : Command → Prop
  | .list user => ∃ subscriptions, (a.list user).1 = .ok (some subscriptions)
  | .subscribe user url => (a.subscribe user url).1 = .ok ()
  | .unsubscribe user url => (a.unsubscribe user url).1 = .ok ()
  | .importFile user file =>
      ∃ urls, (readOutline (a.storage.readFile file)).1 = .ok urls ∧
        ∀ url ∈ urls, (a.subscribe user url).1 = .ok ()
  | .health => a.storage.isOpen a.store

/-- The reply on an import. -/
def importReply (file : String) : Except ImportFault ImportSummary → RunResult
  | .ok summary =>
      .printed (summary.subscribed = summary.found) summary.json
  | .error fault => .failed s!"failed to import {file}: {fault.message}"

theorem carryOut_importFile_fst (a : Aggregator) (user file : String) :
    (a.carryOut (.importFile user file)).1 =
      importReply file (a.importOutline user (a.storage.readFile file)).1 := by
  simp only [carryOut]
  split <;>
    next heq =>
      rw [heq]
      rfl

theorem exit_ofChange (change : Except StoreFault Unit) :
    (RunResult.ofChange change).exit = 0 ↔ change = .ok () := by
  cases change <;>
    simp [RunResult.ofChange, RunResult.printed, RunResult.failed]

theorem subscribe_eq_ok_iff (hrooted : a.storage.Rooted)
    (hopen : a.storage.isOpen a.store) (user url : String) :
    (a.subscribe user url).1 = .ok () ↔
      ∃ listed, checkSubscription user url = .ok listed := by
  rw [(carried_subscribe hrooted hopen user url).1]
  cases checkSubscription user url <;> simp [Except.map]

/-- A command exits with zero if its operation succeeds. -/
theorem exit_carryOut_eq_zero_iff (hrooted : a.storage.Rooted)
    (hopen : a.storage.isOpen a.store) (command : Command) :
    (a.carryOut command).1.exit = 0 ↔ a.Succeeds command := by
  cases command with
  | list user =>
      simp only [carryOut, Succeeds]
      split <;>
        next heq =>
          rw [heq]
          simp [RunResult.printed, RunResult.stopped, RunResult.failed]
  | subscribe user url => exact exit_ofChange _
  | unsubscribe user url => exact exit_ofChange _
  | importFile user file =>
      obtain ⟨hresult, -⟩ :=
        carried_importOutline hrooted hopen user (a.storage.readFile file)
      rw [carryOut_importFile_fst, hresult, Succeeds]
      cases (readOutline (a.storage.readFile file)).1 with
      | error fault => simp [Except.map, importReply, RunResult.failed]
      | ok urls =>
          simp only [subscribe_eq_ok_iff hrooted hopen,
            ← length_flatMap_asked_eq_iff]
          simp [Except.map, importReply, RunResult.printed]
  | health =>
      simp only [carryOut, Succeeds, health, RunResult.printed]
      split <;> simp_all [statusOk]

/-- What a command replies is told from its arguments and the file that it reads,
unless it lists feeds. -/
theorem carryOut_fst_congr (harooted : a.storage.Rooted)
    (hbrooted : b.storage.Rooted) (haopen : a.storage.isOpen a.store)
    (hbopen : b.storage.isOpen b.store)
    (hfiles : a.storage.readFile = b.storage.readFile) {command : Command}
    (hlist : ∀ user, command ≠ .list user) :
    (a.carryOut command).1 = (b.carryOut command).1 := by
  cases command with
  | list user => exact absurd rfl (hlist user)
  | subscribe user url =>
      simp only [carryOut]
      rw [(carried_subscribe harooted haopen user url).1,
        (carried_subscribe hbrooted hbopen user url).1]
  | unsubscribe user url =>
      simp only [carryOut]
      rw [(carried_unsubscribe harooted haopen user url).1,
        (carried_unsubscribe hbrooted hbopen user url).1]
  | importFile user file =>
      rw [carryOut_importFile_fst, carryOut_importFile_fst, hfiles,
        (carried_importOutline harooted haopen user _).1,
        (carried_importOutline hbrooted hbopen user _).1]
  | health => simp only [carryOut, health, haopen, hbopen]

/-! ## Replies of failure -/

/-- The output of a command that has failed. -/
def failedOutput : String := (RunResult.failed "").output

example : failedOutput = "\x7b\n  \"status\": 500\n\x7d\n" := by
  decide +kernel

/-- The text of an object starts with the key of its first entry. -/
theorem exists_toList_pretty (key : String) (value : JsonValue)
    (entries : List (String × JsonValue)) :
    ∃ tail, (JsonValue.object ((key, value) :: entries)).pretty.toList =
      "\x7b\n  ".toList ++ ((JsonValue.quoted key).toList ++ tail) := by
  simp only [JsonValue.pretty, JsonValue.textAt, JsonValue.entryTexts,
    JsonValue.bracketed, List.isEmpty_cons, Bool.false_eq_true, if_false]
  have hline : "\x7b" ++ JsonValue.newLine 1 = "\x7b\n  " := by decide
  rw [hline]
  cases JsonValue.entryTexts 1 entries with
  | nil =>
      rw [String.intercalate_singleton]
      simp only [String.toList_append, List.append_assoc]
      exact ⟨_, rfl⟩
  | cons text texts =>
      rw [String.intercalate_cons_cons]
      simp only [String.toList_append, List.append_assoc]
      exact ⟨_, rfl⟩

theorem output_ne_failedOutput (good : Bool) (summary : ImportSummary) :
    (RunResult.printed good summary.json).output ≠ failedOutput := by
  intro h
  obtain ⟨tail, htail⟩ := exists_toList_pretty "found" (.number summary.found)
    [("subscribed", .number summary.subscribed)]
  have hquoted : (JsonValue.quoted "found").toList = "\"found\"".toList := by
    decide +kernel
  have hfailed : failedOutput.toList[5]? = some 's' := by decide +kernel
  have hletter := congrArg (fun text => text.toList[5]?) h
  simp only [RunResult.printed, ImportSummary.json, String.toList_append, htail,
    hquoted, hfailed] at hletter
  simp at hletter

theorem asked_eq_nil_of_failed {user url : String}
    (h : (RunResult.ofChange
      ((checkSubscription user url).map fun _ => ())).output = failedOutput)
    (change : Subscription → Change) :
    asked change user url = [] := by
  have hdone : (RunResult.ofChange (.ok ())).output ≠ failedOutput := by
    decide +kernel
  cases hcheck : checkSubscription user url with
  | error fault => exact asked_of_error hcheck change
  | ok listed =>
      rw [hcheck] at h
      exact absurd h hdone

/-- A command that says that it has failed has asked for no change. -/
theorem changes_eq_nil_of_failed (hrooted : a.storage.Rooted)
    (hopen : a.storage.isOpen a.store) {command : Command}
    (h : (a.carryOut command).1.output = failedOutput) :
    command.changes a.storage.readFile = [] := by
  cases command with
  | list user => rfl
  | subscribe user url =>
      simp only [carryOut] at h
      rw [(carried_subscribe hrooted hopen user url).1] at h
      exact asked_eq_nil_of_failed h _
  | unsubscribe user url =>
      simp only [carryOut] at h
      rw [(carried_unsubscribe hrooted hopen user url).1] at h
      exact asked_eq_nil_of_failed h _
  | importFile user file =>
      rw [carryOut_importFile_fst, (carried_importOutline hrooted hopen user
        (a.storage.readFile file)).1] at h
      cases hread : (readOutline (a.storage.readFile file)).1 with
      | error fault => simp only [Command.changes, askedByFile, hread]
      | ok urls =>
          rw [hread] at h
          exact absurd h (output_ne_failedOutput _ _)
  | health => rfl

end Aggregator

end Newsstand
