import Newsstand.Proofs.Store.Change
import Newsstand.Proofs.Store.Interchange

/-!
# The steps of runs of stores

All that a step can do to what stores refer to is said here once: nothing, or
opening a store, or closing one, or one change of the subscriptions in a store
that accepts it.  The accepted changes of a run, in the order of its steps, are
its history.
-/

namespace Newsstand.Storage

open Newsstand.Text

variable {s : Storage} {store : Store} {change : Change}

/-! ## One change -/

/-- What comes of a change that is asked of a store, and the storage after it.
The store refuses the change; or the change is made in its listings, or in the
table to which its connection leads. -/
inductive Changed (s : Storage) (store : Store) (change : Change) :
    Except StoreFault Unit → Storage → Prop where
  | refused (fault : StoreFault) : Changed s store change (.error fault) s
  | inMemory {number : ℕ} (hstore : store = .volatile number) :
      Changed s store change (.ok ())
        (s.modifyListings number change.onListings)
  | inTable {number : ℕ} {c : Connection} (hstore : store = .durable number)
      (hc : s.connection? number = some c) :
      Changed s store change (.ok ()) (s.modifyTable c change.onTable)

theorem changed_add (s : Storage) (store : Store) (user url : String) :
    s.Changed store (.add ⟨user, url⟩) (s.add store user url).1
      (s.add store user url).2.1 := by
  unfold Storage.add
  split
  next => exact .refused _
  next => exact .inMemory rfl
  next number _ =>
      cases hc : s.connection? number with
      | none => exact .refused _
      | some c => exact .inTable rfl hc

theorem changed_remove (s : Storage) (store : Store) (user url : String) :
    s.Changed store (.remove ⟨user, url⟩) (s.remove store user url).1
      (s.remove store user url).2.1 := by
  unfold Storage.remove
  split
  next => exact .refused _
  next => exact .inMemory rfl
  next number _ =>
      cases hc : s.connection? number with
      | none => exact .refused _
      | some c => exact .inTable rfl hc

/-! ## Which changes are valid -/

theorem requireUserAndUrl_of_blank {user url : String}
    (h : isBlankString user ∨ isBlankString url) :
    ∃ fault : StoreFault, fault.isValidation ∧
      requireUserAndUrl user url = .error fault := by
  unfold requireUserAndUrl
  by_cases huser : isBlankString user
  · exact ⟨.blankUser, rfl, by rw [if_pos huser]⟩
  · have hurl := h.resolve_left huser
    exact ⟨.blankUrl, rfl, by rw [if_neg huser, if_pos hurl]⟩

theorem requireUserAndUrl_eq_ok_iff {user url : String} :
    requireUserAndUrl user url = .ok () ↔
      ¬isBlankString user ∧ ¬isBlankString url := by
  unfold requireUserAndUrl
  by_cases huser : isBlankString user
  · simp [huser]
  · by_cases hurl : isBlankString url
    · simp [huser, hurl]
    · simp [huser, hurl]

/-- Whatever the store of a name is, it refuses a change of a blank user or URL as
not valid, and the change has no effect. -/
theorem Run.step_of_blank {r : Run} {name : String}
    (hname : r.stores.lookup name = some store) {user url : String}
    (h : isBlankString user ∨ isBlankString url) :
    ∃ fault : StoreFault, fault.isValidation ∧
      r.step (.act name (.add user url)) = (.failed fault, r, []) ∧
      r.step (.act name (.remove user url)) = (.failed fault, r, []) := by
  obtain ⟨fault, hvalidation, hcheck⟩ := requireUserAndUrl_of_blank h
  refine ⟨fault, hvalidation, ?_, ?_⟩
  · simp only [Run.step, hname, Run.act, add_of_invalid _ hcheck,
      Reply.ofChange]
  · simp only [Run.step, hname, Run.act, remove_of_invalid _ hcheck,
      Reply.ofChange]

/-! ## Histories -/

/-- The change that an action asks for. -/
def Action.change? : Action → Option Change
  | .add user url => some (.add ⟨user, url⟩)
  | .remove user url => some (.remove ⟨user, url⟩)
  | _ => none

/-- The action that asks for a change. -/
def Action.ofChange : Change → Action
  | .add row => .add row.user row.url
  | .remove row => .remove row.user row.url

theorem Action.change?_ofChange (change : Change) :
    (ofChange change).change? = some change := by
  cases change <;> rfl

/-- The change that a step asks for, if it is accepted.  Only changes of the
stores count for which `about` holds when the step is taken. -/
def Run.accepted (r : Run) (about : Storage → Store → Bool) :
    Step → List Change
  | .openAs _ _ => []
  | .act name action =>
      match r.stores.lookup name, action.change? with
      | some store, some change =>
          if about r.storage store ∧ (r.act store action).1 = .done then
            [change]
          else []
      | _, _ => []

theorem Run.accepted_of_change?_eq_none (r : Run)
    (about : Storage → Store → Bool) (name : String) {action : Action}
    (h : action.change? = none) : r.accepted about (.act name action) = [] := by
  rw [Run.accepted, h]
  cases r.stores.lookup name <;> rfl

/-- The accepted changes of one step after another. -/
def Run.history (r : Run) (about : Storage → Store → Bool) :
    List Step → List Change
  | [] => []
  | step :: steps =>
      r.accepted about step ++ (r.step step).2.1.history about steps

/-! ## One step -/

/-- What a step does to the storage, and which of the changes that it asks for
are accepted. -/
inductive Run.Stepped (r : Run) (about : Storage → Store → Bool) :
    Storage → List Change → Prop where
  | same : Stepped r about r.storage []
  | opened (config : StoreConfig) :
      Stepped r about (r.storage.openStore config).2.1 []
  | closed (store : Store) : Stepped r about (r.storage.close store) []
  | changed {store : Store} {change : Change} {result : Except StoreFault Unit}
      {t : Storage} (hchanged : r.storage.Changed store change result t) :
      Stepped r about t
        (if about r.storage store ∧ result = .ok () then [change] else [])

theorem Reply.ofChange_eq_done_iff (result : Except StoreFault Unit) :
    Reply.ofChange result = .done ↔ result = .ok () := by
  cases result <;> simp [Reply.ofChange]

theorem Run.stepped (r : Run) (about : Storage → Store → Bool) (step : Step) :
    r.Stepped about (r.step step).2.1.storage (r.accepted about step) := by
  cases step with
  | openAs name config =>
      have hopened : r.Stepped about _ [] := .opened config
      simp only [Run.step, Run.accepted]
      split
      next fault t log heq =>
          rw [heq] at hopened
          exact hopened
      next store t log heq =>
          rw [heq] at hopened
          exact hopened
  | act name action =>
      cases hstore : r.stores.lookup name with
      | none =>
          simp only [Run.step, Run.accepted, hstore]
          exact .same
      | some store =>
          simp only [Run.step, Run.accepted, hstore]
          cases action with
          | share other => exact .same
          | list user =>
              simp only [Run.act, Action.change?]
              split <;> exact .same
          | add user url =>
              simp only [Run.act, Action.change?, Reply.ofChange_eq_done_iff]
              exact .changed (r.storage.changed_add store user url)
          | remove user url =>
              simp only [Run.act, Action.change?, Reply.ofChange_eq_done_iff]
              exact .changed (r.storage.changed_remove store user url)
          | askOpen => exact .same
          | close => exact .closed store

/-- The storage after a store was asked for is as before, or a store in memory
was added to it, or a store on a table. -/
theorem openStore_cases (s : Storage) (config : StoreConfig) :
    (s.openStore config).2.1 = s ∨
    (s.openStore config).2.1 = s.openVolatile.2 ∨
    ∃ seat d, (s.database seat).require config.table = .ok d ∧
      (s.openStore config).2.1 =
        { s.putDatabase seat d with
          connections := s.connections ++ [⟨seat, config.table, false⟩] } := by
  unfold Storage.openStore
  split
  next => exact Or.inr (Or.inl rfl)
  next =>
      split
      next => exact Or.inl rfl
      next store t hopen =>
          obtain ⟨seat, d, hrequire, -, rfl⟩ := openDurable_eq_ok hopen
          exact Or.inr (Or.inr ⟨seat, d, hrequire, rfl⟩)

/-! ## Stores stay -/

/-- The stores of a storage are still there in a later one, and what was closed
is closed. -/
structure Before (s t : Storage) : Prop where
  volatiles : s.volatiles.length ≤ t.volatiles.length
  connections : ∀ (number : ℕ) (c : Connection),
    s.connections[number]? = some c → ∃ later : Connection,
      t.connections[number]? = some later ∧
        (c.closed = true → later.closed = true)

theorem Before.refl (s : Storage) : s.Before s :=
  ⟨le_rfl, fun _ c hc => ⟨c, hc, id⟩⟩

theorem Before.trans {s t u : Storage} (hst : s.Before t) (htu : t.Before u) :
    s.Before u := by
  refine ⟨hst.volatiles.trans htu.volatiles, fun number c hc => ?_⟩
  obtain ⟨d, hd, hclosed⟩ := hst.connections number c hc
  obtain ⟨e, he, hclosed'⟩ := htu.connections number d hd
  exact ⟨e, he, hclosed' ∘ hclosed⟩

theorem before_openStore (s : Storage) (config : StoreConfig) :
    s.Before (s.openStore config).2.1 := by
  rcases s.openStore_cases config with heq | heq | ⟨seat, d, -, heq⟩
  · rw [heq]
    exact .refl s
  · rw [heq]
    exact ⟨by simp [openVolatile], fun _ c hc => ⟨c, hc, id⟩⟩
  · rw [heq]
    refine ⟨le_rfl, fun number c hc => ⟨c, ?_, id⟩⟩
    have hlt := (List.getElem?_eq_some_iff.mp hc).1
    rw [← hc]
    exact List.getElem?_append_left hlt

theorem before_close (s : Storage) (store : Store) :
    s.Before (s.close store) := by
  cases store with
  | volatile number => exact .refl s
  | durable number =>
      refine ⟨le_rfl, fun other c hc => ?_⟩
      simp only [Storage.close, List.getElem?_modify, hc, Option.map_eq_map,
        Option.map_some]
      exact ⟨_, rfl, fun hclosed => by split <;> simp [hclosed]⟩

theorem Changed.before {result : Except StoreFault Unit} {t : Storage}
    (h : s.Changed store change result t) : s.Before t := by
  cases h with
  | refused fault => exact .refl s
  | inMemory hstore =>
      exact ⟨by simp [modifyListings], fun _ c hc => ⟨c, hc, id⟩⟩
  | inTable hstore hc => exact ⟨le_rfl, fun _ c hc => ⟨c, hc, id⟩⟩

theorem Run.Stepped.before {r : Run} {about : Storage → Store → Bool}
    {t : Storage} {changes : List Change} (h : r.Stepped about t changes) :
    r.storage.Before t := by
  cases h with
  | same => exact .refl _
  | opened config => exact r.storage.before_openStore config
  | closed store => exact r.storage.before_close store
  | changed hchanged => exact hchanged.before

theorem Run.before_step (r : Run) (step : Step) :
    r.storage.Before (r.step step).2.1.storage :=
  (r.stepped (fun _ _ => true) step).before

theorem Run.before_steps (r : Run) (steps : List Step) :
    r.storage.Before (r.steps steps).storage := by
  induction steps generalizing r with
  | nil => exact .refl _
  | cons step steps ih => exact (r.before_step step).trans (ih _)

/-- The store has been opened. -/
def Has (s : Storage) : Store → Prop
  | .volatile number => number < s.volatiles.length
  | .durable number => number < s.connections.length

theorem Before.has {t : Storage} (h : s.Before t) (hhas : s.Has store) :
    t.Has store := by
  cases store with
  | volatile number => exact Nat.lt_of_lt_of_le hhas h.volatiles
  | durable number =>
      obtain ⟨c, hc, -⟩ :=
        h.connections number _ (List.getElem?_eq_getElem hhas)
      exact (List.getElem?_eq_some_iff.mp hc).1

theorem has_openStore {config : StoreConfig} {t : Storage} {log : Log}
    (h : s.openStore config = (.ok store, t, log)) : t.Has store := by
  unfold Storage.openStore at h
  split at h
  · cases h
    simp [Has]
  · split at h
    · cases h
    next hopen =>
        cases h
        obtain ⟨seat, d, -, rfl, rfl⟩ := openDurable_eq_ok hopen
        simp [Has]

/-- Every store that has a name has been opened. -/
def Run.Known (r : Run) : Prop :=
  ∀ name store, r.stores.lookup name = some store → r.storage.Has store

/-- A step names only what had a name, or what it opens. -/
theorem Run.Known.step {r : Run} (h : r.Known) (step : Step) :
    (r.step step).2.1.Known := by
  have hbefore := r.before_step step
  intro other store hother
  cases step with
  | openAs name config =>
      simp only [Run.step] at hbefore hother ⊢
      split at hother
      next fault t log heq =>
          rw [heq] at hbefore
          exact hbefore.has (h other store hother)
      next opened t log heq =>
          rw [heq] at hbefore
          rw [lookup_name] at hother
          split at hother
          · obtain rfl := Option.some.inj hother
            exact has_openStore heq
          · exact hbefore.has (h other store hother)
  | act name action =>
      cases hname : r.stores.lookup name with
      | none =>
          simp only [Run.step, hname] at hother ⊢
          exact h other store hother
      | some held =>
          simp only [Run.step, hname] at hbefore hother ⊢
          refine hbefore.has ?_
          cases action with
          | share clone =>
              simp only [Run.act] at hother
              rw [lookup_name] at hother
              split at hother
              · obtain rfl := Option.some.inj hother
                exact h name held hname
              · exact h other store hother
          | list user =>
              simp only [Run.act] at hother
              split at hother <;> exact h other store hother
          | add user url => exact h other store hother
          | remove user url => exact h other store hother
          | askOpen => exact h other store hother
          | close => exact h other store hother

theorem Run.Known.steps {r : Run} (h : r.Known) (steps : List Step) :
    (r.steps steps).Known := by
  induction steps generalizing r with
  | nil => exact h
  | cons step steps ih => exact ih (h.step step)

theorem Run.known_start (directory : Directory) :
    (Run.start directory).Known := by
  intro name store h
  cases h

/-- The store has been closed. -/
def IsShut (s : Storage) (number : ℕ) : Prop :=
  ∃ c, s.connections[number]? = some c ∧ c.closed = true

theorem Before.isShut {t : Storage} (h : s.Before t) {number : ℕ}
    (hshut : s.IsShut number) : t.IsShut number := by
  obtain ⟨c, hc, hclosed⟩ := hshut
  obtain ⟨later, hlater, himp⟩ := h.connections number c hc
  exact ⟨later, hlater, himp hclosed⟩

theorem IsShut.connection?_eq_none {number : ℕ} (h : s.IsShut number) :
    s.connection? number = none := by
  obtain ⟨c, hc, hclosed⟩ := h
  simp [connection?, hc, hclosed]

theorem isShut_close {number : ℕ} (h : s.Has (.durable number)) :
    (s.close (.durable number)).IsShut number := by
  refine ⟨{ s.connections[number] with closed := true }, ?_, rfl⟩
  simp only [Storage.close, List.getElem?_modify_eq,
    List.getElem?_eq_getElem h, Option.map_eq_map, Option.map_some]

theorem connection?_close (s : Storage) (number : ℕ) :
    (s.close (.durable number)).connection? number = none := by
  simp only [connection?, Storage.close, List.getElem?_modify_eq]
  cases s.connections[number]? <;> rfl

end Newsstand.Storage
