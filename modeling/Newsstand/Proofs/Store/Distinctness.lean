import Mathlib.Data.List.Nodup
import Newsstand.Proofs.Store.Interchange
import Newsstand.Proofs.Support.DistinctKeys

/-!
# No URL is listed twice

Whatever is done with stores, and whoever does it under which of their names,
each URL stands at most once in the list of a user.  This holds of the listings
in memory and of the tables of all databases, those included to which no store
is connected any more.
-/

namespace Newsstand

namespace Roll

/-- No URL is listed twice for one user. -/
def Distinct (roll : Roll) : Prop :=
  ∀ user, (roll user).Nodup

theorem distinct_empty : Distinct empty :=
  fun _ => List.nodup_nil

variable {roll : Roll}

theorem Distinct.add (h : roll.Distinct) (user url : String) :
    (roll.add user url).Distinct := by
  by_cases hmem : url ∈ roll user
  · rw [add_of_mem hmem]
    exact h
  · rw [add_of_not_mem hmem]
    intro name
    rw [Function.update_apply]
    split
    · rw [← List.concat_eq_append]
      exact (h user).concat hmem
    · exact h name

theorem Distinct.remove (h : roll.Distinct) (user url : String) :
    (roll.remove user url).Distinct := by
  intro name
  rw [Roll.remove, Function.update_apply]
  split
  · exact (h user).filter _
  · exact h name

end Roll

namespace Storage

/-- No list of a user names a URL twice, in whichever store it is kept. -/
structure Sound (s : Storage) : Prop where
  volatiles : ∀ l ∈ s.volatiles, Roll.Distinct l.urls
  databases : ∀ entry ∈ s.databases, ∀ t ∈ entry.2, Roll.Distinct t.urls

variable {s : Storage}

theorem sound_start (directory : Directory) : (start directory).Sound :=
  ⟨by simp [start], by simp [start]⟩

theorem Sound.listings (h : s.Sound) (number : ℕ) :
    Roll.Distinct (s.listings number).urls := by
  unfold Storage.listings
  cases hl : s.volatiles[number]? with
  | none => exact Roll.distinct_empty
  | some l => exact h.volatiles l (List.mem_of_getElem? hl)

theorem Sound.database (h : s.Sound) (seat : Seat) {t : Table}
    (ht : t ∈ s.database seat) : Roll.Distinct t.urls := by
  unfold Storage.database at ht
  cases hd : s.databases.lookup seat with
  | none => simp [hd] at ht
  | some d =>
      rw [hd, Option.getD_some] at ht
      exact h.databases _ (mem_of_lookup hd) t ht

theorem Sound.list (h : s.Sound) {store : Store} {user : String}
    {urls : List String} (hlist : s.list store user = .ok urls) :
    urls.Nodup := by
  cases store with
  | volatile number =>
      obtain rfl := Except.ok.inj hlist
      exact h.listings number user
  | durable number =>
      simp only [Storage.list] at hlist
      split at hlist
      · cases hlist
      next c hc =>
          obtain rfl := Except.ok.inj hlist
          unfold Storage.tableOf
          cases ht : (s.database c.seat).find? c.table with
          | none => exact List.nodup_nil
          | some t => exact h.database c.seat (List.mem_of_find?_eq_some ht) user

/-! ## Changes -/

theorem Sound.putDatabase (h : s.Sound) (seat : Seat) {d : Database}
    (hd : ∀ t ∈ d, Roll.Distinct t.urls) : (s.putDatabase seat d).Sound := by
  refine ⟨h.volatiles, ?_⟩
  intro entry hentry
  rcases List.mem_cons.mp hentry with rfl | hentry
  · exact hd
  · exact h.databases entry (List.mem_of_mem_filter hentry)

theorem Sound.modifyTable (h : s.Sound) (c : Connection) {f : Table → Table}
    (hf : ∀ t, Roll.Distinct t.urls → Roll.Distinct (f t).urls) :
    (s.modifyTable c f).Sound := by
  apply h.putDatabase
  intro t ht
  obtain ⟨old, hold, rfl⟩ := List.mem_map.mp ht
  have hdistinct := h.database c.seat hold
  split
  · exact hf old hdistinct
  · exact hdistinct

theorem Sound.modifyListings (h : s.Sound) (number : ℕ)
    {f : Listings → Listings}
    (hf : ∀ l, Roll.Distinct l.urls → Roll.Distinct (f l).urls) :
    (s.modifyListings number f).Sound := by
  refine ⟨?_, h.databases⟩
  intro l hl
  obtain ⟨i, hi⟩ := List.mem_iff_getElem?.mp hl
  simp only [Storage.modifyListings, List.getElem?_modify] at hi
  obtain ⟨old, hold, rfl⟩ := Option.map_eq_some_iff.mp hi
  have hdistinct := h.volatiles old (List.mem_of_getElem? hold)
  split
  · exact hf old hdistinct
  · exact hdistinct

theorem Sound.add (h : s.Sound) (store : Store) (user url : String) :
    (s.add store user url).2.1.Sound := by
  unfold Storage.add
  split
  next => exact h
  next number =>
      apply h.modifyListings
      intro l hl
      rw [Listings.urls_add]
      exact hl.add user url
  next number =>
      split
      next => exact h
      next c hc =>
          apply h.modifyTable
          intro t ht
          rw [Table.urls_insert]
          exact ht.add user url

theorem Sound.remove (h : s.Sound) (store : Store) (user url : String) :
    (s.remove store user url).2.1.Sound := by
  unfold Storage.remove
  split
  next => exact h
  next number =>
      apply h.modifyListings
      intro l hl
      rw [Listings.urls_remove]
      exact hl.remove user url
  next number =>
      split
      next => exact h
      next c hc =>
          apply h.modifyTable
          intro t ht
          rw [Table.urls_delete]
          exact ht.remove user url

theorem Sound.close (h : s.Sound) (store : Store) : (s.close store).Sound := by
  cases store with
  | volatile number => exact h
  | durable number => exact ⟨h.volatiles, h.databases⟩

theorem mem_require {d required : Database} {name : String}
    (h : d.require name = .ok required) {t : Table} (ht : t ∈ required) :
    t ∈ d ∨ t.rows = [] := by
  unfold Database.require at h
  split_ifs at h
  · obtain rfl := Except.ok.inj h
    exact Or.inl ht
  · obtain rfl := Except.ok.inj h
    rcases List.mem_append.mp ht with ht | ht
    · exact Or.inl ht
    · obtain rfl := List.mem_singleton.mp ht
      exact Or.inr rfl

theorem Sound.openStore (h : s.Sound) (config : StoreConfig) :
    (s.openStore config).2.1.Sound := by
  unfold Storage.openStore
  split
  next =>
      refine ⟨?_, h.databases⟩
      intro l hl
      rcases List.mem_append.mp hl with hl | hl
      · exact h.volatiles l hl
      · obtain rfl := List.mem_singleton.mp hl
        exact Roll.distinct_empty
  next =>
      split
      next => exact h
      next store t hopen =>
          obtain ⟨seat, d, hrequire, -, rfl⟩ := openDurable_eq_ok hopen
          have hput : (s.putDatabase seat d).Sound := by
            apply h.putDatabase
            intro table htable
            rcases mem_require hrequire htable with hold | hrows
            · exact h.database seat hold
            · intro user
              simp [Table.urls, hrows]
          exact ⟨hput.volatiles, hput.databases⟩

/-! ## Runs -/

theorem Sound.act {r : Run} (h : r.storage.Sound) (store : Store)
    (action : Action) : (r.act store action).2.1.storage.Sound := by
  cases action with
  | share name => exact h
  | list user =>
      simp only [Run.act]
      split <;> exact h
  | add user url => exact h.add store user url
  | remove user url => exact h.remove store user url
  | askOpen => exact h
  | close => exact h.close store

theorem Sound.step {r : Run} (h : r.storage.Sound) (step : Step) :
    (r.step step).2.1.storage.Sound := by
  cases step with
  | openAs name config =>
      have hopened := h.openStore config
      simp only [Run.step]
      split
      next fault t log heq =>
          rw [heq] at hopened
          exact hopened
      next store t log heq =>
          rw [heq] at hopened
          exact hopened
  | act name action =>
      simp only [Run.step]
      split
      next => exact h
      next store hstore => exact h.act store action

theorem Sound.steps {r : Run} (h : r.storage.Sound) (steps : List Step) :
    (r.steps steps).storage.Sound := by
  induction steps generalizing r with
  | nil => exact h
  | cons step steps ih => exact ih (h.step step)

end Storage

end Newsstand
