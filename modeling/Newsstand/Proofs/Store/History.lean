import Newsstand.Proofs.Store.Steps

/-!
# Listings follow from histories

What a store in memory lists for a user can be told from the accepted changes of
this user alone: which URLs there are, from the last change of each; and how they
are ordered, from the additions that brought them in.  Under which of its names
the store was called does not matter, and neither do calls about other users, be
they between, before or after those of the user, or missing.
-/

namespace Newsstand

/-! ## What a history tells -/

namespace Change

/-- A list of URLs is what a history tells of a user: a URL is in it if the last
change of this subscription has added it, and the URLs are in the order of the
changes that brought them in. -/
structure Tells (changes : List Change) (user : String) (urls : List String) :
    Prop where
  nodup : urls.Nodup
  mem : ∀ url, url ∈ urls ↔
    (changes.filter (·.row = ⟨user, url⟩)).getLast? = some (.add ⟨user, url⟩)
  ordered : ∃ place : String → ℕ,
    (∀ url ∈ urls, ∀ i, BringsIn changes ⟨user, url⟩ i ↔ i = place url) ∧
      urls.Pairwise fun a b => place a < place b

theorem mem_ofRows (rows : List Subscription) (user url : String) :
    url ∈ Roll.ofRows rows user ↔ ⟨user, url⟩ ∈ rows :=
  (Table.mem_urls ⟨"", rows⟩ ⟨user, url⟩).trans List.contains_iff_mem

/-- The rows that come of a history are those that the history tells of. -/
theorem tells_ofRows_replay (changes : List Change) (user : String) :
    Tells changes user (Roll.ofRows (replay changes) user) := by
  have hrow : ∀ row ∈ (replay changes).filter (·.user == user),
      row ∈ replay changes ∧ row = ⟨user, row.url⟩ := by
    intro row hmem
    obtain ⟨hmem, huser⟩ := List.mem_filter.mp hmem
    exact ⟨hmem, by rw [← eq_of_beq huser]⟩
  obtain ⟨place, hplace, hsorted⟩ := exists_places changes
  refine ⟨?_, fun url => ?_, fun url => place ⟨user, url⟩, ?_, ?_⟩
  · refine List.Nodup.map_on (fun a ha b hb hurl => ?_)
      ((nodup_replay changes).filter _)
    rw [(hrow a ha).2, (hrow b hb).2, hurl]
  · rw [mem_ofRows, mem_replay]
  · intro url hurl i
    have hbrings := hplace _ ((mem_ofRows _ _ _).mp hurl)
    exact ⟨fun hi => hi.unique hbrings, fun hi => hi ▸ hbrings⟩
  · refine List.pairwise_map.mpr ((hsorted.filter _).imp_of_mem ?_)
    intro a b ha hb hlt
    show place ⟨user, a.url⟩ < place ⟨user, b.url⟩
    rwa [← (hrow a ha).2, ← (hrow b hb).2]

/-- What the rows of a history list for a user comes from the changes of this
user. -/
theorem ofRows_replay (changes : List Change) (user : String) :
    Roll.ofRows (replay changes) user =
      Roll.ofRows (replay (changes.filter (·.row.user = user))) user := by
  have hfilter := replay_filter_user changes user
  rw [Roll.ofRows, Roll.ofRows, ← hfilter, List.filter_filter]
  congr 1
  exact List.filter_congr fun row _ => by simp [beq_eq_decide]

end Change

namespace Storage

open Newsstand.Text

variable {r t : Run} {first : String} {store : Store}
  {rows others : List Subscription}

/-! ## Calls of one store -/

/-- The step that makes a call under a name. -/
def Call.step (entry : String × Call) : Step :=
  .act entry.1 entry.2.action

/-- The change that a call makes, if it asks for one that is valid. -/
def Call.granted (call : Call) : List Change :=
  match call.action.change? with
  | some change =>
      if isBlankString change.row.user ∨ isBlankString change.row.url then []
      else [change]
  | none => []

/-- Whether a call can matter to what a user is listed. -/
def Call.concerns (user : String) : Call → Bool
  | .share _ => true
  | .list _ => false
  | .add changed _ => changed = user
  | .remove changed _ => changed = user

theorem Call.granted_filter {call : Call} {user : String}
    (h : ¬call.concerns user) :
    call.granted.filter (·.row.user = user) = [] := by
  rw [List.filter_eq_nil_iff]
  intro change hchange
  cases call with
  | share name => cases hchange
  | list user => cases hchange
  | add changed url =>
      simp only [granted, action, Action.change?] at hchange
      split at hchange
      · cases hchange
      · obtain rfl := List.mem_singleton.mp hchange
        exact h
  | remove changed url =>
      simp only [granted, action, Action.change?] at hchange
      split at hchange
      · cases hchange
      · obtain rfl := List.mem_singleton.mp hchange
        exact h

/-- All names of a run stand for one store, the first name among them, and the
store lists what is in the rows. -/
structure Run.Shares (r : Run) (first : String) (store : Store)
    (rows : List Subscription) : Prop where
  first : r.stores.lookup first = some store
  named : ∀ name held, r.stores.lookup name = some held → held = store
  holds : r.storage.Holds store (Roll.ofRows rows)

/-- A valid change is made in the store of the name. -/
theorem Run.step_of_holds {name : String} {roll : Roll}
    (hname : r.stores.lookup name = some store)
    (h : r.storage.Holds store roll) (change : Change)
    (hvalid : requireUserAndUrl change.row.user change.row.url = .ok ()) :
    ∃ s log, r.step (.act name (.ofChange change)) =
        (.done, { r with storage := s }, log) ∧
      s.Holds store (change.onRoll roll) := by
  cases change with
  | add row =>
      rw [Change.row_add] at hvalid
      obtain ⟨hok, hholds⟩ := h.add hvalid
      refine ⟨_, (r.storage.add store row.user row.url).2.2, ?_, hholds⟩
      simp only [Action.ofChange, Run.step, hname, Run.act, hok, Reply.ofChange]
  | remove row =>
      rw [Change.row_remove] at hvalid
      obtain ⟨hok, hholds⟩ := h.remove hvalid
      refine ⟨_, (r.storage.remove store row.user row.url).2.2, ?_, hholds⟩
      simp only [Action.ofChange, Run.step, hname, Run.act, hok, Reply.ofChange]

/-- A change that is asked for under a name of the store is made if it is
valid. -/
theorem Run.Shares.change (h : r.Shares first store rows) {name : String}
    (hname : r.stores.lookup name = some store) (change : Change) :
    let step := Step.act name (.ofChange change)
    let granted :=
      if isBlankString change.row.user ∨ isBlankString change.row.url then []
      else [change]
    r.accepted (fun _ _ => true) step = granted ∧
      (r.step step).2.1.Shares first store
        (granted.foldl Change.apply rows) := by
  intro step granted
  by_cases hblank : isBlankString change.row.user ∨ isBlankString change.row.url
  · obtain ⟨fault, -, hstep⟩ : ∃ fault : StoreFault, fault.isValidation ∧
        r.step step = (.failed fault, r, []) := by
      obtain ⟨fault, hvalidation, hadd, hremove⟩ :=
        Run.step_of_blank hname hblank
      exact ⟨fault, hvalidation, by cases change <;> assumption⟩
    have hreply := congrArg Prod.fst hstep
    simp only [step, Run.step, hname] at hreply
    have hgranted : granted = [] := if_pos hblank
    rw [hstep, hgranted]
    refine ⟨?_, h⟩
    simp [step, Run.accepted, hname, Action.change?_ofChange, hreply]
  · obtain ⟨t, log, hstep, hholds⟩ := Run.step_of_holds hname h.holds change
      (requireUserAndUrl_eq_ok_iff.mpr (not_or.mp hblank))
    have hreply := congrArg Prod.fst hstep
    simp only [Run.step, hname] at hreply
    have hgranted : granted = [change] := if_neg hblank
    rw [hstep, hgranted]
    refine ⟨?_, h.first, h.named, ?_⟩
    · simp [step, Run.accepted, hname, Action.change?_ofChange, hreply]
    · rw [List.foldl_cons, List.foldl_nil, Change.ofRows_apply]
      exact hholds

/-- A call under a name of the store makes the change that it is granted. -/
theorem Run.Shares.call (h : r.Shares first store rows) {name : String}
    (hname : r.stores.lookup name = some store) (call : Call) :
    r.accepted (fun _ _ => true) (Call.step (name, call)) = call.granted ∧
      (r.step (Call.step (name, call))).2.1.Shares first store
        (call.granted.foldl Change.apply rows) := by
  cases call with
  | share clone =>
      simp only [Call.step, Call.action, Run.accepted, Run.step, hname, Run.act,
        Action.change?, Call.granted, List.foldl_nil, true_and]
      refine ⟨?_, fun other held hheld => ?_, h.holds⟩
      · rw [lookup_name]
        split
        · rfl
        · exact h.first
      · rw [lookup_name] at hheld
        split at hheld
        · exact (Option.some.inj hheld).symm
        · exact h.named other held hheld
  | list user =>
      simp only [Call.step, Call.action, Run.accepted, Run.step, hname, Run.act,
        Action.change?, h.holds.list user, Call.granted, List.foldl_nil,
        true_and]
      exact h
  | add user url => exact h.change hname (.add ⟨user, url⟩)
  | remove user url => exact h.change hname (.remove ⟨user, url⟩)

theorem Run.Shares.accepted (h : r.Shares first store rows)
    (entry : String × Call) :
    r.accepted (fun _ _ => true) (Call.step entry) =
      if (r.stores.lookup entry.1).isSome then entry.2.granted else [] := by
  obtain ⟨name, call⟩ := entry
  cases hname : r.stores.lookup name with
  | none => simp only [Call.step, Run.accepted, hname, Option.isSome_none,
      Bool.false_eq_true, if_false]
  | some held =>
      obtain rfl := h.named name held hname
      exact (h.call hname call).1

theorem Run.Shares.step (h : r.Shares first store rows)
    (entry : String × Call) :
    (r.step (Call.step entry)).2.1.Shares first store
      ((r.accepted (fun _ _ => true) (Call.step entry)).foldl Change.apply
        rows) := by
  obtain ⟨name, call⟩ := entry
  cases hname : r.stores.lookup name with
  | none =>
      rw [h.accepted, hname]
      simp only [Call.step, Run.step, hname]
      exact h
  | some held =>
      obtain rfl := h.named name held hname
      obtain ⟨haccepted, hshares⟩ := h.call hname call
      rw [haccepted]
      exact hshares

/-- After calls one after another the store lists what their history makes of
the rows. -/
theorem Run.Shares.steps (h : r.Shares first store rows)
    (calls : List (String × Call)) :
    (r.steps (calls.map Call.step)).Shares first store
      ((r.history (fun _ _ => true) (calls.map Call.step)).foldl Change.apply
        rows) := by
  induction calls generalizing r rows with
  | nil => exact h
  | cons entry calls ih =>
      rw [List.map_cons, Run.steps, Run.history, List.foldl_append]
      exact ih (h.step entry)

/-! ## Other users -/

theorem Run.stores_step_congr (h : r.stores = t.stores)
    (entry : String × Call) :
    (r.step (Call.step entry)).2.1.stores =
      (t.step (Call.step entry)).2.1.stores := by
  obtain ⟨name, call⟩ := entry
  simp only [Call.step, Run.step, h]
  cases t.stores.lookup name with
  | none => exact h
  | some held =>
      cases call with
      | share clone => simp only [Call.action, Run.act, Run.name, h]
      | list user =>
          simp only [Call.action, Run.act]
          split <;> split <;> exact h
      | add user url => exact h
      | remove user url => exact h

theorem Run.stores_step_of_not_concerns {user : String} {entry : String × Call}
    (h : ¬entry.2.concerns user) :
    (r.step (Call.step entry)).2.1.stores = r.stores := by
  obtain ⟨name, call⟩ := entry
  simp only [Call.step, Run.step]
  cases r.stores.lookup name with
  | none => rfl
  | some held =>
      cases call with
      | share clone => exact absurd rfl h
      | list user =>
          simp only [Call.action, Run.act]
          split <;> rfl
      | add user url => rfl
      | remove user url => rfl

/-- The part of the history that is about a user does not depend on calls that do
not concern this user. -/
theorem Run.Shares.history_filter (h : r.Shares first store rows)
    (ht : t.Shares first store others) (hstores : r.stores = t.stores)
    (calls : List (String × Call)) (user : String) :
    (r.history (fun _ _ => true) (calls.map Call.step)).filter
        (·.row.user = user) =
      (t.history (fun _ _ => true)
        ((calls.filter (·.2.concerns user)).map Call.step)).filter
          (·.row.user = user) := by
  induction calls generalizing r t rows others with
  | nil => rfl
  | cons entry calls ih =>
      rw [List.map_cons, Run.history, List.filter_append]
      by_cases hconcerns : entry.2.concerns user
      · rw [List.filter_cons, if_pos hconcerns, List.map_cons, Run.history,
          List.filter_append, h.accepted, ht.accepted, hstores,
          ih (h.step entry) (ht.step entry)
            (Run.stores_step_congr hstores entry)]
      · have hnone : (r.accepted (fun _ _ => true) (Call.step entry)).filter
            (·.row.user = user) = [] := by
          rw [h.accepted]
          split
          · exact Call.granted_filter hconcerns
          · rfl
        rw [List.filter_cons, if_neg hconcerns, hnone, List.nil_append,
          ih (h.step entry) ht
            ((Run.stores_step_of_not_concerns hconcerns).trans hstores)]

/-! ## The listing of a user -/

theorem Run.shares_openAs (directory : Directory) (name : String)
    {config : StoreConfig} (hmemory : config.backend = .volatile) :
    ((Run.start directory).step (.openAs name config)).2.1.Shares name
      (.volatile 0) (Change.replay []) := by
  simp only [Run.step, openStore, hmemory]
  refine ⟨?_, fun other held hheld => ?_, holds_openVolatile _⟩
  · rw [lookup_name, if_pos rfl]
    rfl
  · rw [lookup_name] at hheld
    split at hheld
    · exact (Option.some.inj hheld).symm
    · cases hheld

/-- Changes of blank users or URLs are refused as not valid under a name and have
no effect, and all other changes are accepted. -/
structure Run.Checks (r : Run) (name : String) : Prop where
  refused : ∀ user url, isBlankString user ∨ isBlankString url →
    ∃ fault : StoreFault, fault.isValidation ∧
      r.step (.act name (.add user url)) = (.failed fault, r, []) ∧
      r.step (.act name (.remove user url)) = (.failed fault, r, [])
  accepted : ∀ user url, ¬isBlankString user → ¬isBlankString url →
    (r.step (.act name (.add user url))).1 = .done ∧
      (r.step (.act name (.remove user url))).1 = .done

theorem Run.Shares.checks (h : r.Shares first store rows) {name : String}
    {held : Store} (hname : r.stores.lookup name = some held) :
    r.Checks name := by
  obtain rfl := h.named name held hname
  refine ⟨fun user url => Run.step_of_blank hname,
    fun user url huser hurl => ?_⟩
  have hvalid := requireUserAndUrl_eq_ok_iff.mpr ⟨huser, hurl⟩
  obtain ⟨_, _, hadd, -⟩ :=
    Run.step_of_holds hname h.holds (.add ⟨user, url⟩) hvalid
  obtain ⟨_, _, hremove, -⟩ :=
    Run.step_of_holds hname h.holds (.remove ⟨user, url⟩) hvalid
  exact ⟨congrArg Prod.fst hadd, congrArg Prod.fst hremove⟩

/-- A store in memory lists for a user, under each of its names, what the history
of the accepted changes tells of this user, and the part of the history that is
about the user is enough for that.  Calls that do not concern the user may be put
in, left out or moved, and the user is listed the same.  Only changes of blank
users or URLs are refused, which have no effect. -/
theorem listing_follows_history (directory : Directory) (name : String)
    (config : StoreConfig) (hmemory : config.backend = .volatile)
    (calls : List (String × Call)) (user : String) :
    let opened := ((Run.start directory).step (.openAs name config)).2.1
    let r := opened.steps (calls.map Call.step)
    let h := opened.history (fun _ _ => true) (calls.map Call.step)
    (∀ known, (r.stores.lookup known).isSome → r.Checks known) ∧
      ∃ urls, Change.Tells h user urls ∧
        urls = Roll.ofRows (Change.replay (h.filter (·.row.user = user))) user ∧
        ∀ others : List (String × Call),
          others.filter (·.2.concerns user) = calls.filter (·.2.concerns user) →
          let t := opened.steps (others.map Call.step)
          (t.stores.lookup name).isSome ∧
            ∀ known, (t.stores.lookup known).isSome →
              t.step (.act known (.list user)) = (.urls urls, t, []) := by
  intro opened r h
  have hopened : opened.Shares name (.volatile 0) (Change.replay []) :=
    Run.shares_openAs directory name hmemory
  have hlisted : ∀ others : List (String × Call),
      (opened.steps (others.map Call.step)).Shares name (.volatile 0)
        (Change.replay
          (opened.history (fun _ _ => true) (others.map Call.step))) :=
    fun others => hopened.steps others
  refine ⟨fun known hknown => ?_, Roll.ofRows (Change.replay h) user,
    Change.tells_ofRows_replay h user, Change.ofRows_replay h user, ?_⟩
  · obtain ⟨held, hheld⟩ := Option.isSome_iff_exists.mp hknown
    exact (hlisted calls).checks hheld
  · intro others hothers t
    refine ⟨by rw [(hlisted others).first, Option.isSome_some],
      fun known hknown => ?_⟩
    obtain ⟨held, hheld⟩ := Option.isSome_iff_exists.mp hknown
    obtain rfl := (hlisted others).named known held hheld
    have hhistory : (opened.history (fun _ _ => true)
        (others.map Call.step)).filter (·.row.user = user) =
          h.filter (·.row.user = user) := by
      rw [hopened.history_filter hopened rfl others, hothers,
        ← hopened.history_filter hopened rfl calls]
    have hlist := (hlisted others).holds.list user
    rw [Change.ofRows_replay, hhistory, ← Change.ofRows_replay] at hlist
    simp only [Run.step, hheld, Run.act, t, hlist]

/-- A URL that is there is added again, another one is removed and comes back
behind it, and a third one is refused; without the calls of the other user the
list is the same. -/
theorem listing_follows_history_past_removals :
    let calls : List (String × Call) :=
      [("s", .add "ann" "a"), ("s", .add "bob" "b"), ("s", .share "t"),
        ("t", .add "ann" "b"), ("t", .remove "ann" "a"), ("s", .add "ann" " "),
        ("s", .add "ann" "b"), ("s", .remove "bob" "b"), ("t", .add "ann" "a"),
        ("s", .list "bob")]
    let others : List (String × Call) :=
      [("t", .list "bob"), ("s", .add "ann" "a"), ("s", .share "t"),
        ("t", .add "ann" "b"), ("t", .remove "ann" "a"), ("s", .add "ann" " "),
        ("s", .add "ann" "b"), ("t", .add "ann" "a"), ("t", .add "bob" "a")]
    let opened := ((Run.start ⟨[]⟩).step (.openAs "s" {})).2.1
    let h := opened.history (fun _ _ => true) (calls.map Call.step)
    let t := opened.steps (others.map Call.step)
    h = [.add ⟨"ann", "a"⟩, .add ⟨"bob", "b"⟩, .add ⟨"ann", "b"⟩,
        .remove ⟨"ann", "a"⟩, .add ⟨"ann", "b"⟩, .remove ⟨"bob", "b"⟩,
        .add ⟨"ann", "a"⟩] ∧
      Change.Tells h "ann" ["b", "a"] ∧
      (opened.steps (calls.map Call.step)).Checks "t" ∧
      t.step (.act "t" (.list "ann")) = (.urls ["b", "a"], t, []) := by
  intro calls others opened h t
  have hh : h = [.add ⟨"ann", "a"⟩, .add ⟨"bob", "b"⟩, .add ⟨"ann", "b"⟩,
      .remove ⟨"ann", "a"⟩, .add ⟨"ann", "b"⟩, .remove ⟨"bob", "b"⟩,
      .add ⟨"ann", "a"⟩] := by decide +kernel
  obtain ⟨hchecks, urls, htells, hurls, hlists⟩ :=
    listing_follows_history ⟨[]⟩ "s" {} rfl calls "ann"
  obtain rfl : urls = ["b", "a"] := hurls.trans (by decide +kernel)
  obtain ⟨-, hlist⟩ := hlists others (by decide +kernel)
  exact ⟨hh, htells, hchecks "t" (by decide +kernel),
    hlist "t" (by decide +kernel)⟩

end Storage

end Newsstand
