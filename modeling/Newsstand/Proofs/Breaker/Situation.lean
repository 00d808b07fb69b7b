import Mathlib.Data.Multiset.AddSub
import Newsstand.Breaker.Run
import Newsstand.Proofs.Support.DistinctKeys

/-!
# Situations of a circuit breaker

A situation is a breaker together with the time and the permits that are still
to be settled.  Three kinds of acts change it: somebody asks to make a call,
somebody settles a permit, or time passes.  Permits of one kind are alike, so
they form a multiset, and any of them may be settled next.

A run in which permits go by names takes the same way: `Run.situation_steps`
shows that every step of it comes to at most two acts.  The laws of a breaker
are therefore stated for acts.
-/

namespace Newsstand.Breaker

/-- An act on a breaker in use. -/
inductive Act where
  | ask
  | settle (permit : Permit) (outcome : Outcome)
  | wait (ms : ℕ)
  deriving DecidableEq, Repr

/-- A breaker, the time, and the permits that are to be settled, in no order. -/
structure Situation where
  breaker : Breaker
  now : ℕ
  permits : Multiset Permit
  deriving DecidableEq

/-- A clock that starts again can come to any reading. -/
theorem exists_later_eq (now : ℕ) {reading : ℕ}
    (h : reading < UInt64.size) : ∃ ms, later now ms = reading := by
  refine ⟨reading + now * (UInt64.size - 1), ?_⟩
  have hsum : now + (reading + now * (UInt64.size - 1)) =
      reading + now * UInt64.size := by
    simp only [UInt64.size]
    omega
  rw [later, hsum, Nat.add_mul_mod_self_right, Nat.mod_eq_of_lt h]

namespace Situation

/-- A new breaker that nobody has asked yet. -/
def start (name : String) (config : BreakerConfig) (now : ℕ) : Situation :=
  ⟨.ofConfig name config, now, 0⟩

/-- What an act comes to.  Who holds no permit of the kind cannot settle one. -/
def act (s : Situation) : Act → Situation
  | .ask =>
      match s.breaker.ask s.now with
      | (some permit, breaker, _) =>
          { s with breaker, permits := permit ::ₘ s.permits }
      | (none, breaker, _) => { s with breaker }
  | .settle permit outcome =>
      if permit ∈ s.permits then
        { s with
          breaker := (s.breaker.settle s.now permit outcome).1
          permits := s.permits.erase permit }
      else s
  | .wait ms => { s with now := later s.now ms }

/-- The situation after some acts, which are listed from the latest to the
first. -/
def after (s : Situation) : List Act → Situation
  | [] => s
  | a :: past => (s.after past).act a

@[simp] theorem after_nil (s : Situation) : s.after [] = s := rfl

@[simp] theorem after_cons (s : Situation) (a : Act) (past : List Act) :
    s.after (a :: past) = (s.after past).act a := rfl

theorem after_append (s : Situation) (recent past : List Act) :
    s.after (recent ++ past) = (s.after past).after recent := by
  induction recent with
  | nil => rfl
  | cons a recent ih =>
      simp only [List.cons_append, after_cons, ih]

theorem act_ask_of_none {s : Situation} {breaker : Breaker} {log : Log}
    (hask : s.breaker.ask s.now = (none, breaker, log)) :
    s.act .ask = { s with breaker } := by
  simp only [act, hask]

theorem act_ask_of_some {s : Situation} {permit : Permit} {breaker : Breaker}
    {log : Log} (hask : s.breaker.ask s.now = (some permit, breaker, log)) :
    s.act .ask = { s with breaker, permits := permit ::ₘ s.permits } := by
  simp only [act, hask]

theorem act_settle_of_mem {s : Situation} {permit : Permit}
    (hheld : permit ∈ s.permits) (outcome : Outcome) :
    s.act (.settle permit outcome) =
      { s with
        breaker := (s.breaker.settle s.now permit outcome).1
        permits := s.permits.erase permit } := by
  simp only [act, if_pos hheld]

theorem act_settle_of_not_mem {s : Situation} {permit : Permit}
    (hheld : permit ∉ s.permits) (outcome : Outcome) :
    s.act (.settle permit outcome) = s := by
  simp only [act, if_neg hheld]

/-- One permit more makes no difference to the settling of another one. -/
theorem act_settle_cons {s : Situation} {permit : Permit}
    (hheld : permit ∈ s.permits) (outcome : Outcome) (other : Permit) :
    act { s with permits := other ::ₘ s.permits } (.settle permit outcome) =
      { s.act (.settle permit outcome) with
        permits := other ::ₘ (s.act (.settle permit outcome)).permits } := by
  rw [act_settle_of_mem hheld,
    act_settle_of_mem (Multiset.mem_cons_of_mem hheld)]
  simp only [Multiset.erase_cons_tail_of_mem hheld]

/-! ## The clock -/

/-- The milliseconds that pass in some acts. -/
def waited : List Act → ℕ
  | [] => 0
  | .wait ms :: past => waited past + ms
  | _ :: past => waited past

/-- The clock goes back at no act.  It does only when it starts again. -/
def Steady (s : Situation) : List Act → Prop
  | [] => True
  | a :: past => s.Steady past ∧ (s.after past).now ≤ (s.after (a :: past)).now

theorem ask_now (s : Situation) : (s.act .ask).now = s.now := by
  simp only [act]
  split <;> rfl

theorem settle_now (s : Situation) (permit : Permit) (outcome : Outcome) :
    (s.act (.settle permit outcome)).now = s.now := by
  simp only [act]
  split <;> rfl

/-- As long as the largest number of the clock is not reached, it reads what has
passed. -/
theorem after_now (s : Situation) {past : List Act}
    (h : s.now + waited past < UInt64.size) :
    (s.after past).now = s.now + waited past := by
  induction past with
  | nil => rfl
  | cons a past ih =>
      cases a with
      | ask =>
          rw [after_cons, ask_now]
          exact ih h
      | settle permit outcome =>
          rw [after_cons, settle_now]
          exact ih h
      | wait ms =>
          simp only [waited] at h ⊢
          have hpast := ih (by omega)
          simp only [after_cons, act, later, hpast]
          rw [Nat.mod_eq_of_lt (by omega), Nat.add_assoc]

theorem waited_le_cons (a : Act) (past : List Act) :
    waited past ≤ waited (a :: past) := by
  cases a <;> simp [waited]

/-- A clock that does not reach its largest number never goes back. -/
theorem steady_of_waited_lt (s : Situation) (past : List Act)
    (h : s.now + waited past < UInt64.size) : s.Steady past := by
  induction past with
  | nil => trivial
  | cons a past ih =>
      have hle := waited_le_cons a past
      refine ⟨ih (by omega), ?_⟩
      rw [after_now s h, after_now s (by omega)]
      omega

end Situation

/-! ## Runs with named permits -/

namespace Run

/-- The situation of a run, which forgets the names of its permits. -/
def situation (r : Run) : Situation :=
  ⟨r.breaker, r.now, ↑(r.permits.map Prod.snd)⟩

/-- No two permits of the run go by one name. -/
def NamesDistinct (r : Run) : Prop :=
  (r.permits.map Prod.fst).Nodup

/-- Where names are distinct, taking away a name takes away one permit. -/
theorem permits_of_lookup {r : Run} (hdistinct : r.NamesDistinct)
    {holder : String} {permit : Permit}
    (hlookup : r.permits.lookup holder = some permit) :
    r.situation.permits =
      permit ::ₘ ↑((r.permits.filter (·.1 != holder)).map Prod.snd) := by
  have hperm := perm_cons_filter_key hdistinct (mem_of_lookup hlookup)
  exact Multiset.coe_eq_coe.mpr (hperm.map Prod.snd)

/-- A permit is settled by its name as it is by its kind. -/
theorem situation_settle {r : Run} (hdistinct : r.NamesDistinct)
    {holder : String} {permit : Permit}
    (hlookup : r.permits.lookup holder = some permit) (outcome : Outcome) :
    permit ∈ r.situation.permits ∧
      (r.settle holder outcome).2.1.situation =
        r.situation.act (.settle permit outcome) := by
  have hpermits := permits_of_lookup hdistinct hlookup
  have hheld : permit ∈ r.situation.permits := by
    rw [hpermits]
    exact Multiset.mem_cons_self _ _
  refine ⟨hheld, ?_⟩
  rw [Situation.act_settle_of_mem hheld, hpermits, Multiset.erase_cons_head]
  simp only [settle, hlookup]
  rfl

theorem settle_of_lookup_none {r : Run} {holder : String}
    (hlookup : r.permits.lookup holder = none) (outcome : Outcome) :
    (r.settle holder outcome).2.1 = r := by
  simp only [settle, hlookup]

theorem NamesDistinct.settle {r : Run} (hdistinct : r.NamesDistinct)
    (holder : String) (outcome : Outcome) :
    (r.settle holder outcome).2.1.NamesDistinct := by
  unfold Run.settle
  split
  · exact hdistinct
  · exact nodup_map_filter hdistinct _

/-- Once its permit is settled, a name is free. -/
theorem not_mem_names_settle (r : Run) (holder : String)
    (outcome : Outcome) :
    holder ∉ (r.settle holder outcome).2.1.permits.map Prod.fst := by
  unfold Run.settle
  split
  next hlookup =>
      rw [List.lookup_eq_none_iff] at hlookup
      intro hmem
      obtain ⟨held, hheld, hname⟩ := List.mem_map.mp hmem
      simpa [hname] using hlookup held hheld
  next => simp

theorem NamesDistinct.step {r : Run} (hdistinct : r.NamesDistinct)
    (step : Step) : (r.step step).2.1.NamesDistinct := by
  cases step with
  | call holder =>
      simp only [Run.step]
      split
      · exact hdistinct
      next permit breaker log hask =>
          have hasked : NamesDistinct { r with breaker } := hdistinct
          exact List.nodup_cons.mpr
            ⟨not_mem_names_settle _ holder .abandoned,
              hasked.settle holder .abandoned⟩
  | callWith outcome =>
      simp only [Run.step]
      split <;> exact hdistinct
  | settle holder outcome =>
      have hsettled := hdistinct.settle holder outcome
      simp only [Run.step]
      split <;> simp_all
  | advance ms => exact hdistinct

/-- A step of a run comes to at most two acts. -/
theorem situation_step {r : Run} (hdistinct : r.NamesDistinct)
    (step : Step) :
    ∃ acts, (r.step step).2.1.situation = r.situation.after acts := by
  cases step with
  | call holder =>
      simp only [Run.step]
      split
      next breaker log hask =>
          refine ⟨[.ask], ?_⟩
          rw [Situation.after_cons, Situation.after_nil,
            Situation.act_ask_of_none (s := r.situation) hask]
          rfl
      next permit breaker log hask =>
          let asked : Run := { r with breaker }
          -- The new permit is kept only when the old one of its name is gone.
          cases hlookup : asked.permits.lookup holder with
          | none =>
              refine ⟨[.ask], ?_⟩
              rw [Situation.after_cons, Situation.after_nil,
                Situation.act_ask_of_some (s := r.situation) hask,
                settle_of_lookup_none hlookup]
              rfl
          | some old =>
              obtain ⟨hheld, hsettle⟩ :=
                situation_settle (r := asked) hdistinct hlookup .abandoned
              refine ⟨[.settle old .abandoned, .ask], ?_⟩
              have hcons :=
                Situation.act_settle_cons hheld .abandoned permit
              rw [Situation.after_cons, Situation.after_cons,
                Situation.after_nil,
                Situation.act_ask_of_some (s := r.situation) hask]
              refine Eq.trans ?_ hcons.symm
              rw [← hsettle]
              rfl
  | callWith outcome =>
      simp only [Run.step]
      split
      next breaker log hask =>
          refine ⟨[.ask], ?_⟩
          rw [Situation.after_cons, Situation.after_nil,
            Situation.act_ask_of_none (s := r.situation) hask]
          rfl
      next permit breaker log hask =>
          have hfresh : permit ∈ permit ::ₘ r.situation.permits :=
            Multiset.mem_cons_self _ _
          refine ⟨[.settle permit outcome, .ask], ?_⟩
          rw [Situation.after_cons, Situation.after_cons, Situation.after_nil,
            Situation.act_ask_of_some (s := r.situation) hask]
          simp only [Situation.act, if_pos hfresh, Multiset.erase_cons_head]
          rfl
  | settle holder outcome =>
      cases hlookup : r.permits.lookup holder with
      | none =>
          refine ⟨[], ?_⟩
          simp only [Run.step, Run.settle, hlookup, Situation.after_nil]
      | some permit =>
          refine ⟨[.settle permit outcome], ?_⟩
          rw [Situation.after_cons, Situation.after_nil,
            ← (situation_settle hdistinct hlookup outcome).2]
          simp only [Run.step, Run.settle, hlookup]
  | advance ms => exact ⟨[.wait ms], rfl⟩

/-- Whatever steps a run takes, acts lead from its start to its situation. -/
theorem situation_steps (name : String) (config : BreakerConfig)
    (steps : List Step) :
    ∃ past, ((start name config).steps steps).situation =
      (Situation.start name config 0).after past := by
  have hrun : ∀ (steps : List Step) (r : Run), r.NamesDistinct →
      ∃ past, (r.steps steps).situation = r.situation.after past := by
    intro steps
    induction steps with
    | nil =>
        intro r _
        exact ⟨[], rfl⟩
    | cons step steps ih =>
        intro r hdistinct
        obtain ⟨acts, hacts⟩ := situation_step hdistinct step
        obtain ⟨past, hpast⟩ := ih _ (hdistinct.step step)
        refine ⟨past ++ acts, ?_⟩
        rw [Run.steps, hpast, hacts, Situation.after_append]
  exact hrun steps (start name config) List.nodup_nil

end Run

end Newsstand.Breaker
