import Mathlib.Data.Nat.Notation
import Newsstand.Toml.Cursor

/-!
# What readers give

A reader that is put together from others gives what its last part gives.  There
is one rule for each way to put readers together, so that a reader need not be
run to know what it gives: either on every text, or at one place of a text
together with the place behind it.
-/

namespace Newsstand.Toml.Reader

variable {α β : Type} {r : Reader α}

/-! ## At one place -/

/-- What the reader gives at a place, and the place behind it, have the
property. -/
def GivesAt (r : Reader α) (c : Cursor) (P : α → Cursor → Prop) : Prop :=
  ∀ ⦃a c'⦄, r c = .ok (a, c') → P a c'

theorem GivesAt.bind {c : Cursor} {P : α → Cursor → Prop}
    {Q : β → Cursor → Prop} {f : α → Reader β} (hr : GivesAt r c P)
    (hf : ∀ a c₁, P a c₁ → GivesAt (f a) c₁ Q) : GivesAt (r >>= f) c Q := by
  intro b c' h
  change (r c).bind (fun result => f result.1 result.2) = _ at h
  cases hc : r c with
  | error stop =>
      rw [hc] at h
      cases h
  | ok result =>
      rw [hc] at h
      exact hf result.1 result.2 (hr hc) h

theorem givesAt_pure {a : α} {c : Cursor} {P : α → Cursor → Prop} (h : P a c) :
    GivesAt (pure a) c P := by
  intro b c' hr
  cases hr
  exact h

theorem givesAt_failAt {pos : ℕ} {c : Cursor} {P : α → Cursor → Prop} :
    GivesAt (failAt pos) c P := by
  intro a c' hr
  cases hr

theorem givesAt_get (c : Cursor) : GivesAt get c fun a c' => a = c ∧ c' = c := by
  intro a c' hr
  cases hr
  exact ⟨rfl, rfl⟩

theorem givesAt_position (c : Cursor) : GivesAt position c fun _ c' => c' = c := by
  intro a c' hr
  cases hr
  rfl

theorem givesAt_peek? (c : Cursor) :
    GivesAt peek? c fun next? c' => next? = c.rest.head? ∧ c' = c := by
  intro a c' hr
  cases hr
  exact ⟨rfl, rfl⟩

theorem givesAt_fail {c : Cursor} {P : α → Cursor → Prop} : GivesAt fail c P :=
  (givesAt_position c).bind fun _ _ _ => givesAt_failAt

/-! ## On every text -/

variable {P : α → Prop}

/-- Every value that the reader gives has the property. -/
def Gives (r : Reader α) (P : α → Prop) : Prop :=
  ∀ c, GivesAt r c fun a _ => P a

theorem gives_pure {a : α} (h : P a) : Gives (pure a : Reader α) P :=
  fun _ => givesAt_pure h

theorem gives_failAt (pos : ℕ) : Gives (failAt pos : Reader α) P :=
  fun _ => givesAt_failAt

theorem gives_fail : Gives (fail : Reader α) P :=
  fun _ => givesAt_fail

theorem Gives.bind {Q : β → Prop} {f : α → Reader β} (hr : Gives r P)
    (hf : ∀ a, P a → Gives (f a) Q) : Gives (r >>= f) Q :=
  fun c => (hr c).bind fun a c₁ ha => hf a ha c₁

/-- The rule for two parts where nothing is known of the first. -/
theorem gives_bind {Q : β → Prop} {f : α → Reader β}
    (hf : ∀ a, Gives (f a) Q) : Gives (r >>= f) Q :=
  Gives.bind (P := fun _ => True) (fun _ _ _ _ => trivial) fun a _ => hf a

theorem Gives.commit (h : Gives r P) : Gives (commit r) P := by
  intro c a c' hc
  simp only [Reader.commit] at hc
  split at hc
  next hr =>
      cases hc
      exact h c hr
  next => cases hc

theorem Gives.orElse {second : Reader α} (h : Gives r P)
    (hsecond : Gives second P) : Gives (orElse r second) P := by
  intro c a c' hc
  simp only [Reader.orElse] at hc
  split at hc
  next hr =>
      cases hc
      exact h c hr
  next =>
      split at hc
      · cases hc
      · exact hsecond c hc

theorem Gives.optional (h : Gives r P) :
    Gives (optional r) fun o => ∀ a ∈ o, P a := by
  refine Gives.orElse ?_ (gives_pure (by simp))
  exact h.bind fun a ha => gives_pure (by simpa using ha)

theorem Gives.many (h : Gives r P) (fuel : ℕ) {done : List α}
    (hdone : ∀ a ∈ done, P a) :
    Gives (many fuel done r) fun as => ∀ a ∈ as, P a := by
  induction fuel generalizing done with
  | zero => exact gives_pure (by simpa using hdone)
  | succ fuel ih =>
      refine h.optional.bind fun o ho => ?_
      cases o with
      | none => exact gives_pure (by simpa using hdone)
      | some a => exact ih (List.forall_mem_cons.mpr ⟨ho a rfl, hdone⟩)

theorem Gives.separated (h : Gives r P) (fuel : ℕ) (sep : Char) :
    Gives (separated fuel sep r) fun as => ∀ a ∈ as, P a := by
  refine h.optional.bind fun o ho => ?_
  cases o with
  | none => exact gives_pure (by simp)
  | some a => exact Gives.many (gives_bind fun _ => h) fuel (by simpa using ho)

end Newsstand.Toml.Reader
