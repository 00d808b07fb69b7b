import Mathlib.Data.List.Nodup
import Newsstand.Xml.Attribute

/-!
# Keys of attributes

Of the attributes of one tag that are not malformed no two have the same key:
one that repeats a key is malformed.  A tag therefore has at most one value
under a key.
-/

namespace Newsstand.Xml

/-- The key of an attribute that is not malformed. -/
def AttributeResult.key? : AttributeResult → Option (List Char)
  | .ok entry => some entry.key
  | .error _ => none

@[simp] theorem AttributeResult.key?_ok (entry : Attribute) :
    AttributeResult.key? (.ok entry) = some entry.key := rfl

/-- A value that is read belongs to the key before it. -/
theorem key_of_readValue {total : Nat} {key cs : List Char} {entry : Attribute}
    (h : (readValue total key cs).1 = .ok entry) : entry.key = key := by
  unfold readValue at h
  split at h
  next => cases h
  next =>
      split at h
      next =>
          split at h
          next =>
              cases h
              rfl
          next => cases h
      next => cases h

section Reading

variable (total : Nat) (seen : KeysSeen) (c : Char) (cs : List Char)

/-- What reading an attribute does to the keys met: the key of a good attribute
is new, and it is met behind it like those before. -/
theorem readAttribute_keys :
    (∀ key, key ∈ seen.map Prod.fst →
      key ∈ (readAttribute total seen c cs).2.1.map Prod.fst) ∧
    ∀ key, (readAttribute total seen c cs).1.key? = some key →
      key ∉ seen.map Prod.fst ∧
        key ∈ (readAttribute total seen c cs).2.1.map Prod.fst := by
  unfold readAttribute
  dsimp only
  split
  next => exact ⟨fun key hkey => hkey, fun key hkey => by cases hkey⟩
  next d rest hrest =>
      split
      next =>
          split
          next => exact ⟨fun key hkey => hkey, fun key hkey => by cases hkey⟩
          next hlookup =>
              refine ⟨fun key hkey => List.mem_cons_of_mem _ hkey, ?_⟩
              intro key hkey
              dsimp only at hkey ⊢
              cases hvalue : (readValue total (c :: cs.takeWhile inKey) rest).1 with
              | error fault =>
                  rw [hvalue] at hkey
                  cases hkey
              | ok entry =>
                  rw [hvalue] at hkey
                  obtain rfl := Option.some.inj hkey
                  rw [key_of_readValue hvalue]
                  refine ⟨?_, List.mem_cons_self⟩
                  rintro hmem
                  obtain ⟨p, hp, heq⟩ := List.mem_map.mp hmem
                  have hne := List.lookup_eq_none_iff.mp hlookup p hp
                  simp [heq] at hne
      next => exact ⟨fun key hkey => hkey, fun key hkey => by cases hkey⟩

/-- The keys that are read are distinct, and new. -/
theorem nodup_keys_readAttributes :
    ((readAttributes total seen cs).filterMap AttributeResult.key?).Nodup ∧
      ∀ key ∈ (readAttributes total seen cs).filterMap AttributeResult.key?,
        key ∉ seen.map Prod.fst := by
  fun_induction readAttributes total seen cs with
  | case1 seen cs hnil => simp
  | case2 seen cs c rest hcons ih =>
      obtain ⟨hmet, hnew⟩ := readAttribute_keys total seen c rest
      obtain ⟨hdistinct, hfresh⟩ := ih
      have hlater : ∀ key ∈ (readAttributes total
          (readAttribute total seen c rest).2.1
          (readAttribute total seen c rest).2.2).filterMap AttributeResult.key?,
          key ∉ seen.map Prod.fst :=
        fun key hkey hseen => hfresh key hkey (hmet key hseen)
      cases hkey? : (readAttribute total seen c rest).1.key? with
      | none =>
          rw [List.filterMap_cons_none hkey?]
          exact ⟨hdistinct, hlater⟩
      | some key =>
          obtain ⟨hnone, hthere⟩ := hnew key hkey?
          rw [List.filterMap_cons_some hkey?]
          refine ⟨List.nodup_cons.mpr ⟨?_, hdistinct⟩, ?_⟩
          · exact fun hmem => hfresh key hmem hthere
          · exact List.forall_mem_cons.mpr ⟨hnone, hlater⟩

end Reading

theorem Tag.nodup_keys (tag : Tag) :
    (tag.attributes.filterMap AttributeResult.key?).Nodup :=
  (nodup_keys_readAttributes _ _ _).1

end Newsstand.Xml
