/-
Lean model of the key store behind `jwk.Manager`. The manager's implementations (memory and SQL) are absent from
src/, so the store is modelled from the spec: "Persist and retrieve JWK sets", "All errors are either `NotFound` or
storage failures", primary key `(set, kid)`.

A set is the list of its keys in insertion order; a set without keys is a missing set. `KeyStore` carries the primary
key as a field (`kids_nodup`: no kid twice in one set), so no operation can build a store that breaks it.
`addKeySet` puts the new keys after those already stored and is atomic: it refuses the whole batch when one of its
kids is taken; `addKey` is `addKeySet` of one key. The delete operations never fail.

Results: `addKeySet_sets` (a successful `AddKeySet` appends to its set and to no other), `addKey_eq_ok` (`AddKey`
of a new kid succeeds and puts the key last), `getKeySet_eq_ok` (`GetKeySet` returns the stored keys of a
non-missing set), `getKey_of_append` (`GetKey` of the kid of the last key, held by no other: that key alone).
-/
import Hydra.Jwk.Key
import Mathlib.Logic.Function.Basic

namespace Hydra.Jwk

/-- Modelled from the spec: the key store behind `jwk.Manager` (absent from src/). Each set is its keys in insertion
order, with at most one key per kid. -/
@[ext]
structure KeyStore where
  sets : String → List JSONWebKey
  kids_nodup : ∀ set, ((sets set).map JSONWebKey.keyID).Nodup

namespace KeyStore

/-- the store with no key set -/
def empty : KeyStore := ⟨fun _ => [], fun _ => List.nodup_nil⟩

/-- replace the keys of one set by `keys`, whose kids are distinct -/
def update (st : KeyStore) (set : String) (keys : List JSONWebKey) (h : (keys.map JSONWebKey.keyID).Nodup) :
    KeyStore where
  sets := Function.update st.sets set keys
  kids_nodup s := by
    by_cases hs : s = set
    · subst hs; simpa using h
    · simpa [Function.update_noteq hs] using st.kids_nodup s

@[simp] theorem update_sets_self (st : KeyStore) (set : String) (keys : List JSONWebKey) (h) :
    (st.update set keys h).sets set = keys := by simp [update]

theorem update_sets_of_ne {st : KeyStore} {set s : String} {keys : List JSONWebKey} {h} (hs : s ≠ set) :
    (st.update set keys h).sets s = st.sets s := by simp [update, Function.update_noteq hs]

/-- `GetKeySet`: the keys of the set; a missing set is `ErrNotFound` -/
def getKeySet (st : KeyStore) (set : String) : Except KeyError (List JSONWebKey) :=
  match st.sets set with
  | [] => .error .notFound
  | keys => .ok keys

/-- `GetKey`: the keys of the set with this kid; none is `ErrNotFound` -/
def getKey (st : KeyStore) (set kid : String) : Except KeyError (List JSONWebKey) :=
  match (st.sets set).filter (·.keyID == kid) with
  | [] => .error .notFound
  | keys => .ok keys

/-- `AddKeySet`: the keys go after those already in the set, all or none; a kid the set already holds, or one given
twice, is a storage failure -/
def addKeySet (st : KeyStore) (set : String) (keys : List JSONWebKey) : Except KeyError KeyStore :=
  if h : ((st.sets set ++ keys).map JSONWebKey.keyID).Nodup then .ok (st.update set (st.sets set ++ keys) h)
  else .error (.conflict set)

/-- `AddKey`: `AddKeySet` of one key -/
def addKey (st : KeyStore) (set : String) (key : JSONWebKey) : Except KeyError KeyStore :=
  st.addKeySet set [key]

/-- `DeleteKeySet`: the set becomes missing -/
def deleteKeySet (st : KeyStore) (set : String) : KeyStore :=
  st.update set [] List.nodup_nil

/-- `DeleteKey`: the keys of the set with this kid are gone -/
def deleteKey (st : KeyStore) (set kid : String) : KeyStore :=
  st.update set ((st.sets set).filter (·.keyID != kid))
    (((List.filter_sublist (st.sets set)).map JSONWebKey.keyID).nodup (st.kids_nodup set))

variable {st st' : KeyStore} {set s : String} {keys : List JSONWebKey}

theorem getKeySet_eq_ok (h : st.sets set ≠ []) : st.getKeySet set = .ok (st.sets set) := by
  unfold getKeySet; split <;> simp_all

theorem getKeySet_of_nil (h : st.sets set = []) : st.getKeySet set = .error .notFound := by
  simp [getKeySet, h]

theorem addKeySet_sets (h : st.addKeySet set keys = .ok st') :
    st'.sets set = st.sets set ++ keys ∧ ∀ s, s ≠ set → st'.sets s = st.sets s := by
  unfold addKeySet at h
  split at h
  · cases h; exact ⟨by simp, fun s hs => update_sets_of_ne hs⟩
  · cases h

theorem addKeySet_eq_ok (h : ((st.sets set ++ keys).map JSONWebKey.keyID).Nodup) :
    st.addKeySet set keys = .ok (st.update set (st.sets set ++ keys) h) := dif_pos h

/-- `AddKey` of a key whose kid the set does not hold succeeds, and the key goes last -/
theorem addKey_eq_ok {key : JSONWebKey} (h : key.keyID ∉ (st.sets set).map JSONWebKey.keyID) :
    ∃ st', st.addKey set key = .ok st' ∧ st'.sets set = st.sets set ++ [key] := by
  have hnd : ((st.sets set ++ [key]).map JSONWebKey.keyID).Nodup := by
    rw [List.map_append, List.Nodup, List.pairwise_append]
    exact ⟨st.kids_nodup set, List.pairwise_singleton _ _, fun a ha b hb => by
      rw [List.mem_singleton.1 hb]; exact fun he => h (he ▸ ha)⟩
  exact ⟨_, addKeySet_eq_ok hnd, update_sets_self _ _ _ _⟩

/-- `GetKey` of a kid that only the last key of the set has: that key alone -/
theorem getKey_of_append {key : JSONWebKey} (h : key.keyID ∉ (st.sets set).map JSONWebKey.keyID)
    (hs : st'.sets set = st.sets set ++ [key]) : st'.getKey set key.keyID = .ok [key] := by
  have hold : (st.sets set).filter (·.keyID == key.keyID) = [] :=
    List.filter_eq_nil_iff.2 fun k hk hkid => h (List.mem_map.2 ⟨k, hk, by simpa using hkid⟩)
  simp [getKey, hs, List.filter_append, hold]

end KeyStore

end Hydra.Jwk
