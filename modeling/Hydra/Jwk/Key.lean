/-
Lean model of the JSON Web Keys that `jwk/handler.go` and `cmd/server/helper_keys.go` pass around, the errors of the
key store, and the two prefix lookups the code calls (`jwk.FindKeyByPrefix`, `jwk.FindKeysByPrefix`).

A key carries the go-jose fields the modelled code reads or writes: the key material (`Key`), `KeyID` (the kid),
`Algorithm` and `Use`; `zero` is Go's zero `jose.JSONWebKey{}`. The two lookups are absent from src/ and are modelled
from what the spec says of their uses. `findKeyByPrefix`, which `createOrGetJWK` calls ("return the key whose kid
begins with the requested prefix"), is the first key whose kid begins with the prefix. `findKeysByPrefix`, which the
well-known endpoint calls with the prefix `public` ("returns only keys whose kids start with `public:`"), is every
key whose kid begins with the prefix and a colon, in order, and fails when there is none.

Results (lemmas for the provisioning proofs): `findKeyByPrefix_eq_ok` (the lookup returns the head of the prefix
keys), `findKeyByPrefix_append_of_ok` and `findKeyByPrefix_append_of_nil` (a lookup in `xs ++ ys` stops in `xs`
when `xs` holds a prefix key and skips `xs` otherwise); `findKeysByPrefix_eq_ok` (the other lookup returns every
prefix key, when there is one).
-/
import Mathlib.Data.List.Basic

namespace Hydra.Jwk

instance decEqExcept {ε α : Type} [DecidableEq ε] [DecidableEq α] : DecidableEq (Except ε α)
  | .ok a, .ok b => if h : a = b then isTrue (h ▸ rfl) else isFalse fun e => h (by injection e)
  | .error a, .error b => if h : a = b then isTrue (h ▸ rfl) else isFalse fun e => h (by injection e)
  | .ok _, .error _ => isFalse fun e => Except.noConfusion e
  | .error _, .ok _ => isFalse fun e => Except.noConfusion e

/-- key material, as go-jose holds it in `JSONWebKey.Key` (the JWK members it was read from) -/
inductive KeyMaterial where
  /-- the nil key of a zero `JSONWebKey` -/
  | nil
  | rsaPublic (n e : String)
  | rsaPrivate (n e d p q : String)
  | ecPublic (crv x y : String)
  | ecPrivate (crv x y d : String)
  | symmetric (k : String)
deriving DecidableEq, Repr

/-- a JSON Web Key (`jose.JSONWebKey`, without its certificate chain) -/
structure JSONWebKey where
  key : KeyMaterial
  keyID : String
  algorithm : String
  use : String
deriving DecidableEq, Repr

/-- `jwk.IDTokenKeyName`: the set of the keys that sign ID tokens -/
def idTokenKeyName : String := "hydra.openid.id-token"

/-- Go's zero `jose.JSONWebKey{}` -/
def JSONWebKey.zero : JSONWebKey := ⟨.nil, "", "", ""⟩

/-- errors of the key store, the key generators and the provisioning code -/
inductive KeyError where
  /-- `pkg.ErrNotFound` -/
  | notFound
  /-- a storage failure: the set already holds a key with this kid (the `(set, kid)` primary key) -/
  | conflict (kid : String)
  /-- no key of the set has a kid with the requested prefix -/
  | noKeyWithPrefix (kidPrefix : String)
  /-- a key generator's own failure -/
  | generator (reason : String)
  /-- `errors.Wrapf(cause, msg)` -/
  | wrapped (msg : String) (cause : KeyError)
deriving DecidableEq, Repr

/-- `errors.Cause`: the innermost error under the wrappers -/
def KeyError.cause : KeyError → KeyError
  | .wrapped _ e => e.cause
  | e => e

/-- the status code herodot derives from an error: the cause's own, 500 when it carries none -/
def KeyError.status (e : KeyError) : Nat :=
  match e.cause with
  | .notFound => 404
  | _ => 500

/-- the kid of `k` begins with `kidPrefix` -/
def hasPrefix (kidPrefix : String) (k : JSONWebKey) : Bool := kidPrefix.toList.isPrefixOf k.keyID.toList

/-- Modelled from the spec: `jwk.FindKeysByPrefix` (absent from src/), the keys whose kid begins with the prefix and a
colon, in order; it fails when there is none. -/
def findKeysByPrefix (keys : List JSONWebKey) (kidPrefix : String) : Except KeyError (List JSONWebKey) :=
  match keys.filter (hasPrefix (kidPrefix ++ ":")) with
  | [] => .error (.noKeyWithPrefix kidPrefix)
  | ks => .ok ks

/-- Modelled from the spec: `jwk.FindKeyByPrefix` (absent from src/), the first key whose kid begins with the
prefix. -/
def findKeyByPrefix (keys : List JSONWebKey) (kidPrefix : String) : Except KeyError JSONWebKey :=
  match keys.filter (hasPrefix kidPrefix) with
  | [] => .error (.noKeyWithPrefix kidPrefix)
  | k :: _ => .ok k

variable {keys xs ys : List JSONWebKey} {kidPrefix : String} {k : JSONWebKey}

theorem findKeysByPrefix_eq_ok (h : keys.filter (hasPrefix (kidPrefix ++ ":")) ≠ []) :
    findKeysByPrefix keys kidPrefix = .ok (keys.filter (hasPrefix (kidPrefix ++ ":"))) := by
  unfold findKeysByPrefix; split <;> simp_all

theorem findKeyByPrefix_eq_ok :
    findKeyByPrefix keys kidPrefix = .ok k ↔ ∃ ks, keys.filter (hasPrefix kidPrefix) = k :: ks := by
  cases hf : keys.filter (hasPrefix kidPrefix) <;> simp [findKeyByPrefix, hf]

theorem findKeyByPrefix_eq_error (h : ∀ e, findKeyByPrefix keys kidPrefix ≠ .ok e) :
    keys.filter (hasPrefix kidPrefix) = [] := by
  cases hf : keys.filter (hasPrefix kidPrefix) with
  | nil => rfl
  | cons e es => exact absurd (findKeyByPrefix_eq_ok.2 ⟨es, hf⟩) (h e)

theorem hasPrefix_of_findKeyByPrefix (h : findKeyByPrefix keys kidPrefix = .ok k) : hasPrefix kidPrefix k := by
  obtain ⟨ks, hks⟩ := findKeyByPrefix_eq_ok.1 h
  have : k ∈ keys.filter (hasPrefix kidPrefix) := by simp [hks]
  exact (List.mem_filter.1 this).2

theorem mem_of_findKeyByPrefix (h : findKeyByPrefix keys kidPrefix = .ok k) : k ∈ keys := by
  obtain ⟨ks, hks⟩ := findKeyByPrefix_eq_ok.1 h
  have : k ∈ keys.filter (hasPrefix kidPrefix) := by simp [hks]
  exact (List.mem_filter.1 this).1

theorem findKeyByPrefix_append_of_ok (h : findKeyByPrefix xs kidPrefix = .ok k) :
    findKeyByPrefix (xs ++ ys) kidPrefix = .ok k := by
  obtain ⟨ks, hks⟩ := findKeyByPrefix_eq_ok.1 h
  exact findKeyByPrefix_eq_ok.2 ⟨ks ++ ys.filter (hasPrefix kidPrefix), by simp [List.filter_append, hks]⟩

theorem findKeyByPrefix_append_of_nil (h : xs.filter (hasPrefix kidPrefix) = []) :
    findKeyByPrefix (xs ++ ys) kidPrefix = findKeyByPrefix ys kidPrefix := by
  simp only [findKeyByPrefix, List.filter_append, h, List.nil_append]

end Hydra.Jwk
