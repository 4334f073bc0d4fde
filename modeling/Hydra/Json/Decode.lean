/-
Lean model of the JSON decoding the key handlers of `jwk/handler.go` rely on: `json.NewDecoder(r.Body).Decode(&v)`
into the handlers' request structs (`createRequest`, `joseWebKeySetRequest`) and go-jose's `JSONWebKey.UnmarshalJSON`.

A request body is abstracted by the first JSON value the stream starts with (`none`: a syntax error or an empty body;
the decoder's scan fails and `v` is left untouched). Decoding a value into a handler's struct follows encoding/json:
`null` leaves the struct as it is; an object sets each field whose name matches a member, ASCII case folded, and
skips unknown members and `null` values; a member of the wrong type is skipped and remembered, and the first such error
is returned at the end with the struct otherwise filled in; any other value is a type error and leaves the struct
alone.

go-jose decodes a key with its own fork of encoding/json, all or nothing. The fork matches a member to a field of
`rawJSONWebKey` only by its exact name, and refuses an object that names a member twice. A byte member goes through
`byteBuffer.UnmarshalJSON`, which takes a string of base64url text and ends the decoding at once on anything else.
The key type then decides which members must be present. Not modelled: the curve-point check of EC keys and the
validation of RSA private keys, the certificate chain (`x5c`), the byte offset a base64 error reports, and
encoding/json's folding of the Kelvin sign and the long s.

Results: `decodeObject_keeps_of_error` (a body that is neither an object nor `null` is a type error and fills
nothing); `unmarshalJSON_duplicate` (a key object that names a member twice is refused, whatever its other
members).
-/
import Hydra.Jwk.Key

namespace Hydra.Json

open Hydra.Jwk

/-- a JSON value -/
inductive JsonValue where
  | null
  | bool (b : Bool)
  | number (lit : String)
  | string (s : String)
  | array (xs : List JsonValue)
  | object (members : List (String × JsonValue))

/-- the word encoding/json uses for a value's kind in an `UnmarshalTypeError` -/
def JsonValue.kind : JsonValue → String
  | .null => "null"
  | .bool _ => "bool"
  | .number _ => "number"
  | .string _ => "string"
  | .array _ => "array"
  | .object _ => "object"

/-- a request body: the first JSON value the stream starts with, `none` when it starts with none -/
abbrev RequestBody := Option JsonValue

/-- why go-jose refuses a key -/
inductive KeyRejection where
  /-- `unknown json web key type` -/
  | unknownType (kty : String)
  /-- `unsupported elliptic curve` -/
  | unsupportedCurve (crv : String)
  /-- a member the key type needs is absent -/
  | missingMembers (kty : String)
deriving DecidableEq, Repr

/-- a decoding error -/
inductive DecodeError where
  /-- the body does not start with a JSON value (`*json.SyntaxError`, `io.EOF`) -/
  | malformed
  /-- `*json.UnmarshalTypeError`: a value of kind `value` where the Go type `goType` was expected, at `field`
  (`Struct.field`, empty for the top-level value) -/
  | type (value goType field : String)
  /-- go-jose refused the key -/
  | invalidKey (reason : KeyRejection)
  /-- go-jose's json fork refused an object that names the member twice (`json: duplicate key`) -/
  | duplicateKey (name : String)
  /-- a byte member of a key is not base64url text (`base64.CorruptInputError`) -/
  | illegalBase64
deriving DecidableEq, Repr

/-- encoding/json matches a member to a field name with ASCII case folded -/
def nameMatches (field member : String) : Bool :=
  field.toList.map Char.toLower == member.toList.map Char.toLower

/-- a struct being decoded, with the first error seen so far -/
abbrev Decoding (σ : Type) := σ × Option DecodeError

/-- remember `e` unless an earlier error is already remembered -/
def Decoding.fail {σ : Type} (d : Decoding σ) (e : DecodeError) : Decoding σ := (d.1, d.2 <|> some e)

/-- store one member into the `string` field it names, `fields` giving each field's JSON name and how a value is
stored into it -/
def decodeMember {σ : Type} (structName : String) (fields : List (String × (σ → String → σ))) (d : Decoding σ)
    (m : String × JsonValue) : Decoding σ :=
  match fields.find? (fun f => nameMatches f.1 m.1), m.2 with
  | none, _ => d
  | some _, .null => d
  | some (_, set), .string s => (set d.1 s, d.2)
  | some (n, _), v => d.fail (.type v.kind "string" (structName ++ "." ++ n))

/-- decode a JSON value into the struct `v` of Go type `goType` -/
def decodeObject {σ : Type} (goType : String) (member : Decoding σ → String × JsonValue → Decoding σ)
    (v : σ) : JsonValue → Decoding σ
  | .null => (v, none)
  | .object ms => ms.foldl member (v, none)
  | j => (v, some (.type j.kind goType ""))

theorem decodeObject_keeps_of_error {σ : Type} {goType : String}
    {member : Decoding σ → String × JsonValue → Decoding σ} {v : σ} {j : JsonValue}
    (hj : ∀ ms, j ≠ .object ms) (hn : j ≠ .null) :
    decodeObject goType member v j = (v, some (.type j.kind goType "")) := by
  cases j <;> simp_all [decodeObject]

/-! ## The handlers' request structs -/

/-- `createRequest`: the body of `POST /keys/:set` -/
structure CreateRequest where
  /-- `alg` -/
  algorithm : String
  /-- `kid` -/
  keyID : String
deriving DecidableEq, Repr

/-- `json.NewDecoder(r.Body).Decode(&keyRequest)` from the zero `createRequest` -/
def CreateRequest.decode : RequestBody → Decoding CreateRequest
  | none => (⟨"", ""⟩, some .malformed)
  | some j => decodeObject "jwk.createRequest"
      (decodeMember "createRequest"
        [("alg", fun r s => { r with algorithm := s }), ("kid", fun r s => { r with keyID := s })])
      ⟨"", ""⟩ j

/-- `joseWebKeySetRequest`: the body of `PUT /keys/:set`, its keys kept raw -/
structure JoseWebKeySetRequest where
  keys : List JsonValue

/-- one member of a `joseWebKeySetRequest` object: `keys` takes an array (`null` empties it) -/
def JoseWebKeySetRequest.decodeMember (d : Decoding JoseWebKeySetRequest) (m : String × JsonValue) :
    Decoding JoseWebKeySetRequest :=
  if nameMatches "keys" m.1 then
    match m.2 with
    | .null => (⟨[]⟩, d.2)
    | .array xs => (⟨xs⟩, d.2)
    | v => d.fail (.type v.kind "[]json.RawMessage" "joseWebKeySetRequest.keys")
  else d

/-- `json.NewDecoder(r.Body).Decode(&requests)` from the zero `joseWebKeySetRequest` -/
def JoseWebKeySetRequest.decode : RequestBody → Decoding JoseWebKeySetRequest
  | none => (⟨[]⟩, some .malformed)
  | some j => decodeObject "jwk.joseWebKeySetRequest" JoseWebKeySetRequest.decodeMember ⟨[]⟩ j

/-! ## go-jose keys -/

/-- a character of the URL-safe base64 alphabet -/
def isBase64URLChar (c : Char) : Bool := c.isAlphanum || c == '-' || c == '_'

/-- go-jose's `base64URLDecode` accepts the text: `strings.TrimRight(value, "=")`, then
`base64.RawURLEncoding.DecodeString`, which skips carriage returns and line feeds, takes the URL alphabet only, and
refuses a last group of one character -/
def validBase64URL (s : String) : Bool :=
  let cs := (s.toList.reverse.dropWhile (· == '=')).reverse.filter fun c => c != '\r' && c != '\n'
  cs.all isBase64URLChar && cs.length % 4 != 1

/-- go-jose's `rawJSONWebKey`: the string members and the (nil-able) byte members of a JWK, a byte member kept as the
base64url text it was read from -/
structure RawJSONWebKey where
  use : String := ""
  kty : String := ""
  kid : String := ""
  crv : String := ""
  alg : String := ""
  k : Option String := none
  x : Option String := none
  y : Option String := none
  n : Option String := none
  e : Option String := none
  d : Option String := none
  p : Option String := none
  q : Option String := none
  dp : Option String := none
  dq : Option String := none
  qi : Option String := none
deriving DecidableEq, Repr

/-- a field of `rawJSONWebKey`: its JSON name, and how a member's value is stored into it -/
inductive Field where
  /-- a `string` field -/
  | str (name : String) (set : RawJSONWebKey → String → RawJSONWebKey)
  /-- a `*byteBuffer` field (`null` stores nil) -/
  | bytes (name : String) (set : RawJSONWebKey → Option String → RawJSONWebKey)

def Field.name : Field → String
  | .str n _ => n
  | .bytes n _ => n

/-- the fields of `rawJSONWebKey` -/
def RawJSONWebKey.fields : List Field :=
  [.str "use" fun r s => { r with use := s }, .str "kty" fun r s => { r with kty := s },
   .str "kid" fun r s => { r with kid := s }, .str "crv" fun r s => { r with crv := s },
   .str "alg" fun r s => { r with alg := s },
   .bytes "k" fun r b => { r with k := b }, .bytes "x" fun r b => { r with x := b },
   .bytes "y" fun r b => { r with y := b }, .bytes "n" fun r b => { r with n := b },
   .bytes "e" fun r b => { r with e := b }, .bytes "d" fun r b => { r with d := b },
   .bytes "p" fun r b => { r with p := b }, .bytes "q" fun r b => { r with q := b },
   .bytes "dp" fun r b => { r with dp := b }, .bytes "dq" fun r b => { r with dq := b },
   .bytes "qi" fun r b => { r with qi := b }]

/-- one member of a key object, read by go-jose's json fork: the member names a field by its exact name; a string
field of another kind is remembered as an error and skipped; a byte field hands the value to
`byteBuffer.UnmarshalJSON`, whose error ends the decoding -/
def joseMember (d : Decoding RawJSONWebKey) (m : String × JsonValue) : Except DecodeError (Decoding RawJSONWebKey) :=
  match RawJSONWebKey.fields.find? (·.name == m.1), m.2 with
  | none, _ => .ok d
  | some (.str _ _), .null => .ok d
  | some (.str _ set), .string s => .ok (set d.1 s, d.2)
  | some (.str _ _), v => .ok (d.fail (.type v.kind "string" ""))
  | some (.bytes _ set), .null => .ok (set d.1 none, d.2)
  | some (.bytes _ set), .string s => if validBase64URL s then .ok (set d.1 (some s), d.2) else .error .illegalBase64
  | some (.bytes _ _), v => .error (.type v.kind "string" "")

/-- the members of a key object, in order, `seen` holding the names already read: a name read before ends the
decoding before its value is looked at -/
def joseMembers : List String → Decoding RawJSONWebKey → List (String × JsonValue) →
    Except DecodeError (Decoding RawJSONWebKey)
  | _, d, [] => .ok d
  | seen, d, m :: ms =>
    if m.1 ∈ seen then .error (.duplicateKey m.1)
    else match joseMember d m with
      | .error e => .error e
      | .ok d => joseMembers (m.1 :: seen) d ms

/-- `json.Unmarshal(data, &raw)` of go-jose's json fork, from the zero `rawJSONWebKey` -/
def RawJSONWebKey.decode : JsonValue → Except DecodeError RawJSONWebKey
  | .null => .ok {}
  | .object ms =>
    match joseMembers [] ({}, none) ms with
    | .error e => .error e
    | .ok (_, some e) => .error e
    | .ok (raw, none) => .ok raw
  | j => .error (.type j.kind "jose.rawJSONWebKey" "")

/-- the key material the key type asks for: `ecPrivateKey`, `ecPublicKey`, `rsaPrivateKey`, `rsaPublicKey`,
`symmetricKey` -/
def RawJSONWebKey.material (raw : RawJSONWebKey) : Except DecodeError KeyMaterial :=
  match raw.kty, raw.d with
  | "EC", d =>
    if raw.crv ∉ ["P-256", "P-384", "P-521"] then .error (.invalidKey (.unsupportedCurve raw.crv))
    else match raw.x, raw.y, d with
      | some x, some y, none => .ok (.ecPublic raw.crv x y)
      | some x, some y, some d => .ok (.ecPrivate raw.crv x y d)
      | _, _, _ => .error (.invalidKey (.missingMembers "EC"))
  | "RSA", none =>
    match raw.n, raw.e with
    | some n, some e => .ok (.rsaPublic n e)
    | _, _ => .error (.invalidKey (.missingMembers "RSA"))
  | "RSA", some d =>
    match raw.n, raw.e, raw.p, raw.q with
    | some n, some e, some p, some q => .ok (.rsaPrivate n e d p q)
    | _, _, _, _ => .error (.invalidKey (.missingMembers "RSA"))
  | "oct", _ =>
    match raw.k with
    | some k => .ok (.symmetric k)
    | none => .error (.invalidKey (.missingMembers "oct"))
  | kty, _ => .error (.invalidKey (.unknownType kty))

/-- go-jose's `JSONWebKey.UnmarshalJSON`: all or nothing -/
def JSONWebKey.unmarshalJSON (j : JsonValue) : Except DecodeError JSONWebKey :=
  match RawJSONWebKey.decode j with
  | .error e => .error e
  | .ok raw => raw.material.map fun key => ⟨key, raw.kid, raw.alg, raw.use⟩

/-- the members are refused when one name comes twice among them, or comes among the names read before -/
theorem joseMembers_error {seen : List String} {d : Decoding RawJSONWebKey} {ms : List (String × JsonValue)}
    (h : ¬ ((ms.map Prod.fst).Nodup ∧ ∀ m ∈ ms, m.1 ∉ seen)) : ∃ e, joseMembers seen d ms = .error e := by
  induction ms generalizing seen d with
  | nil => simp at h
  | cons m ms ih =>
    by_cases hm : m.1 ∈ seen
    · exact ⟨.duplicateKey m.1, by simp [joseMembers, hm]⟩
    cases hj : joseMember d m with
    | error e => exact ⟨e, by simp [joseMembers, hm, hj]⟩
    | ok d' =>
      -- the rest is refused too: the names after `m` repeat one another, or `m`'s, or one read before
      have hrest : ¬ ((ms.map Prod.fst).Nodup ∧ ∀ m' ∈ ms, m'.1 ∉ m.1 :: seen) := by
        rintro ⟨hnd, hns⟩
        refine h ⟨List.nodup_cons.2 ⟨fun hmem => ?_, hnd⟩, fun m' hm' => ?_⟩
        · obtain ⟨m', hm', he⟩ := List.mem_map.1 hmem
          exact hns m' hm' (he ▸ List.mem_cons_self _ _)
        · rcases List.mem_cons.1 hm' with rfl | hm'
          · exact hm
          · exact fun hs => hns m' hm' (List.mem_cons_of_mem _ hs)
      obtain ⟨e, he⟩ := @ih (m.1 :: seen) d' hrest
      exact ⟨e, by simp [joseMembers, hm, hj, he]⟩

/-- **A key that names a member twice is refused**, whatever its other members: go-jose's json fork stops at the
second occurrence, if not before. -/
theorem unmarshalJSON_duplicate {ms : List (String × JsonValue)} (h : ¬ (ms.map Prod.fst).Nodup) :
    ∃ e, JSONWebKey.unmarshalJSON (.object ms) = .error e := by
  obtain ⟨e, he⟩ := @joseMembers_error [] ({}, none) ms fun hn => h hn.1
  exact ⟨e, by simp [JSONWebKey.unmarshalJSON, RawJSONWebKey.decode, he]⟩

/-- `json.NewDecoder(r.Body).Decode(&key)` into a `jose.JSONWebKey`, which decodes through `UnmarshalJSON` -/
def decodeKey : RequestBody → Except DecodeError JSONWebKey
  | none => .error .malformed
  | some j => JSONWebKey.unmarshalJSON j

end Hydra.Json
