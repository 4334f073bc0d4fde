/-
Lean model of `NewSDK` of `sdk/go/hydra/sdk.go`: the Go SDK's constructor checks the endpoint URL, trims it, points
both API clients at it, and, when a client id and secret are given, sets up the client-credentials flow against the
token endpoint. `NewSDK` writes the trimmed URL and the scopes back into the caller's `Configuration` (a pointer,
which the SDK keeps), so the model returns the configuration as it ends up.

`strings.TrimLeft(c.EndpointURL, "/")` removes the slashes at the start of the URL, and only those.

Results, for every configuration:
- `newSDK_error`: `NewSDK` fails exactly when the endpoint URL is empty, and then with its one message.
- `newSDK_ok`: otherwise both clients use the URL without its leading slashes, and the token URL is that URL
  followed by `/oauth2/token`; the client-credentials flow is set up exactly when both the id and the secret are
  given, with the configuration's scopes as they are: no scope is added when none is given.
-/
import Mathlib.Data.List.Basic

namespace Hydra.Sdk

/-- `Configuration` -/
structure Configuration where
  endpointURL : String
  clientID : String
  clientSecret : String
  scopes : List String
deriving DecidableEq, Repr

/-- the `clientcredentials.Config` of the SDK -/
structure ClientCredentials where
  clientSecret : String
  clientID : String
  scopes : List String
  tokenURL : String
deriving DecidableEq, Repr

/-- what `NewSDK` builds: the base paths of its two API clients, its configuration, and the client-credentials
flow with the basic-auth user and password of the OAuth2 client, when set -/
structure CodeGenSDK where
  oAuth2BasePath : String
  jsonWebKeyBasePath : String
  configuration : Configuration
  oAuth2ClientConfig : Option ClientCredentials
  username : String
  password : String
deriving DecidableEq, Repr

/-- `strings.TrimLeft(s, "/")`: `s` without the slashes it starts with -/
def trimLeftSlash (s : String) : String := ⟨s.toList.dropWhile (· = '/')⟩

/-- `NewSDK` -/
def newSDK (c : Configuration) : Except String CodeGenSDK :=
  if c.endpointURL = "" then .error "Please specify the ORY Hydra Endpoint URL" else
  let c := { c with endpointURL := trimLeftSlash c.endpointURL }
  let sdk : CodeGenSDK := ⟨c.endpointURL, c.endpointURL, c, none, "", ""⟩
  if c.clientSecret ≠ "" ∧ c.clientID ≠ "" then
    let c := if c.scopes.length = 0 then { c with scopes := [] } else c
    .ok { sdk with
      configuration := c,
      oAuth2ClientConfig := some ⟨c.clientSecret, c.clientID, c.scopes, c.endpointURL ++ "/oauth2/token"⟩,
      username := c.clientID, password := c.clientSecret }
  else .ok sdk

variable {c : Configuration}

/-- **The one error.** `NewSDK` fails exactly when the endpoint URL is empty. -/
theorem newSDK_error (c : Configuration) (err : String) :
    newSDK c = .error err ↔ c.endpointURL = "" ∧ err = "Please specify the ORY Hydra Endpoint URL" := by
  unfold newSDK
  by_cases h : c.endpointURL = ""
  · simp [h, eq_comm]
  · simp only [h, ite_false, false_and, iff_false]
    split <;> simp

/-- **What `NewSDK` builds** from a non-empty endpoint URL. -/
theorem newSDK_ok (h : c.endpointURL ≠ "") :
    ∃ sdk, newSDK c = .ok sdk ∧ sdk.oAuth2BasePath = trimLeftSlash c.endpointURL ∧
      sdk.jsonWebKeyBasePath = trimLeftSlash c.endpointURL ∧
      (sdk.oAuth2ClientConfig.isSome ↔ c.clientSecret ≠ "" ∧ c.clientID ≠ "") ∧
      ∀ cc, sdk.oAuth2ClientConfig = some cc →
        cc.scopes = c.scopes ∧ cc.tokenURL = trimLeftSlash c.endpointURL ++ "/oauth2/token" := by
  unfold newSDK
  simp only [h, ite_false]
  split
  · rename_i hc
    refine ⟨_, rfl, rfl, rfl, by simpa using hc, fun cc hcc => ?_⟩
    cases hcc
    split <;> simp_all [List.length_eq_zero]
  · rename_i hc
    exact ⟨_, rfl, rfl, rfl, by simpa using hc, fun cc hcc => by cases hcc⟩

end Hydra.Sdk
