/-
# Requests to a resolver

The endpoints that are read, what each request is made of, and how an
observation fails. Only the configuration decides whether a request can be
made.
-/
import Sentinel.Core.Config
import Sentinel.Core.Model
import Sentinel.Lib.Fallible

namespace Sentinel

open Fallible (demand)

inductive AdGuardError where
  | authenticationRejected
  | unavailable (endpoint detail : String)
  | invalidResponse (endpoint detail : String)
  | unsupportedVersion (observed required : String)
  | responseTooLarge (endpoint : String) (limit : UInt64)
  deriving DecidableEq, Repr

namespace AdGuardError

def targetStatus : AdGuardError → TargetStatus
  | authenticationRejected => .authenticationRejected
  | unavailable .. => .unavailable
  | invalidResponse .. => .invalidResponse
  | unsupportedVersion .. => .unsupportedVersion
  | responseTooLarge .. => .responseTooLarge

def kind : AdGuardError → String
  | authenticationRejected => "authentication_rejected"
  | unavailable .. => "api_unavailable"
  | invalidResponse .. => "invalid_response"
  | unsupportedVersion .. => "unsupported_version"
  | responseTooLarge .. => "response_too_large"

def text : AdGuardError → String
  | authenticationRejected => "AdGuard API authentication was rejected"
  | unavailable endpoint detail => s!"AdGuard API request failed at {endpoint}: {detail}"
  | invalidResponse endpoint detail => s!"AdGuard API response was invalid at {endpoint}: {detail}"
  | unsupportedVersion observed required => s!"AdGuard Home version {observed} is outside {required}"
  | responseTooLarge endpoint limit => s!"AdGuard API response exceeded {limit} bytes at {endpoint}"

end AdGuardError

/-- The report of a target that was not observed. -/
def incompleteReport (target : TargetConfig) (error : AdGuardError) : TargetReport :=
  .incomplete target.id target.name error.targetStatus error.kind error.text

inductive Endpoint where
  | status
  | stats (recent : UInt64)
  | dnsInfo
  | filteringStatus
  | rewriteList
  | rewriteSettings
  deriving DecidableEq, Repr

namespace Endpoint

def label : Endpoint → String
  | status => "GET /control/status"
  | stats _ => "GET /control/stats"
  | dnsInfo => "GET /control/dns_info"
  | filteringStatus => "GET /control/filtering/status"
  | rewriteList => "GET /control/rewrite/list"
  | rewriteSettings => "GET /control/rewrite/settings"

/-- The path and the query of an endpoint. -/
def location : Endpoint → String × Option String
  | status => ("/control/status", none)
  | stats recent => ("/control/stats", some s!"recent={recent}")
  | dnsInfo => ("/control/dns_info", none)
  | filteringStatus => ("/control/filtering/status", none)
  | rewriteList => ("/control/rewrite/list", none)
  | rewriteSettings => ("/control/rewrite/settings", none)

def url (packages : Packages) (endpoint : Endpoint) (baseUrl : String) : Except AdGuardError Url := do
  let url ← demand (.invalidResponse "configuration" "base URL is invalid") (packages.parseUrl baseUrl)
  return { url with path := endpoint.location.1, query := endpoint.location.2 }

end Endpoint

/-- The requirement a client is made with; the error's text goes on with the
version library's. -/
def newClient (packages : Packages) (versionRequirement : String) : Except AdGuardError String :=
  if packages.parsesVersionReq versionRequirement then return versionRequirement
  else throw (.invalidResponse "configuration" "invalid version requirement")

/-- A request: its URL, and the user and password of basic authentication. -/
structure Request where
  url : Url
  credentials : Option (String × String)

/-- The request that `get_json` makes. -/
def prepareRequest (packages : Packages) (target : TargetConfig) (endpoint : Endpoint) (password : Option String) :
    Except AdGuardError Request := do
  let url ← endpoint.url packages target.baseUrl
  match target.auth with
  | .none => return ⟨url, none⟩
  | .basic => do
    let username ← demand (.invalidResponse "configuration" "basic authentication requires a username") target.username
    let password ← demand (.invalidResponse "configuration" "basic authentication requires a password") password
    return ⟨url, some (username, password)⟩

/-- **A request needs a URL, and the user and password it authenticates with.** -/
theorem prepareRequest_ok {packages : Packages} {target : TargetConfig} {url : Url} {password : Option String}
    (hurl : packages.parseUrl target.baseUrl = some url)
    (huser : target.auth = .basic → ∃ username, target.username = some username)
    (hpassword : target.auth = .basic → password.isSome) (endpoint : Endpoint) :
    ∃ request, prepareRequest packages target endpoint password = .ok request := by
  simp only [prepareRequest, Endpoint.url, hurl]
  cases hauth : target.auth with
  | none => exact ⟨_, rfl⟩
  | basic =>
    obtain ⟨username, husername⟩ := huser hauth
    obtain ⟨secret, hsecret⟩ := Option.isSome_iff_exists.mp (hpassword hauth)
    rw [husername, hsecret]
    exact ⟨_, rfl⟩

end Sentinel
