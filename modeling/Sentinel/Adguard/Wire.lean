/-
# Requests over the network

A request is answered by a response or by a transport error, and its body is
read piece by piece within the client's limit. What the request comes to
depends on the status, the declared length, the bytes and the ending of its
response. An observation asks until a request fails, so a report that names
such a failure names that of the last request.

Key theorems: `readBody_eq`, `getJson_fails_iff`, `endsWith_observingOver`.
-/
import Sentinel.Adguard.Requests
import Sentinel.Core.Transport

namespace Sentinel

open Fallible Http

def requestErrorDetail (error : TransportError) : String :=
  if error.isTimeout then "request timed out"
  else if error.isConnect then "connection failed"
  else if error.isDecode then "response decoding failed"
  else "request failed"

/-- What a request meets. -/
abbrev Network := Request → Except TransportError HttpResponse

/-- The JSON decoders of the responses, with the error of a failed decoding. -/
structure Decoders where
  status : List UInt8 → Except String StatusResponse
  statistics : List UInt8 → Except String StatsResponse
  dns : List UInt8 → Except String DnsResponse
  filtering : List UInt8 → Except String FilteringResponse
  rewrites : List UInt8 → Except String (List RewriteResponse)
  rewriteSettings : List UInt8 → Except String RewriteSettingsResponse

/-- The loop over a body's pieces. -/
def readBody (label : String) (maxResponseBytes : UInt64) (body : List UInt8) :
    HttpBody → Except AdGuardError (List UInt8)
  | .finished => .ok body
  | .broken error => .error (.unavailable label (requestErrorDetail error))
  | .piece chunk rest =>
    let prospective := saturatingAddUsize body.length chunk.length
    if maxResponseBytes.toNat < lengthU64 prospective then .error (.responseTooLarge label maxResponseBytes)
    else readBody label maxResponseBytes (body ++ chunk) rest

/-- The response rejects the credentials. -/
def isRejection (response : HttpResponse) : Bool := response.status = 401 || response.status = 403

/-- The body of a response that is accepted. -/
def acceptResponse (label : String) (maxResponseBytes : UInt64) (response : HttpResponse) :
    Except AdGuardError (List UInt8) := do
  ensure (!isRejection response) .authenticationRejected
  ensure response.isSuccess (.unavailable label s!"HTTP {response.status}")
  ensure (response.contentLength.all (· ≤ maxResponseBytes)) (.responseTooLarge label maxResponseBytes)
  readBody label maxResponseBytes [] response.body

section Client

variable (packages : Packages) (maxResponseBytes : UInt64) (network : Network) (decoders : Decoders)
  (target : TargetConfig) (password : Option String) (statsLookbackMs : UInt64)

/-- `get_json`. -/
def getJson {α : Type} (decode : List UInt8 → Except String α) (endpoint : Endpoint) : Except AdGuardError α := do
  let request ← prepareRequest packages target endpoint password
  let response ← (network request).mapError fun error => .unavailable endpoint.label (requestErrorDetail error)
  let body ← acceptResponse endpoint.label maxResponseBytes response
  (decode body).mapError fun error => .invalidResponse endpoint.label ("JSON decoding failed: " ++ error)

/-- What the requests of an observation return. -/
def answersOver : Answers where
  status := getJson packages maxResponseBytes network target password decoders.status .status
  statistics := getJson packages maxResponseBytes network target password decoders.statistics (.stats statsLookbackMs)
  dns := getJson packages maxResponseBytes network target password decoders.dns .dnsInfo
  filtering := getJson packages maxResponseBytes network target password decoders.filtering .filteringStatus
  rewrites := getJson packages maxResponseBytes network target password decoders.rewrites .rewriteList
  rewriteSettings := getJson packages maxResponseBytes network target password decoders.rewriteSettings .rewriteSettings

/-! ### What a request comes to -/

/-- How a response fails its request, by its bytes and its ending. -/
def failureOfResponse (response : HttpResponse) : Option TargetStatus :=
  if isRejection response then some .authenticationRejected
  else if !response.isSuccess then some .unavailable
  else if response.contentLength.any (maxResponseBytes < ·) || maxResponseBytes.toNat < response.body.bytes.length then
    some .responseTooLarge
  else if response.body.error.isSome then some .unavailable
  else none

/-- How a request fails before its body can be decoded, if it can be made. -/
def failureOf (endpoint : Endpoint) : Option TargetStatus :=
  match prepareRequest packages target endpoint password with
  | .error _ => none
  | .ok request =>
    match network request with
    | .error _ => some .unavailable
    | .ok response => failureOfResponse maxResponseBytes response

end Client

/-- The failures of an exchange, as opposed to those of what it delivered. -/
def TargetStatus.isExchange : TargetStatus → Bool
  | authenticationRejected | unavailable | responseTooLarge => true
  | complete | authenticationCooldown | invalidResponse | unsupportedVersion => false

/-- An error about what was delivered. -/
abbrev AdGuardError.isContent (error : AdGuardError) : Prop := error.targetStatus.isExchange = false

theorem raises_ensure {condition : Bool} {error : AdGuardError} (h : error.targetStatus.isExchange = false) :
    Raises AdGuardError.isContent (ensure condition error) := .ensure h

theorem raises_demand {α : Type} {o : Option α} {error : AdGuardError} (h : error.targetStatus.isExchange = false) :
    Raises AdGuardError.isContent (demand error o) := .demand (P := AdGuardError.isContent) h o

/-- The result of a request, from what its body came to. -/
def ofReading (label : String) (maxResponseBytes : UInt64) :
    Http.Reading TransportError → Except AdGuardError (List UInt8)
  | .complete bytes => .ok bytes
  | .oversized => .error (.responseTooLarge label maxResponseBytes)
  | .interrupted error => .error (.unavailable label (requestErrorDetail error))

/-- **The loop reads within its limit.** -/
theorem readBody_eq {label : String} {maxResponseBytes : UInt64} (hlimit : maxResponseBytes.toNat < usizeMaximum) :
    ∀ (body : HttpBody) (kept : List UInt8),
      readBody label maxResponseBytes kept body =
        ofReading label maxResponseBytes (body.readAfter maxResponseBytes.toNat kept)
  | .finished, _ => rfl
  | .broken _, _ => rfl
  | .piece bytes rest, kept => by
    unfold readBody Body.readAfter
    simp only [lt_saturatingAddUsize_iff hlimit]
    by_cases hpassed : maxResponseBytes.toNat < kept.length + bytes.length
    · rw [if_pos hpassed, if_pos hpassed]
      rfl
    · rw [if_neg hpassed, if_neg hpassed]
      exact readBody_eq hlimit rest (kept ++ bytes)

section Request

variable {packages : Packages} {maxResponseBytes : UInt64} {network : Network} {target : TargetConfig}
  {password : Option String} {endpoint : Endpoint}

/-- **What a response comes to.** -/
theorem acceptResponse_eq (label : String) (hlimit : maxResponseBytes.toNat < usizeMaximum) (response : HttpResponse) :
    (failureOfResponse maxResponseBytes response = none ∧
      acceptResponse label maxResponseBytes response = .ok response.body.bytes) ∨
    ∃ error, acceptResponse label maxResponseBytes response = .error error ∧
      failureOfResponse maxResponseBytes response = some error.targetStatus := by
  have hdeclared : response.contentLength.any (maxResponseBytes < ·) = !response.contentLength.all (· ≤ maxResponseBytes) := by
    cases response.contentLength with
    | none => rfl
    | some length => simp [← UInt64.not_le]
  unfold acceptResponse failureOfResponse
  rw [readBody_eq hlimit, ← Body.read, Body.read_eq, hdeclared]
  by_cases hrejection : isRejection response
  · simp only [hrejection]
    exact .inr ⟨_, rfl, rfl⟩
  by_cases hsuccess : response.isSuccess
  case neg =>
    simp only [Bool.not_eq_true] at hrejection hsuccess
    simp only [hrejection, hsuccess]
    exact .inr ⟨_, rfl, rfl⟩
  simp only [Bool.not_eq_true] at hrejection
  simp only [hrejection, hsuccess]
  by_cases hdeclares : response.contentLength.all (· ≤ maxResponseBytes)
  case neg =>
    simp only [Bool.not_eq_true] at hdeclares
    simp only [hdeclares]
    exact .inr ⟨_, rfl, rfl⟩
  simp only [hdeclares]
  by_cases hpassed : maxResponseBytes.toNat < response.body.bytes.length
  · simp only [hpassed, decide_true, if_true]
    exact .inr ⟨_, rfl, rfl⟩
  simp only [hpassed, decide_false, if_false]
  cases response.body.error with
  | none => exact .inl ⟨rfl, rfl⟩
  | some error => exact .inr ⟨_, rfl, rfl⟩

theorem raises_prepareRequest (packages : Packages) (target : TargetConfig) (endpoint : Endpoint) (password : Option String) :
    Raises AdGuardError.isContent (prepareRequest packages target endpoint password) := by
  refine .bind (.bind (raises_demand rfl) fun _ => .ok _) fun url => ?_
  cases target.auth with
  | none => exact .ok _
  | basic =>
    refine .bind (raises_demand rfl) fun _ => ?_
    exact .bind (raises_demand rfl) fun _ => .ok _

/-- **A request fails as its exchange does**, unless it fails for its content. -/
theorem getJson_fails_iff {α : Type} {decode : List UInt8 → Except String α} {status : TargetStatus}
    (hlimit : maxResponseBytes.toNat < usizeMaximum) (hstatus : status.isExchange) :
    (∃ error, getJson packages maxResponseBytes network target password decode endpoint = .error error ∧
      error.targetStatus = status) ↔
      failureOf packages maxResponseBytes network target password endpoint = some status := by
  have hprepare := raises_prepareRequest packages target endpoint password
  unfold getJson failureOf
  cases hrequest : prepareRequest packages target endpoint password with
  | error error =>
    have hcontent := hprepare error hrequest
    refine iff_of_false ?_ (by simp)
    rintro ⟨_, h, rfl⟩
    obtain rfl := Except.error.inj h
    rw [hcontent] at hstatus
    cases hstatus
  | ok request =>
    rw [ok_bind]
    dsimp only
    cases network request with
    | error error =>
      constructor
      · rintro ⟨_, h, rfl⟩
        obtain rfl := Except.error.inj h
        rfl
      · intro h
        exact ⟨_, rfl, Option.some.inj h⟩
    | ok response =>
      rw [Except.mapError, ok_bind]
      dsimp only
      rcases acceptResponse_eq endpoint.label hlimit response with ⟨hnone, hbytes⟩ | ⟨error, herror, hsome⟩
      · rw [hbytes, hnone, ok_bind]
        refine iff_of_false ?_ (by simp)
        rintro ⟨_, h, rfl⟩
        cases hdecode : decode response.body.bytes with
        | error _ =>
          rw [hdecode] at h
          obtain rfl := Except.error.inj h
          cases hstatus
        | ok _ =>
          rw [hdecode] at h
          cases h
      · rw [herror, hsome]
        constructor
        · rintro ⟨_, h, rfl⟩
          obtain rfl := Except.error.inj h
          rfl
        · intro h
          exact ⟨_, rfl, Option.some.inj h⟩

end Request

/-! ### An observation ends with its first failure -/

namespace Asking

variable {α β : Type} {P : AdGuardError → Prop} {R : Endpoint → Prop}

/-- The result is such an error just when the last request fails so, and no
request before it does. -/
structure EndsWith (P : AdGuardError → Prop) (R : Endpoint → Prop) (x : Asking α) : Prop where
  last : (∃ error, x.result = .error error ∧ P error) ↔ ∃ endpoint ∈ x.requests.getLast?, R endpoint
  earlier : ∀ endpoint ∈ x.requests.dropLast, ¬R endpoint

theorem EndsWith.check {result : Except AdGuardError α} (h : Raises (¬P ·) result) : EndsWith P R (check result) where
  last := by
    refine iff_of_false ?_ (by simp [Asking.check])
    rintro ⟨error, herror, hP⟩
    exact h error herror hP
  earlier := by simp [Asking.check]

theorem EndsWith.check_bind {result : Except AdGuardError α} {f : α → Asking β} (h : Raises (¬P ·) result)
    (hf : ∀ a, result = .ok a → EndsWith P R (f a)) : EndsWith P R (Asking.check result >>= f) := by
  cases hresult : result with
  | error error =>
    rw [hresult] at h
    exact .check (Raises.error (h error rfl))
  | ok a =>
    have := hf a hresult
    exact ⟨this.last, this.earlier⟩

theorem EndsWith.ask_bind {endpoint : Endpoint} {answer : Except AdGuardError α} {f : α → Asking β}
    (h : (∃ error, answer = .error error ∧ P error) ↔ R endpoint) (hf : ∀ a, answer = .ok a → EndsWith P R (f a)) :
    EndsWith P R (ask endpoint answer >>= f) := by
  cases hanswer : answer with
  | error error =>
    rw [hanswer] at h
    refine ⟨?_, by simp [Bind.bind, ask]⟩
    simpa [Bind.bind, ask] using h
  | ok a =>
    have hrest := hf a hanswer
    have hdelivered : ¬R endpoint := by
      rw [← h, hanswer]
      simp
    have hrequests : (ask endpoint (.ok a) >>= f).requests = endpoint :: (f a).requests := rfl
    have hresult : (ask endpoint (.ok a) >>= f).result = (f a).result := rfl
    cases hlast : (f a).requests with
    | nil =>
      have hnone := hrest.last
      rw [hlast] at hnone
      refine ⟨?_, by simp [hrequests, hlast]⟩
      rw [hresult, hrequests, hlast, hnone]
      simp [hdelivered]
    | cons next rest =>
      refine ⟨?_, ?_⟩
      · rw [hresult, hrequests, hrest.last, hlast, List.getLast?_cons_cons]
      · have hearlier := hrest.earlier
        rw [hlast] at hearlier
        rw [hrequests, hlast, List.dropLast_cons_cons]
        simpa [hdelivered] using hearlier

/-- No request fails so before a result. -/
theorem EndsWith.not_of_ok {x : Asking α} {a : α} (h : EndsWith P R x) (hok : x.result = .ok a) :
    ∀ endpoint ∈ x.requests, ¬R endpoint := by
  intro endpoint hmem
  rcases x.requests.eq_nil_or_concat' with hnil | ⟨front, last, hconcat⟩
  · rw [hnil] at hmem
    cases hmem
  have hearlier := h.earlier
  rw [hconcat, List.dropLast_concat] at hearlier
  rw [hconcat, List.mem_append, List.mem_singleton] at hmem
  rcases hmem with hmem | rfl
  · exact hearlier endpoint hmem
  · intro hfails
    obtain ⟨error, herror, -⟩ := h.last.mpr ⟨endpoint, by simp [hconcat], hfails⟩
    rw [hok] at herror
    cases herror

end Asking

/-- An observation that succeeds has made all six requests. -/
theorem observing_requests_of_ok {packages : Packages} {versions : VersionPackage} {requirement : String}
    {target : TargetConfig} {policy : Option PolicyConfig} {statsLookbackMs : UInt64} {nowUnixSeconds : ℤ} {answers : Answers}
    {report : TargetReport}
    (h : observe packages versions requirement target policy nowUnixSeconds answers = .ok report) :
    (observing packages versions requirement target policy statsLookbackMs nowUnixSeconds answers).requests =
      [.status, .stats statsLookbackMs, .dnsInfo, .filteringStatus, .rewriteList, .rewriteSettings] := by
  have hobserved := h
  simp only [observe, bind_eq_ok_iff] at h
  obtain ⟨status, hstatus, version, hversion, _, hsatisfies, _, hrunning, statistics, hstatistics, dns, hdns, filtering,
    hfiltering, rewrites, hrewrites, settings, hsettings, -⟩ := h
  have haccepted : acceptStatus versions requirement status = .ok () := by
    rw [acceptStatus, hversion, ok_bind, hsatisfies, ok_bind, hrunning]
  simp only [observing, Bind.bind, Asking.ask, Asking.check, hstatus, haccepted, hstatistics, hdns, hfiltering, hrewrites,
    hsettings, hobserved]
  rfl

/-! Normalizing fails for the content only. -/

section Content

variable (packages : Packages)

theorem raises_onlyEntry {α : Type} (detail : String) (entry : SortedMap α) :
    Raises AdGuardError.isContent (onlyEntry detail entry) := by
  unfold onlyEntry
  split
  · exact .ok _
  · exact .error rfl

theorem raises_normalizeUpstreams (averages : List (SortedMap Binary64)) (responses : List (SortedMap UInt64)) :
    Raises AdGuardError.isContent (normalizeUpstreams averages responses) := by
  have hcounted : ∀ counts entry, Raises AdGuardError.isContent (countResponse counts entry) := fun counts entry =>
    .bind (raises_onlyEntry _ entry) fun _ => .bind (raises_ensure rfl) fun _ => .ok _
  have haveraged : ∀ counts truncated normalized entry,
      Raises AdGuardError.isContent (normalizeAverage counts truncated normalized entry) := by
    intro counts truncated normalized entry
    refine .bind (raises_onlyEntry _ entry) fun pair => .bind (raises_ensure rfl) fun _ => ?_
    refine .bind ?_ fun _ => .ok _
    unfold averagedResponses
    cases truncated with
    | true => exact .ok _
    | false =>
      refine .bind (raises_demand rfl) fun _ => ?_
      exact .bind (raises_ensure rfl) fun _ => .ok _
  refine .bind (.foldlM hcounted _ _) fun counts => ?_
  exact .bind (.foldlM (haveraged counts _) _ _) fun _ => .ok _

theorem raises_normalizeStats (protectionEnabled : Bool) (stats : StatsResponse) :
    Raises AdGuardError.isContent (normalizeStats protectionEnabled stats) := by
  have hclients : ∀ state entry, Raises AdGuardError.isContent (countClient stats.numDnsQueries state entry) :=
    fun state entry => .bind (raises_onlyEntry _ entry) fun _ =>
      .bind (raises_ensure rfl) fun _ => .ok _
  refine .bind (raises_ensure rfl) fun _ => ?_
  refine .bind (raises_ensure rfl) fun _ => ?_
  refine .bind (raises_normalizeUpstreams _ _) fun _ => ?_
  exact .bind (.foldlM hclients _ _) fun _ => .ok _

theorem raises_normalizeDns (dns : DnsResponse) : Raises AdGuardError.isContent (normalizeDns dns) := by
  refine .bind (raises_ensure rfl) fun _ => ?_
  refine .bind (raises_ensure rfl) fun _ => ?_
  exact .bind (raises_ensure rfl) fun _ => .ok _

theorem raises_normalizeFilters (filters : List FilterResponse) (policy : Option PolicyConfig) (nowUnixSeconds : ℤ) :
    Raises AdGuardError.isContent (normalizeFilters packages filters policy nowUnixSeconds) := by
  have hupdated : ∀ value, Raises AdGuardError.isContent (lastUpdatedSeconds packages nowUnixSeconds value) := by
    intro value
    cases value with
    | none => exact .ok _
    | some value =>
      refine .bind (raises_demand rfl) fun _ => ?_
      exact .bind (raises_ensure rfl) fun _ => .ok _
  refine .bind (.foldlM (fun state filter => ?_) _ _) fun _ => .ok _
  refine .bind (raises_ensure rfl) fun _ => ?_
  split
  · refine .bind (.bind (hupdated _) fun _ => ?_) fun _ => .ok _
    exact .bind (raises_ensure rfl) fun _ => .ok _
  · exact .ok _

theorem raises_normalizeRewrites (rewrites : List RewriteResponse) :
    Raises AdGuardError.isContent (normalizeRewrites rewrites) :=
  .bind (.foldlM (fun _ _ => .bind (raises_ensure rfl) fun _ => .ok _) _ _) fun _ => .ok _

end Content

/-! ### An observation over the network -/

section Observation

variable (packages : Packages) (versions : VersionPackage) (requirement : String) (maxResponseBytes : UInt64)
  (network : Network) (decoders : Decoders) (target : TargetConfig) (policy : Option PolicyConfig)
  (password : Option String) (statsLookbackMs : UInt64) (nowUnixSeconds : ℤ)

/-- An observation, its requests made over the network. -/
def observingOver : Asking TargetReport :=
  observing packages versions requirement target policy statsLookbackMs nowUnixSeconds
    (answersOver packages maxResponseBytes network decoders target password statsLookbackMs)

variable {packages versions requirement maxResponseBytes network decoders target policy password statsLookbackMs
  nowUnixSeconds}

/-- Whatever all the answers are, what is observed fails for their content. -/
theorem raises_observe {answers : Answers} {status : StatusResponse} {statistics : StatsResponse} {dns : DnsResponse}
    {filtering : FilteringResponse} {rewrites : List RewriteResponse} {rewriteSettings : RewriteSettingsResponse}
    (hstatus : answers.status = .ok status) (hstatistics : answers.statistics = .ok statistics)
    (hdns : answers.dns = .ok dns) (hfiltering : answers.filtering = .ok filtering)
    (hrewrites : answers.rewrites = .ok rewrites) (hsettings : answers.rewriteSettings = .ok rewriteSettings) :
    Raises AdGuardError.isContent (observe packages versions requirement target policy nowUnixSeconds answers) := by
  unfold observe
  rw [hstatus, hstatistics, hdns, hfiltering, hrewrites, hsettings]
  simp only [ok_bind]
  refine .bind (raises_demand rfl) fun _ => .bind (raises_ensure rfl) fun _ => .bind (raises_ensure rfl) fun _ => ?_
  refine .bind (raises_normalizeStats _ _) fun _ => .bind (raises_normalizeUpstreams _ _) fun _ => ?_
  refine .bind (raises_normalizeDns _) fun _ => .bind (raises_normalizeFilters packages _ _ _) fun _ => ?_
  exact .bind (raises_normalizeRewrites _) fun _ => .ok _

/-- **An observation ends with the first request that fails.** -/
theorem endsWith_observingOver {status : TargetStatus} (hlimit : maxResponseBytes.toNat < usizeMaximum)
    (hstatus : status.isExchange) :
    Asking.EndsWith (fun error => error.targetStatus = status)
      (fun endpoint => failureOf packages maxResponseBytes network target password endpoint = some status)
      (observingOver packages versions requirement maxResponseBytes network decoders target policy password
        statsLookbackMs nowUnixSeconds) := by
  have hcontent : ∀ error : AdGuardError, error.isContent → error.targetStatus ≠ status := by
    rintro error herror rfl
    rw [AdGuardError.isContent, hstatus] at herror
    cases herror
  have haccepted : ∀ response, Raises (fun error => ¬error.targetStatus = status)
      (acceptStatus versions requirement response) := by
    intro response error herror
    have hraises : Raises AdGuardError.isContent (acceptStatus versions requirement response) :=
      .bind (raises_demand rfl) fun _ => .bind (raises_ensure rfl) fun _ => raises_ensure rfl
    exact hcontent error (hraises error herror)
  have hfails : ∀ {α : Type} {decode : List UInt8 → Except String α} {endpoint : Endpoint},
      (∃ error, getJson packages maxResponseBytes network target password decode endpoint = .error error ∧
        error.targetStatus = status) ↔
        failureOf packages maxResponseBytes network target password endpoint = some status :=
    getJson_fails_iff hlimit hstatus
  unfold observingOver observing
  refine .ask_bind hfails fun response hresponse => .check_bind (haccepted response) fun _ _ => ?_
  refine .ask_bind hfails fun statistics hstatistics => .ask_bind hfails fun dns hdns => ?_
  refine .ask_bind hfails fun filtering hfiltering => .ask_bind hfails fun rewrites hrewrites => ?_
  refine .ask_bind hfails fun settings hsettings => .check ?_
  intro error herror
  exact hcontent error (raises_observe hresponse hstatistics hdns hfiltering hrewrites hsettings error herror)

/-- A failed exchange has such a status. -/
theorem exchange_of_failureOf {endpoint : Endpoint} {status : TargetStatus}
    (h : failureOf packages maxResponseBytes network target password endpoint = some status) : status.isExchange := by
  unfold failureOf at h
  cases hrequest : prepareRequest packages target endpoint password with
  | error _ =>
    rw [hrequest] at h
    cases h
  | ok request =>
    simp only [hrequest] at h
    cases hresponse : network request with
    | error _ =>
      rw [hresponse] at h
      obtain rfl := Option.some.inj h
      rfl
    | ok response =>
      simp only [hresponse, failureOfResponse] at h
      split_ifs at h
      all_goals
        obtain rfl := Option.some.inj h
        rfl

/-- **What an observation over the network comes to**: it ends with the first
request that fails, under that failure, and it succeeds after six that do not. -/
theorem observingOver_spec (hlimit : maxResponseBytes.toNat < usizeMaximum) :
    let asked := observingOver packages versions requirement maxResponseBytes network decoders target policy password
      statsLookbackMs nowUnixSeconds
    let failure := failureOf packages maxResponseBytes network target password
    (∀ status : TargetStatus, status.isExchange →
      ((∃ error, asked.result = .error error ∧ error.targetStatus = status) ↔
        ∃ endpoint ∈ asked.requests.getLast?, failure endpoint = some status)) ∧
    (∀ endpoint ∈ asked.requests.dropLast, failure endpoint = none) ∧
    ∀ report, asked.result = .ok report →
      asked.requests = [.status, .stats statsLookbackMs, .dnsInfo, .filteringStatus, .rewriteList, .rewriteSettings] ∧
      ∀ endpoint ∈ asked.requests, failure endpoint = none := by
  refine ⟨fun status hstatus => (endsWith_observingOver hlimit hstatus).last, fun endpoint hmem => ?_, fun report hok => ?_⟩
  · by_contra hfails
    obtain ⟨status, hfails⟩ := Option.ne_none_iff_exists'.mp hfails
    exact (endsWith_observingOver hlimit (exchange_of_failureOf hfails)).earlier endpoint hmem hfails
  · refine ⟨observing_requests_of_ok ((observing_result ..).symm.trans hok), fun endpoint hmem => ?_⟩
    by_contra hfails
    obtain ⟨status, hfails⟩ := Option.ne_none_iff_exists'.mp hfails
    exact (endsWith_observingOver hlimit (exchange_of_failureOf hfails)).not_of_ok hok endpoint hmem hfails

/-- **A body may be cut anywhere**: two networks that deliver the same bytes,
and end them in the same way, are observed alike. -/
theorem observingOver_congr {network' : Network} (hlimit : maxResponseBytes.toNat < usizeMaximum)
    (h : ∀ request, (network request).map Response.whole = (network' request).map Response.whole) :
    observingOver packages versions requirement maxResponseBytes network decoders target policy password
      statsLookbackMs nowUnixSeconds =
    observingOver packages versions requirement maxResponseBytes network' decoders target policy password
      statsLookbackMs nowUnixSeconds := by
  have haccept : ∀ label (response : HttpResponse),
      acceptResponse label maxResponseBytes response = acceptResponse label maxResponseBytes response.whole := by
    intro label response
    unfold acceptResponse
    rw [readBody_eq hlimit, readBody_eq hlimit, ← Body.read, ← Body.read]
    rw [Response.whole, Body.read_whole]
    rfl
  have hjson : ∀ {α : Type} (decode : List UInt8 → Except String α) (endpoint : Endpoint),
      getJson packages maxResponseBytes network target password decode endpoint =
        getJson packages maxResponseBytes network' target password decode endpoint := by
    intro α decode endpoint
    unfold getJson
    refine congrArg (_ >>= ·) (funext fun request => ?_)
    have hrequest := h request
    cases hfirst : network request with
    | error error =>
      cases hsecond : network' request with
      | error error' =>
        rw [hfirst, hsecond] at hrequest
        obtain rfl := Except.error.inj hrequest
        rfl
      | ok _ =>
        rw [hfirst, hsecond] at hrequest
        cases hrequest
    | ok response =>
      cases hsecond : network' request with
      | error _ =>
        rw [hfirst, hsecond] at hrequest
        cases hrequest
      | ok response' =>
        rw [hfirst, hsecond] at hrequest
        simp only [Except.mapError, ok_bind]
        rw [haccept, haccept _ response', Except.ok.inj hrequest]
  unfold observingOver answersOver
  simp only [hjson]

end Observation

end Sentinel
