/-
# The notification provider

A message is posted as a form, and what came of it is read off the transport
and the provider's response. Only a response that was read to its end, within
the limit, says what the provider did; a transport error says it was not
reached, or nothing.

Key theorems: `receive_eq`, `outcomeOf_whole`, `send_iff`.
-/
import Sentinel.Cli.Secrets
import Sentinel.Core.Transport
import Sentinel.Store.Attempt

namespace Sentinel

open Fallible Http

namespace Pushover

def endpoint : String := "https://api.pushover.net/1/messages.json"

def maxResponseBytes : UInt64 := 65536

end Pushover

/-- The fields of a response that are read. -/
structure PushoverResponse where
  status : UInt8
  request : String
  deriving DecidableEq, Repr

/-- The JSON decoder of a response. -/
abbrev PushoverDecoder := List UInt8 → Option PushoverResponse

structure PushoverClient where
  endpoint : String
  applicationToken : String
  userKey : String

/-- A form that is posted. -/
structure Post where
  endpoint : String
  form : List (String × String)

namespace PushoverClient

/-- `build`. -/
def build (packages : Packages) (contents : Contents) (config : Config) (endpoint : String) : Except String PushoverClient := do
  let pushover ← demand "Pushover configuration is absent" config.notifications.pushover
  let applicationToken ← (readSecret packages contents pushover.applicationTokenFile).mapError fun error =>
    "cannot load Pushover application token: " ++ error
  let userKey ← (readSecret packages contents pushover.userKeyFile).mapError fun error =>
    "cannot load Pushover user key: " ++ error
  return ⟨endpoint, applicationToken, userKey⟩

/-- `from_config`. -/
def fromConfig (packages : Packages) (contents : Contents) (config : Config) : Except String PushoverClient :=
  build packages contents config Pushover.endpoint

/-- The form of a message. -/
def post (client : PushoverClient) (message : OutboxMessage) : Post where
  endpoint := client.endpoint
  form := [("token", client.applicationToken), ("user", client.userKey), ("title", message.title),
    ("message", message.message), ("priority", if message.priority = -1 then "-1" else "0")]

end PushoverClient

/-- The loop over a response's pieces. -/
def readReply (body : List UInt8) : HttpBody → Except NotificationAttemptOutcome (List UInt8)
  | .finished => .ok body
  | .broken _ => .error (.unknown "response_interrupted_after_possible_delivery")
  | .piece chunk rest =>
    let body := body ++ chunk
    if Pushover.maxResponseBytes.toNat < lengthU64 body.length then .error (.unknown "oversized_pushover_response")
    else readReply body rest

section Decoded

variable (decode : PushoverDecoder)

def classifyResponse (status : UInt16) (body : List UInt8) : NotificationAttemptOutcome :=
  let parsed := decode body
  if status = 200 then
    match parsed with
    | some parsed =>
      if parsed.status = 1 then
        if parsed.request = "" then .unknown "success_response_missing_request_id"
        else .delivered status parsed.request
      else .failed (some status) (some parsed.request) "pushover_status_rejected"
    | none => .unknown "invalid_success_response"
  else if 500 ≤ status && status < 600 then .retryable (some status) "pushover_server_error"
  else .failed (some status) (parsed.map (·.request)) "pushover_permanent_rejection"

/-- What a response says of its message. -/
def receive (response : HttpResponse) : NotificationAttemptOutcome :=
  if response.contentLength.any (Pushover.maxResponseBytes < ·) then .unknown "oversized_pushover_response"
  else match readReply [] response.body with
    | .error outcome => outcome
    | .ok body => classifyResponse decode response.status body

/-- What a transport error says of its message. -/
def unanswered (error : TransportError) : NotificationAttemptOutcome :=
  if error.isConnect then .retryable none "connection_failed_before_response"
  else if error.isTimeout then .unknown "timeout_after_possible_transmission"
  else .unknown "transport_outcome_unknown"

/-- What came of posting a message. -/
def outcomeOf : Except TransportError HttpResponse → NotificationAttemptOutcome
  | .error error => unanswered error
  | .ok response => receive decode response

/-- `send`. -/
def PushoverClient.send (network : Post → Except TransportError HttpResponse) (client : PushoverClient)
    (message : OutboxMessage) : NotificationAttemptOutcome :=
  outcomeOf decode (network (client.post message))

end Decoded

/-! ### What is read of a response -/

/-- What a reader of the response's body reports. -/
def ofReply : Http.Reading TransportError → Except NotificationAttemptOutcome (List UInt8)
  | .complete bytes => .ok bytes
  | .oversized => .error (.unknown "oversized_pushover_response")
  | .interrupted _ => .error (.unknown "response_interrupted_after_possible_delivery")

/-- **The loop reads within its limit.** -/
theorem readReply_eq : ∀ (body : HttpBody) (kept : List UInt8),
    readReply kept body = ofReply (body.readAfter Pushover.maxResponseBytes.toNat kept)
  | .finished, _ => rfl
  | .broken _, _ => rfl
  | .piece bytes rest, kept => by
    have hlimit : Pushover.maxResponseBytes.toNat < usizeMaximum := by decide
    unfold readReply Body.readAfter
    simp only [lt_lengthU64_iff hlimit, List.length_append]
    by_cases hpassed : Pushover.maxResponseBytes.toNat < kept.length + bytes.length
    · rw [if_pos hpassed, if_pos hpassed]
      rfl
    · rw [if_neg hpassed, if_neg hpassed]
      exact readReply_eq rest (kept ++ bytes)

/-- The response was read to its end, within the limit. -/
structure ReadWhole (response : HttpResponse) : Prop where
  declared : response.contentLength.any (Pushover.maxResponseBytes < ·) = false
  ended : response.body.error = none
  within : response.body.bytes.length ≤ Pushover.maxResponseBytes.toNat

variable {decode : PushoverDecoder}

/-- **A response says what the provider did** when it is read to its end, and
nothing otherwise. -/
theorem receive_eq (response : HttpResponse) :
    (ReadWhole response ∧ receive decode response = classifyResponse decode response.status response.body.bytes) ∨
      (¬ReadWhole response ∧ ∃ errorClass, receive decode response = .unknown errorClass) := by
  unfold receive
  rw [readReply_eq, ← Body.read, Body.read_eq]
  by_cases hdeclared : response.contentLength.any (Pushover.maxResponseBytes < ·)
  · rw [if_pos hdeclared]
    refine .inr ⟨fun h => ?_, _, rfl⟩
    rw [h.declared] at hdeclared
    cases hdeclared
  rw [if_neg hdeclared]
  rw [Bool.not_eq_true] at hdeclared
  by_cases hpassed : Pushover.maxResponseBytes.toNat < response.body.bytes.length
  · rw [if_pos hpassed]
    exact .inr ⟨fun h => absurd h.within (not_le.mpr hpassed), _, rfl⟩
  rw [if_neg hpassed]
  cases hended : response.body.error with
  | none => exact .inl ⟨⟨hdeclared, hended, not_lt.mp hpassed⟩, rfl⟩
  | some error =>
    refine .inr ⟨fun h => ?_, _, rfl⟩
    rw [h.ended] at hended
    cases hended

/-- **Where the response is cut does not matter.** -/
theorem outcomeOf_whole (exchange : Except TransportError HttpResponse) :
    outcomeOf decode (exchange.map Response.whole) = outcomeOf decode exchange := by
  cases exchange with
  | error _ => rfl
  | ok response =>
    show receive decode response.whole = receive decode response
    unfold receive
    rw [readReply_eq, readReply_eq, ← Body.read, ← Body.read, Response.whole, Body.read_whole]

/-! ### What the outcome says -/

/-- The provider answered, with this status and this body. -/
def Answered (exchange : Except TransportError HttpResponse) (status : UInt16) (body : List UInt8) : Prop :=
  ∃ response, exchange = .ok response ∧ ReadWhole response ∧ response.status = status ∧ response.body.bytes = body

/-- The provider took the message. -/
def Took (decode : PushoverDecoder) (exchange : Except TransportError HttpResponse) (requestId : String) : Prop :=
  ∃ body, Answered exchange 200 body ∧ decode body = some ⟨1, requestId⟩ ∧ requestId ≠ ""

/-- The provider was not reached, or answered that it failed. -/
def Missed (exchange : Except TransportError HttpResponse) : Prop :=
  (∃ error, exchange = .error error ∧ error.isConnect) ∨
    ∃ status body, Answered exchange status body ∧ 500 ≤ status ∧ status < 600

/-- The provider answered that it does not take the message. -/
def Refused (decode : PushoverDecoder) (exchange : Except TransportError HttpResponse) : Prop :=
  ∃ status body, Answered exchange status body ∧
    ((status = 200 ∧ ∃ response, decode body = some response ∧ response.status ≠ 1) ∨
      (status ≠ 200 ∧ ¬(500 ≤ status ∧ status < 600)))

theorem answered_iff {response : HttpResponse} {status : UInt16} {body : List UInt8} (whole : ReadWhole response) :
    Answered (.ok response) status body ↔ response.status = status ∧ response.body.bytes = body := by
  constructor
  · rintro ⟨_, h, -, hstatus, hbody⟩
    obtain rfl := Except.ok.inj h
    exact ⟨hstatus, hbody⟩
  · rintro ⟨hstatus, hbody⟩
    exact ⟨response, rfl, whole, hstatus, hbody⟩

theorem not_answered {response : HttpResponse} {status : UInt16} {body : List UInt8} (partly : ¬ReadWhole response) :
    ¬Answered (.ok response) status body := by
  rintro ⟨_, h, hwhole, -⟩
  obtain rfl := Except.ok.inj h
  exact partly hwhole

/-- What an answer comes to. -/
theorem classifyResponse_cases (status : UInt16) (body : List UInt8) :
    (∃ requestId, status = 200 ∧ decode body = some ⟨1, requestId⟩ ∧ requestId ≠ "" ∧
      classifyResponse decode status body = .delivered 200 requestId) ∨
    (status = 200 ∧ (decode body = none ∨ decode body = some ⟨1, ""⟩) ∧
      ∃ errorClass, classifyResponse decode status body = .unknown errorClass) ∨
    (((status = 200 ∧ ∃ response, decode body = some response ∧ response.status ≠ 1) ∨
        (status ≠ 200 ∧ ¬(500 ≤ status ∧ status < 600))) ∧
      ∃ requestId errorClass, classifyResponse decode status body = .failed (some status) requestId errorClass) ∨
    (status ≠ 200 ∧ (500 ≤ status ∧ status < 600) ∧
      ∃ errorClass, classifyResponse decode status body = .retryable (some status) errorClass) := by
  unfold classifyResponse
  by_cases hok : status = 200
  · rw [if_pos hok]
    cases hdecode : decode body with
    | none => exact .inr (.inl ⟨hok, .inl rfl, _, rfl⟩)
    | some response =>
      obtain ⟨accepted, requestId⟩ := response
      dsimp only
      by_cases haccepted : accepted = 1
      · rw [if_pos haccepted, haccepted]
        by_cases hempty : requestId = ""
        · rw [if_pos hempty, hempty]
          exact .inr (.inl ⟨hok, .inr rfl, _, rfl⟩)
        · rw [if_neg hempty, hok]
          exact .inl ⟨requestId, rfl, rfl, hempty, rfl⟩
      · rw [if_neg haccepted]
        exact .inr (.inr (.inl ⟨.inl ⟨hok, _, rfl, haccepted⟩, _, _, rfl⟩))
  · rw [if_neg hok]
    by_cases hserver : 500 ≤ status ∧ status < 600
    · rw [if_pos (by simpa using hserver)]
      exact .inr (.inr (.inr ⟨hok, hserver, _, rfl⟩))
    · rw [if_neg (by simpa using hserver)]
      exact .inr (.inr (.inl ⟨.inr ⟨hok, hserver⟩, _, _, rfl⟩))

/-- An outcome, by what the provider did. -/
def Tells (decode : PushoverDecoder) (exchange : Except TransportError HttpResponse) (outcome : NotificationAttemptOutcome) :
    Prop :=
  (∃ requestId, Took decode exchange requestId ∧ outcome = .delivered 200 requestId) ∨
    (Missed exchange ∧ outcome.status = .retryable) ∨
    (Refused decode exchange ∧ outcome.status = .failed) ∨
    ((∀ requestId, ¬Took decode exchange requestId) ∧ ¬Missed exchange ∧ ¬Refused decode exchange ∧
      outcome.status = .unknown)

theorem tells_unanswered (error : TransportError) : Tells decode (.error error) (unanswered error) := by
  have hno : ∀ status body, ¬Answered (.error error) status body := by
    rintro status body ⟨_, h, -⟩
    cases h
  unfold unanswered
  by_cases hconnect : error.isConnect
  · rw [if_pos hconnect]
    exact .inr (.inl ⟨.inl ⟨error, rfl, hconnect⟩, rfl⟩)
  rw [if_neg hconnect]
  refine .inr (.inr (.inr ⟨?_, ?_, ?_, ?_⟩))
  · rintro requestId ⟨body, hanswered, -⟩
    exact hno 200 body hanswered
  · rintro (⟨_, h, hother⟩ | ⟨status, body, hanswered, -⟩)
    · obtain rfl := Except.error.inj h
      exact hconnect hother
    · exact hno status body hanswered
  · rintro ⟨status, body, hanswered, -⟩
    exact hno status body hanswered
  · split <;> rfl

theorem tells_receive (response : HttpResponse) : Tells decode (.ok response) (receive decode response) := by
  rcases @receive_eq decode response with ⟨hwhole, hreceive⟩ | ⟨hpartly, errorClass, hreceive⟩
  · have hanswered : Answered (.ok response) response.status response.body.bytes := ⟨response, rfl, hwhole, rfl, rfl⟩
    have hsame : ∀ status body, Answered (.ok response) status body → response.status = status ∧ response.body.bytes = body :=
      fun status body h => (answered_iff hwhole).mp h
    rw [hreceive]
    rcases @classifyResponse_cases decode response.status response.body.bytes with
      ⟨requestId, hok, hdecode, hnonempty, h⟩ | ⟨hok, hdecode, errorClass, h⟩ | ⟨hrefused, requestId, errorClass, h⟩ |
        ⟨hne, hserver, errorClass, h⟩
    · rw [h]
      exact .inl ⟨requestId, ⟨_, hok ▸ hanswered, hdecode, hnonempty⟩, rfl⟩
    · rw [h]
      refine .inr (.inr (.inr ⟨?_, ?_, ?_, rfl⟩))
      · rintro requestId ⟨body, hbody, htook, hnonempty⟩
        rw [← (hsame 200 body hbody).2] at htook
        rcases hdecode with hnone | hempty
        · rw [hnone] at htook
          cases htook
        · rw [hempty] at htook
          exact hnonempty (PushoverResponse.mk.inj (Option.some.inj htook)).2.symm
      · rintro (⟨_, hother, -⟩ | ⟨status, body, hbody, hlow, -⟩)
        · cases hother
        · rw [← (hsame status body hbody).1, hok] at hlow
          exact absurd hlow (by decide)
      · rintro ⟨status, body, hbody, ⟨-, reply, hreply, hne⟩ | ⟨hne, -⟩⟩
        · rw [← (hsame status body hbody).2] at hreply
          rcases hdecode with hnone | hempty
          · rw [hnone] at hreply
            cases hreply
          · rw [hempty] at hreply
            obtain rfl := Option.some.inj hreply
            exact hne rfl
        · exact hne ((hsame status body hbody).1.symm.trans hok)
    · rw [h]
      exact .inr (.inr (.inl ⟨⟨_, _, hanswered, hrefused⟩, rfl⟩))
    · rw [h]
      exact .inr (.inl ⟨.inr ⟨_, _, hanswered, hserver⟩, rfl⟩)
  · have hno : ∀ status body, ¬Answered (.ok response) status body := fun status body => not_answered hpartly
    rw [hreceive]
    refine .inr (.inr (.inr ⟨?_, ?_, ?_, rfl⟩))
    · rintro requestId ⟨body, hanswered, -⟩
      exact hno 200 body hanswered
    · rintro (⟨_, hother, -⟩ | ⟨status, body, hanswered, -⟩)
      · cases hother
      · exact hno status body hanswered
    · rintro ⟨status, body, hanswered, -⟩
      exact hno status body hanswered

/-- What came of posting a message tells what the provider did. -/
theorem tells_outcomeOf : ∀ exchange : Except TransportError HttpResponse, Tells decode exchange (outcomeOf decode exchange)
  | .error error => tells_unanswered error
  | .ok response => tells_receive response

/-! The provider did one of these at most. -/

section Exclusive

variable {exchange : Except TransportError HttpResponse}

/-- There is one answer. -/
theorem Answered.unique {status status' : UInt16} {body body' : List UInt8} (h : Answered exchange status body)
    (h' : Answered exchange status' body') : status = status' ∧ body = body' := by
  obtain ⟨response, hresponse, -, rfl, rfl⟩ := h
  obtain ⟨response', hresponse', -, rfl, rfl⟩ := h'
  obtain rfl := Except.ok.inj (hresponse.symm.trans hresponse')
  exact ⟨rfl, rfl⟩

theorem Took.not_missed {requestId : String} (h : Took decode exchange requestId) : ¬Missed exchange := by
  obtain ⟨body, hanswered, -⟩ := h
  rintro (⟨error, hfailed, -⟩ | ⟨status, body', hother, hlow, -⟩)
  · obtain ⟨_, hok, -⟩ := hanswered
    rw [hfailed] at hok
    cases hok
  · rw [← (hanswered.unique hother).1] at hlow
    exact absurd hlow (by decide)

theorem Took.not_refused {requestId : String} (h : Took decode exchange requestId) : ¬Refused decode exchange := by
  obtain ⟨body, hanswered, hdecode, -⟩ := h
  rintro ⟨status, body', hother, ⟨-, response, hresponse, hne⟩ | ⟨hne, -⟩⟩
  · rw [← (hanswered.unique hother).2, hdecode] at hresponse
    obtain rfl := Option.some.inj hresponse
    exact hne rfl
  · exact hne (hanswered.unique hother).1.symm

theorem Missed.not_refused (h : Missed exchange) : ¬Refused decode exchange := by
  rintro ⟨status, body, hanswered, hrefused⟩
  rcases h with ⟨error, hfailed, -⟩ | ⟨status', body', hother, hserver⟩
  · obtain ⟨_, hok, -⟩ := hanswered
    rw [hfailed] at hok
    cases hok
  · obtain rfl := (hanswered.unique hother).1
    rcases hrefused with ⟨rfl, -⟩ | ⟨-, hno⟩
    · exact absurd hserver.1 (by decide)
    · exact hno hserver

variable {outcome : NotificationAttemptOutcome}

theorem Tells.delivered_iff (h : Tells decode exchange outcome) (httpStatus : UInt16) (requestId : String) :
    outcome = .delivered httpStatus requestId ↔ httpStatus = 200 ∧ Took decode exchange requestId := by
  rcases h with ⟨told, htook, rfl⟩ | ⟨hmissed, h⟩ | ⟨hrefused, h⟩ | ⟨htook, -, -, h⟩
  · constructor
    · intro hsame
      obtain ⟨rfl, rfl⟩ := NotificationAttemptOutcome.delivered.inj hsame
      exact ⟨rfl, htook⟩
    · rintro ⟨rfl, body, hanswered, hdecode, -⟩
      obtain ⟨body', hanswered', hdecode', -⟩ := htook
      rw [(hanswered'.unique hanswered).2, hdecode] at hdecode'
      rw [(PushoverResponse.mk.inj (Option.some.inj hdecode')).2]
  all_goals refine iff_of_false (fun hdelivered => by rw [hdelivered] at h; cases h) ?_
  · exact fun ⟨_, htook⟩ => htook.not_missed hmissed
  · exact fun ⟨_, htook⟩ => htook.not_refused hrefused
  · exact fun ⟨_, hother⟩ => htook requestId hother

theorem Tells.retryable_iff (h : Tells decode exchange outcome) : outcome.status = .retryable ↔ Missed exchange := by
  rcases h with ⟨_, htook, rfl⟩ | ⟨hmissed, h⟩ | ⟨hrefused, h⟩ | ⟨-, hmissed, -, h⟩
  · exact iff_of_false nofun htook.not_missed
  · exact iff_of_true h hmissed
  · exact iff_of_false (by simp [h]) fun hmissed => hmissed.not_refused hrefused
  · exact iff_of_false (by simp [h]) hmissed

theorem Tells.failed_iff (h : Tells decode exchange outcome) : outcome.status = .failed ↔ Refused decode exchange := by
  rcases h with ⟨_, htook, rfl⟩ | ⟨hmissed, h⟩ | ⟨hrefused, h⟩ | ⟨-, -, hrefused, h⟩
  · exact iff_of_false nofun htook.not_refused
  · exact iff_of_false (by simp [h]) hmissed.not_refused
  · exact iff_of_true h hrefused
  · exact iff_of_false (by simp [h]) hrefused

theorem Tells.unknown_iff (h : Tells decode exchange outcome) : outcome.status = .unknown ↔
    (∀ requestId, ¬Took decode exchange requestId) ∧ ¬Missed exchange ∧ ¬Refused decode exchange := by
  rcases h with ⟨requestId, htook, rfl⟩ | ⟨hmissed, h⟩ | ⟨hrefused, h⟩ | ⟨htook, hmissed, hrefused, h⟩
  · exact iff_of_false nofun fun hno => hno.1 requestId htook
  · exact iff_of_false (by simp [h]) fun hno => hno.2.1 hmissed
  · exact iff_of_false (by simp [h]) fun hno => hno.2.2 hrefused
  · exact iff_of_true h ⟨htook, hmissed, hrefused⟩

end Exclusive

/-- **A recorded outcome is what the provider did.** A message is recorded as
delivered just when the provider took it, as to be retried just when it was not
reached or answered that it failed, as failed just when it answered that it
does not take the message, and as unknown just when it did none of these for
all that is known; the request id that is recorded is the provider's. None of
this depends on where the response is cut. -/
theorem send_iff {network : Post → Except TransportError HttpResponse} {client : PushoverClient} {message : OutboxMessage} :
    let exchange := network (client.post message)
    let outcome := client.send decode network message
    (∀ httpStatus requestId, outcome = .delivered httpStatus requestId ↔ httpStatus = 200 ∧ Took decode exchange requestId) ∧
    (outcome.status = .retryable ↔ Missed exchange) ∧
    (outcome.status = .failed ↔ Refused decode exchange) ∧
    (outcome.status = .unknown ↔
      (∀ requestId, ¬Took decode exchange requestId) ∧ ¬Missed exchange ∧ ¬Refused decode exchange) ∧
    outcome = client.send decode (fun post => (network post).map Response.whole) message := by
  intro exchange outcome
  have htells : Tells decode exchange outcome := tells_outcomeOf exchange
  exact ⟨htells.delivered_iff, htells.retryable_iff, htells.failed_iff, htells.unknown_iff, (outcomeOf_whole exchange).symm⟩

end Sentinel
