import Replay.Proofs.Responder.Decision
import Replay.Proofs.Wire.Reply
import Replay.Startup

/-!
# From what arrives to a reply

A body is read within the limit of the responder and the responder judges what was
read. Everything that arrives is in one of three cases: it is answered with a stub, it
is a POST that fails, or it has another method. From these cases follow the two main
statements. Reading within the limit does not change a reply: a body that is cut off was
going to be refused. And all replies have one form.
-/

namespace Replay

open Wire

/-! ## Reading within a limit -/

namespace Body

theorem gather_of_fits {room : Nat} {parts : List Bytes} (fits : parts.flatten.length ≤ room) :
    gather .complete room parts = .ok parts.flatten := by
  induction parts generalizing room with
  | nil => rfl
  | cons part parts ih =>
    rw [List.flatten_cons, List.length_append] at fits
    have enters : ¬ part.length > room := by omega
    rw [gather, if_neg enters, ih (by omega)]
    rfl

/-- A body that does not fit is noticed as such, whether or not it breaks off behind
the parts. -/
theorem gather_of_large {ending : BodyEnd} {room : Nat} {parts : List Bytes}
    (large : room < parts.flatten.length) : gather ending room parts = .error .overLimit := by
  induction parts generalizing room with
  | nil => exact absurd large (Nat.not_lt_zero room)
  | cons part parts ih =>
    rw [List.flatten_cons, List.length_append] at large
    by_cases enters : part.length > room
    · rw [gather, if_pos enters]
    · rw [gather, if_neg enters, ih (by omega)]
      rfl

/-- A body that breaks off is not read, whatever its parts are. -/
theorem gather_of_broken (room : Nat) (parts : List Bytes) :
    ∃ stop, gather .broken room parts = .error stop := by
  induction parts generalizing room with
  | nil => exact ⟨.broken, rfl⟩
  | cons part parts ih =>
    by_cases enters : part.length > room
    · exact ⟨.overLimit, by rw [gather, if_pos enters]⟩
    · obtain ⟨stop, stopped⟩ := ih (room - part.length)
      exact ⟨stop, by rw [gather, if_neg enters, stopped]; rfl⟩

end Body

namespace Request

variable {limit : Nat} {head : Head} {body : Body} {parts : List Bytes}

theorem receive_of_other (other : head.method ≠ "POST") :
    receive limit head body = .ok (head.request []) := by
  rw [receive, if_neg (by simpa [Head.wantsBody] using other)]

/-- A body within the limit is read whole, up to the limit itself. -/
theorem receive_of_fits (post : head.method = "POST") (fits : parts.flatten.length ≤ limit) :
    receive limit head (.complete parts) = .ok (head.request parts.flatten) := by
  rw [receive, if_pos (by simp [Head.wantsBody, post]), Body.complete, Body.gather_of_fits fits]

theorem receive_of_large (post : head.method = "POST") (large : limit < parts.flatten.length) :
    receive limit head (.complete parts) =
      .error (.bodyTooLarge (head.declared?.getD (limit + 1)) limit) := by
  rw [receive, if_pos (by simp [Head.wantsBody, post]), Body.complete, Body.gather_of_large large]

/-- A complete body is not read only if it is larger than the limit. -/
theorem large_of_receive {failure : Failure}
    (failed : receive limit head (.complete parts) = .error failure) :
    head.method = "POST" ∧ limit < parts.flatten.length := by
  by_cases post : head.method = "POST"
  · refine ⟨post, Nat.lt_of_not_le fun fits => ?_⟩
    rw [receive_of_fits post fits] at failed
    cases failed
  · rw [receive_of_other post] at failed
    cases failed

/-- What is received has the method of the head. -/
theorem method_of_receive {request : Request} (received : receive limit head body = .ok request) :
    request.method = Method.ofToken head.method := by
  unfold receive at received
  split at received
  · split at received
    · cases received
      rfl
    · cases received
    · cases received
  · cases received
    rfl

end Request

/-! ## The three cases -/

namespace Responder

variable {responder : Responder} {head : Head} {body : Body} {parts : List Bytes}
  {status : Status} {text : Bytes} {events : List Event}

/-- A POST is answered with a stub: its body is read, and what was read selects the stub. -/
def Serves (responder : Responder) (head : Head) (body : Body) (stub : Stub) : Prop :=
  head.method = "POST" ∧ ∃ request, Request.receive responder.bodyLimit head body = .ok request ∧
    responder.select request = .ok stub

/-- A POST fails: its body is not read to its end, or what was read selects no stub. -/
inductive Fails (responder : Responder) (head : Head) (body : Body) : Failure → Prop where
  | reading {failure : Failure} (post : head.method = "POST")
      (failed : Request.receive responder.bodyLimit head body = .error failure) :
      Fails responder head body failure
  | selecting {request : Request} {failure : Failure} (post : head.method = "POST")
      (received : Request.receive responder.bodyLimit head body = .ok request)
      (refused : responder.select request = .error failure) : Fails responder head body failure

theorem Fails.post {failure : Failure} (fails : responder.Fails head body failure) :
    head.method = "POST" := by
  cases fails with
  | reading post _ => exact post
  | selecting post _ _ => exact post

theorem Fails.not_serves {failure : Failure} {stub : Stub}
    (fails : responder.Fails head body failure) : ¬ responder.Serves head body stub := by
  rintro ⟨_, request, received, selected⟩
  cases fails with
  | reading _ failed =>
    rw [received] at failed
    cases failed
  | selecting _ other refused =>
    rw [received] at other
    cases other
    rw [selected] at refused
    cases refused

/-- What arrives is answered with at most one stub. -/
theorem Serves.unique {stub other : Stub} (serves : responder.Serves head body stub)
    (servesOther : responder.Serves head body other) : stub = other := by
  obtain ⟨_, request, received, selected⟩ := serves
  obtain ⟨_, otherRequest, receivedOther, selectedOther⟩ := servesOther
  rw [received] at receivedOther
  cases receivedOther
  rw [selected] at selectedOther
  exact Except.ok.inj selectedOther

/-- The outcomes of what arrives: the status and the text of the response, and what is
reported. -/
inductive Outcome (responder : Responder) (head : Head) (body : Body) :
    Status → Bytes → List Event → Prop where
  | served {stub : Stub} (serves : responder.Serves head body stub) :
      Outcome responder head body stub.status stub.body []
  | failed {failure : Failure} {event : Event} (fails : responder.Fails head body failure)
      (debug : event.severity = .debug) :
      Outcome responder head body .badRequest (Utf8.encode "invalid request") [event]
  | unsupported {event : Event} (other : head.method ≠ "POST")
      (debug : event.severity = .debug) :
      Outcome responder head body .notImplemented (Utf8.encode "unsupported method") [event]

/-- Whatever arrives has an outcome, and the response to it is a plain text. -/
theorem exists_outcome (responder : Responder) (head : Head) (body : Body) :
    ∃ status text events, responder.Outcome head body status text events ∧
      responder.respond head body = (Response.text status text, events) := by
  by_cases post : head.method = "POST"
  · cases received : Request.receive responder.bodyLimit head body with
    | error failure =>
      refine ⟨_, _, [.unreadable failure], .failed (.reading post received) rfl, ?_⟩
      rw [respond, received]
      rfl
    | ok request =>
      have method : request.method = .post := by
        rw [Request.method_of_receive received, Method.ofToken_eq_post, post]
      cases selected : responder.select request with
      | ok stub =>
        refine ⟨_, _, _, .served ⟨post, request, received, selected⟩, ?_⟩
        rw [respond, received]
        exact answer_of_ok method selected
      | error failure =>
        refine ⟨_, _, [.rejected request.path failure],
          .failed (.selecting post received selected) rfl, ?_⟩
        rw [respond, received]
        exact answer_of_error method selected
  · have method : (head.request []).method = .other head.method := if_neg post
    refine ⟨_, _, [.unsupportedMethod head.method head.path], .unsupported post rfl, ?_⟩
    rw [respond, Request.receive_of_other post]
    exact answer_of_other method

/-- A response of plain text is sent, and sending it reports nothing more. -/
theorem handle_of_respond
    (responded : responder.respond head body = (Response.text status text, events)) :
    responder.handle head body = (.plain status text, events) := by
  simp only [handle, responded, Reply.ofResponse_text, List.append_nil]

/-- The reply to whatever arrives is that of its outcome. -/
theorem exists_handled (responder : Responder) (head : Head) (body : Body) :
    ∃ status text events, responder.Outcome head body status text events ∧
      responder.handle head body = (.plain status text, events) := by
  obtain ⟨status, text, events, outcome, responded⟩ := exists_outcome responder head body
  exact ⟨status, text, events, outcome, handle_of_respond responded⟩

theorem handle_of_serves {stub : Stub} (serves : responder.Serves head body stub) :
    responder.handle head body = (.plain stub.status stub.body, []) := by
  obtain ⟨status, text, events, outcome, handled⟩ := exists_handled responder head body
  rw [handled]
  cases outcome with
  | served servesOther => rw [serves.unique servesOther]
  | failed fails _ => exact absurd serves fails.not_serves
  | unsupported other _ => exact absurd serves.1 other

/-- A POST that is not answered with a stub gets the uniform reply. -/
theorem handle_of_unserved (post : head.method = "POST")
    (unserved : ¬ ∃ stub, responder.Serves head body stub) :
    ∃ event, event.severity = .debug ∧ responder.handle head body =
      (.plain .badRequest (Utf8.encode "invalid request"), [event]) := by
  obtain ⟨status, text, events, outcome, handled⟩ := exists_handled responder head body
  rw [handled]
  cases outcome with
  | served serves => exact absurd ⟨_, serves⟩ unserved
  | failed _ debug => exact ⟨_, debug, rfl⟩
  | unsupported other _ => exact absurd post other

/-- A stub that a request selects stands in the catalogue, and the body of the request is
within the limit. -/
theorem known_of_select {request : Request} {stub : Stub}
    (selected : responder.select request = .ok stub) :
    (∃ identifier, responder.catalogue.resolve? identifier = some stub) ∧
      request.body.length ≤ responder.bodyLimit := by
  cases select_eq_iff.1 selected with
  | @selected _ identifier _ admits _ _ known => exact ⟨⟨identifier, known⟩, admits.2⟩

/-! ## Reading within a limit changes no reply -/

/-- A complete body is answered with the stub that the whole of it selects: what is not
read to its end is too large to select anything. -/
theorem serves_complete_iff {stub : Stub} :
    responder.Serves head (.complete parts) stub ↔
      (head.request parts.flatten).method = .post ∧
        responder.select (head.request parts.flatten) = .ok stub := by
  constructor
  · rintro ⟨post, request, received, selected⟩
    refine ⟨Method.ofToken_eq_post.2 post, ?_⟩
    have fits : parts.flatten.length ≤ responder.bodyLimit := by
      apply Nat.le_of_not_lt
      intro large
      rw [Request.receive_of_large post large] at received
      cases received
    rw [Request.receive_of_fits post fits] at received
    cases received
    exact selected
  · rintro ⟨method, selected⟩
    have post : head.method = "POST" := Method.ofToken_eq_post.1 method
    have fits : parts.flatten.length ≤ responder.bodyLimit := (known_of_select selected).2
    exact ⟨post, _, Request.receive_of_fits post fits, selected⟩

/-- What is answered with a stub is a POST whose body is complete. -/
theorem serves_iff {stub : Stub} :
    responder.Serves head body stub ↔
      head.method = "POST" ∧ body.ending = .complete ∧
        responder.Admits (head.request body.parts.flatten) ∧
        responder.lookUp body.parts.flatten = .ok stub := by
  obtain ⟨parts, ending⟩ := body
  cases ending with
  | complete =>
    have post : (head.request parts.flatten).method = .post ↔ head.method = "POST" :=
      Method.ofToken_eq_post
    rw [← Body.complete, serves_complete_iff, post, select_eq_ok_iff]
    simp [Body.complete, Head.request]
  | broken =>
    simp only [reduceCtorEq, false_and, and_false, iff_false]
    rintro ⟨post, request, received, _⟩
    obtain ⟨stop, stopped⟩ := Body.gather_of_broken responder.bodyLimit parts
    rw [Request.receive, if_pos (by simp [Head.wantsBody, post]), stopped] at received
    cases stop <;> cases received

/-- A complete body gets the reply that the responder gives to the whole of it. -/
theorem handle_complete (responder : Responder) (head : Head) (parts : List Bytes) :
    (responder.handle head (.complete parts)).1 =
      (Reply.ofResponse (responder.answer (head.request parts.flatten)).1).1 := by
  obtain ⟨status, text, events, outcome, handled⟩ :=
    exists_handled responder head (.complete parts)
  rw [handled]
  cases outcome with
  | served serves =>
    obtain ⟨post, selected⟩ := serves_complete_iff.1 serves
    rw [answer_of_ok post selected, Stub.toResponse, Reply.ofResponse_text]
  | failed fails _ =>
    have post : (head.request parts.flatten).method = .post := Method.ofToken_eq_post.2 fails.post
    cases selected : responder.select (head.request parts.flatten) with
    | ok stub => exact absurd (serves_complete_iff.2 ⟨post, selected⟩) fails.not_serves
    | error cause =>
      rw [answer_of_error post selected, Response.invalidRequest, Reply.ofResponse_text]
  | unsupported other _ =>
    have method : (head.request parts.flatten).method = .other head.method := if_neg other
    rw [answer_of_other method, Response.unsupportedMethod, Reply.ofResponse_text]

/-- Nothing is reported about what is answered with a stub, and one thing about all else. -/
theorem handle_events (responder : Responder) (head : Head) (body : Body) :
    ((∃ stub, responder.Serves head body stub) → (responder.handle head body).2 = []) ∧
      ((¬ ∃ stub, responder.Serves head body stub) →
        ∃ event, (responder.handle head body).2 = [event] ∧ event.severity = .debug) := by
  obtain ⟨status, text, events, outcome, handled⟩ := exists_handled responder head body
  rw [handled]
  cases outcome with
  | served serves => exact ⟨fun _ => rfl, fun unserved => absurd ⟨_, serves⟩ unserved⟩
  | failed fails debug =>
    refine ⟨?_, fun _ => ⟨_, rfl, debug⟩⟩
    rintro ⟨stub, serves⟩
    exact absurd serves fails.not_serves
  | unsupported other debug =>
    refine ⟨?_, fun _ => ⟨_, rfl, debug⟩⟩
    rintro ⟨stub, post, _⟩
    exact absurd post other

end Responder

/-- A server that listens with given settings replies to a complete body as its responder
replies to the whole of it, although it stops reading at the limit and reads nothing
where the method is not POST. A body of exactly the size of the limit is read whole. What
is answered from the catalogue is not reported, all else is reported once. Where reading
stops, the number after the limit is still a word of sixty-four bits, as long as the size
of the body is one. -/
theorem Settings.server_handles_complete (settings : Settings) (catalogue : Catalogue)
    (head : Head) (parts : List Bytes) :
    let plain := (Responder.ofCatalogue catalogue).withBodyLimit settings.bodyLimit
    let request := head.request parts.flatten
    let handled := (settings.server catalogue).responder.handle head (.complete parts)
    handled.1 = (Reply.ofResponse (plain.answer request).1).1 ∧
      (head.method = "POST" → parts.flatten.length ≤ settings.bodyLimit →
        Request.receive settings.bodyLimit head (.complete parts) = .ok request) ∧
      ((∃ stub, request.method = .post ∧ plain.select request = .ok stub) → handled.2 = []) ∧
      ((¬ ∃ stub, request.method = .post ∧ plain.select request = .ok stub) →
        ∃ event, handled.2 = [event] ∧ event.severity = .debug) ∧
      (parts.flatten.length < UInt64.size → ∀ failure,
        Request.receive settings.bodyLimit head (.complete parts) = .error failure →
          (UInt64.ofNat settings.bodyLimit + 1).toNat = settings.bodyLimit + 1) := by
  intro plain request handled
  obtain ⟨quiet, reported⟩ := plain.handle_events head (.complete parts)
  simp only [Responder.serves_complete_iff] at quiet reported
  refine ⟨plain.handle_complete head parts, Request.receive_of_fits, quiet, reported, ?_⟩
  intro small failure failed
  have large := (Request.large_of_receive failed).2
  have word : settings.bodyLimit + 1 < 2 ^ 64 := Nat.lt_of_le_of_lt large small
  rw [UInt64.toNat_add, UInt64.toNat_ofNat', UInt64.toNat_one, Nat.mod_add_mod,
    Nat.mod_eq_of_lt word]

/-! ## The form of all replies -/

theorem Stub.code_bounds (stub : Stub) :
    200 ≤ stub.status.code ∧ stub.status.code < 1000 ∧ stub.status.code ≠ 204 ∧
      stub.status.code ≠ 304 := by
  have carries := stub.carries_body
  simp only [Status.carriesBody, Bool.not_eq_true', Bool.or_eq_false_iff,
    decide_eq_false_iff_not, beq_eq_false_iff_ne] at carries
  have below := stub.status.three_digits.2
  omega

namespace Responder

variable {responder : Responder} {head : Head} {body : Body} {status : Status} {text : Bytes}
  {events : List Event}

/-- A status of an outcome is sent with a body. -/
theorem Outcome.code_bounds (outcome : responder.Outcome head body status text events) :
    200 ≤ status.code ∧ status.code < 1000 ∧ status.code ≠ 204 ∧ status.code ≠ 304 := by
  cases outcome with
  | @served stub _ => exact stub.code_bounds
  | failed _ _ => decide
  | unsupported _ _ => decide

/-- An outcome is configured, or fixed. -/
theorem Outcome.origin (outcome : responder.Outcome head body status text events) :
    (∃ identifier stub, responder.catalogue.resolve? identifier = some stub ∧
        status = stub.status ∧ text = stub.body) ∨
      status.code = 400 ∧ text = Utf8.encode "invalid request" ∨
      status.code = 501 ∧ text = Utf8.encode "unsupported method" := by
  cases outcome with
  | @served stub serves =>
    obtain ⟨_, request, _, selected⟩ := serves
    obtain ⟨⟨identifier, known⟩, _⟩ := known_of_select selected
    exact .inl ⟨identifier, stub, known, rfl, rfl⟩
  | failed _ _ => exact .inr (.inl ⟨rfl, rfl⟩)
  | unsupported _ _ => exact .inr (.inr ⟨rfl, rfl⟩)

theorem Outcome.severity (outcome : responder.Outcome head body status text events) :
    ∀ event ∈ events, event.severity = .debug := by
  cases outcome with
  | served _ => exact List.forall_mem_nil _
  | failed _ debug => exact List.forall_mem_singleton.2 debug
  | unsupported _ debug => exact List.forall_mem_singleton.2 debug

/-- All failures have one outcome. -/
theorem Outcome.of_fails {failure : Failure}
    (outcome : responder.Outcome head body status text events)
    (fails : responder.Fails head body failure) :
    status = .badRequest ∧ text = Utf8.encode "invalid request" := by
  cases outcome with
  | served serves => exact absurd serves fails.not_serves
  | failed _ _ => exact ⟨rfl, rfl⟩
  | unsupported other _ => exact absurd fails.post other

/-- The contract of replies, whatever arrives and whether or not it can be read. A reply
has the two fields of a plain text and no other, a status that is sent with a body, and
is either configured in the catalogue or one of the two fixed replies. A response never
fails to be sent, so no error is reported; and a POST that fails, for any cause, gets one
and the same reply. -/
theorem handle_contract (responder : Responder) (head : Head) (body : Body) :
    ∃ reply events, responder.handle head body = (reply, events) ∧
      reply.fields.toList =
        [("content-type", Utf8.encode "text/plain"),
          ("content-length", Utf8.encode (toString reply.body.length))] ∧
      (200 ≤ reply.status.code ∧ reply.status.code < 1000 ∧ reply.status.code ≠ 204 ∧
        reply.status.code ≠ 304) ∧
      ((∃ identifier stub, responder.catalogue.resolve? identifier = some stub ∧
          reply.status = stub.status ∧ reply.body = stub.body) ∨
        reply.status.code = 400 ∧ reply.body = Utf8.encode "invalid request" ∨
        reply.status.code = 501 ∧ reply.body = Utf8.encode "unsupported method") ∧
      (∃ fields, FieldMap.ofFields (encodeFields (responder.respond head body).1.fields) =
        .ok fields) ∧
      (∀ event ∈ events, event.severity ≠ .error) ∧
      ∀ failure, responder.Fails head body failure →
        reply = ⟨.badRequest, ⟨[("content-type", [Utf8.encode "text/plain"]),
          ("content-length", [Utf8.encode "15"])]⟩, Utf8.encode "invalid request"⟩ := by
  obtain ⟨status, text, events, outcome, responded⟩ := exists_outcome responder head body
  refine ⟨.plain status text, events, handle_of_respond responded,
    Reply.toList_plain status text, outcome.code_bounds, outcome.origin,
    ⟨(Reply.plain status text).fields, ?_⟩, ?_, ?_⟩
  · rw [responded]
    exact Reply.ofFields_text status text
  · intro event reported
    rw [outcome.severity event reported]
    decide
  · intro failure fails
    obtain ⟨rfl, rfl⟩ := outcome.of_fails fails
    decide

end Responder

end Replay
