import Replay.Proofs.Http.DeclaredLength
import Replay.Proofs.Responder.Identifier

/-!
# Decisions

The table by which a responder decides on a request: which of eight outcomes a POST
has, each with all it reports, and from that the response and the event that goes
with it. The conditions of a row include that no row above it applies.
-/

namespace Replay

open Json.Grammar Text

/-- The body of a request has the declared length, within the limit. -/
def Responder.Admits (responder : Responder) (request : Request) : Prop :=
  request.Declares request.body.length ∧ request.body.length ≤ responder.bodyLimit

/-- The outcomes of a POST. -/
inductive Decides (responder : Responder) (request : Request) : Except Failure Stub → Prop where
  | lengthMissing
      (absent : ∀ field ∈ request.fields, sameName field.1 Fields.contentLength = false) :
      Decides responder request (.error .lengthMissing)
  | lengthInvalid {text : String}
      (present : FirstNamed Fields.contentLength text request.fields)
      (invalid : ¬ ∃ length, Decimal.Declares text length ∧ length < Request.lengthBound) :
      Decides responder request (.error (.lengthInvalid text))
  | bodyTooLarge {declared : Nat} (declares : request.Declares declared)
      (large : responder.bodyLimit < declared) :
      Decides responder request (.error (.bodyTooLarge declared responder.bodyLimit))
  | lengthMismatch {declared : Nat} (declares : request.Declares declared)
      (fits : declared ≤ responder.bodyLimit) (differs : request.body.length ≠ declared) :
      Decides responder request (.error (.lengthMismatch declared request.body.length))
  | bodyMalformed {error : Json.Error} (admits : responder.Admits request)
      (underivable : ¬ ∃ value, Document value request.body)
      (reported : Json.Value.parse request.body = .error error) :
      Decides responder request (.error (.bodyMalformed error))
  | identifierMissing {value : Json.Value} (admits : responder.Admits request)
      (document : Document value request.body)
      (nameless : ¬ ∃ identifier, Names identifier value) :
      Decides responder request (.error .identifierMissing)
  | identifierUnknown {value : Json.Value} {identifier : String}
      (admits : responder.Admits request) (document : Document value request.body)
      (names : Names identifier value)
      (unknown : responder.catalogue.resolve? identifier = none) :
      Decides responder request (.error (.identifierUnknown identifier))
  | selected {value : Json.Value} {identifier : String} {stub : Stub}
      (admits : responder.Admits request) (document : Document value request.body)
      (names : Names identifier value)
      (known : responder.catalogue.resolve? identifier = some stub) :
      Decides responder request (.ok stub)

namespace Responder

theorem lookUp_of_unknown {responder : Responder} {body : Bytes} {value : Json.Value}
    {identifier : String} (document : Document value body) (names : Names identifier value)
    (unknown : responder.catalogue.resolve? identifier = none) :
    responder.lookUp body = .error (.identifierUnknown identifier) := by
  simp only [lookUp, readIdentifier_of_names document names, unknown]

theorem lookUp_of_known {responder : Responder} {body : Bytes} {value : Json.Value}
    {identifier : String} {stub : Stub} (document : Document value body)
    (names : Names identifier value)
    (known : responder.catalogue.resolve? identifier = some stub) :
    responder.lookUp body = .ok stub := by
  simp only [lookUp, readIdentifier_of_names document names, known]

theorem select_of_admits {responder : Responder} {request : Request}
    (admits : responder.Admits request) :
    responder.select request = responder.lookUp request.body := by
  obtain ⟨declares, fits⟩ := admits
  rw [select, Request.declaredLength_eq_ok_iff.2 declares]
  simp [Nat.not_lt.2 fits]

/-- Every row of the table is what the responder does. -/
theorem select_of_decides {responder : Responder} {request : Request}
    {outcome : Except Failure Stub} (decides : Decides responder request outcome) :
    responder.select request = outcome := by
  cases decides with
  | lengthMissing absent => rw [select, Request.declaredLength_of_absent absent]
  | lengthInvalid present invalid =>
    rw [select, Request.declaredLength_of_invalid present invalid]
  | bodyTooLarge declares large =>
    rw [select, Request.declaredLength_eq_ok_iff.2 declares]
    simp [large]
  | lengthMismatch declares fits differs =>
    rw [select, Request.declaredLength_eq_ok_iff.2 declares]
    simp [Nat.not_lt.2 fits, differs]
  | bodyMalformed admits underivable reported =>
    rw [select_of_admits admits, lookUp, readIdentifier_of_malformed reported]
  | identifierMissing admits document nameless =>
    rw [select_of_admits admits, lookUp, readIdentifier_of_nameless document nameless]
  | identifierUnknown admits document names unknown =>
    rw [select_of_admits admits, lookUp_of_unknown document names unknown]
  | selected admits document names known =>
    rw [select_of_admits admits, lookUp_of_known document names known]

/-- Some row of the table applies to every request whose body is read. -/
theorem exists_decides_of_admits {responder : Responder} {request : Request}
    (admits : responder.Admits request) : ∃ outcome, Decides responder request outcome := by
  cases parsed : Json.Value.parse request.body with
  | error error =>
    refine ⟨_, .bodyMalformed admits ?_ parsed⟩
    rintro ⟨value, document⟩
    rw [Json.Value.parse_eq_ok_iff.2 document] at parsed
    cases parsed
  | ok value =>
    have document := Json.Value.parse_eq_ok_iff.1 parsed
    by_cases named : ∃ identifier, Names identifier value
    · obtain ⟨identifier, names⟩ := named
      cases found : responder.catalogue.resolve? identifier with
      | none => exact ⟨_, .identifierUnknown admits document names found⟩
      | some stub => exact ⟨_, .selected admits document names found⟩
    · exact ⟨_, .identifierMissing admits document named⟩

/-- Some row of the table applies to every request. -/
theorem exists_decides (responder : Responder) (request : Request) :
    ∃ outcome, Decides responder request outcome := by
  rcases request.declares_cases with ⟨declared, declares⟩ | absent | ⟨text, present, invalid⟩
  · by_cases large : responder.bodyLimit < declared
    · exact ⟨_, .bodyTooLarge declares large⟩
    have fits : declared ≤ responder.bodyLimit := Nat.not_lt.1 large
    by_cases same : request.body.length = declared
    · rw [← same] at declares fits
      exact exists_decides_of_admits ⟨declares, fits⟩
    · exact ⟨_, .lengthMismatch declares fits same⟩
  · exact ⟨_, .lengthMissing absent⟩
  · exact ⟨_, .lengthInvalid present invalid⟩

theorem select_eq_iff {responder : Responder} {request : Request}
    {outcome : Except Failure Stub} :
    responder.select request = outcome ↔ Decides responder request outcome := by
  constructor
  · rintro rfl
    obtain ⟨outcome, decides⟩ := exists_decides responder request
    rwa [select_of_decides decides]
  · exact select_of_decides

/-- A request selects what its body names, if that has the declared length and is within
the limit. -/
theorem select_eq_ok_iff {responder : Responder} {request : Request} {stub : Stub} :
    responder.select request = .ok stub ↔
      responder.Admits request ∧ responder.lookUp request.body = .ok stub := by
  constructor
  · intro selected
    cases select_eq_iff.1 selected with
    | selected admits document names known =>
      exact ⟨admits, lookUp_of_known document names known⟩
  · rintro ⟨admits, found⟩
    rw [select_of_admits admits, found]

/-! ## Responses and events -/

theorem toResponse_injective {stub other : Stub} (same : stub.toResponse = other.toResponse) :
    stub = other := by
  obtain ⟨status, body, _⟩ := stub
  obtain ⟨otherStatus, otherBody, _⟩ := other
  have sameStatus : status = otherStatus := congrArg Response.status same
  have sameBody : body = otherBody := congrArg Response.body same
  subst sameStatus sameBody
  rfl

theorem answer_of_other {responder : Responder} {request : Request} {token : String}
    (other : request.method = .other token) :
    responder.answer request =
      (.unsupportedMethod, [.unsupportedMethod token request.path]) := by
  rw [answer, other]

theorem answer_of_ok {responder : Responder} {request : Request} {stub : Stub}
    (post : request.method = .post) (selected : responder.select request = .ok stub) :
    responder.answer request = (stub.toResponse, []) := by
  simp only [answer, post, selected]

theorem answer_of_error {responder : Responder} {request : Request} {failure : Failure}
    (post : request.method = .post) (refused : responder.select request = .error failure) :
    responder.answer request = (.invalidRequest, [.rejected request.path failure]) := by
  simp only [answer, post, refused]

/-- A request is refused for its method, answered from a stub, or rejected. -/
theorem answer_cases (responder : Responder) (request : Request) :
    (∃ token, request.method = .other token ∧ responder.answer request =
      (.unsupportedMethod, [.unsupportedMethod token request.path])) ∨
    (∃ stub, request.method = .post ∧ responder.select request = .ok stub ∧
      responder.answer request = (stub.toResponse, [])) ∨
    ∃ failure, request.method = .post ∧ responder.select request = .error failure ∧
      responder.answer request = (.invalidRequest, [.rejected request.path failure]) := by
  cases method : request.method with
  | other token => exact .inl ⟨token, rfl, answer_of_other method⟩
  | post =>
    cases selected : responder.select request with
    | ok stub => exact .inr (.inl ⟨stub, rfl, rfl, answer_of_ok method selected⟩)
    | error failure => exact .inr (.inr ⟨failure, rfl, rfl, answer_of_error method selected⟩)

/-- Every response is a plain text. -/
theorem exists_text (responder : Responder) (request : Request) :
    ∃ status text, (responder.answer request).1 = Response.text status text := by
  rcases responder.answer_cases request with
    ⟨_, _, answered⟩ | ⟨stub, _, _, answered⟩ | ⟨_, _, _, answered⟩
  · exact ⟨.notImplemented, Utf8.encode "unsupported method", by rw [answered]; rfl⟩
  · exact ⟨stub.status, stub.body, by rw [answered]; rfl⟩
  · exact ⟨.badRequest, Utf8.encode "invalid request", by rw [answered]; rfl⟩

/-- What a request selects depends on the length that it declares and on its body. -/
theorem select_congr {responder : Responder} {request other : Request}
    (declared : request.declaredLength = other.declaredLength) (body : request.body = other.body) :
    responder.select request = responder.select other := by
  rw [select, select, declared, body]

/-- How a POST is answered depends on what it selects. -/
theorem response_congr {responder : Responder} {request other : Request}
    (post : request.method = .post) (postOther : other.method = .post)
    (selects : responder.select request = responder.select other) :
    (responder.answer request).1 = (responder.answer other).1 := by
  cases selected : responder.select other with
  | ok stub => rw [answer_of_ok post (selects.trans selected), answer_of_ok postOther selected]
  | error failure =>
    rw [answer_of_error post (selects.trans selected), answer_of_error postOther selected]

theorem answer_unsupported_iff {responder : Responder} {request : Request} {token : String} :
    responder.answer request =
        (.unsupportedMethod, [.unsupportedMethod token request.path]) ↔
      request.method = .other token := by
  refine ⟨?_, answer_of_other⟩
  intro answered
  rcases answer_cases responder request with ⟨other, method, same⟩ | ⟨_, _, _, same⟩ |
    ⟨_, _, _, same⟩
  all_goals have events := congrArg Prod.snd (answered.symm.trans same)
  · injection events with event
    injection event with tokens
    rw [tokens, method]
  · cases events
  · cases events

theorem answer_stub_iff {responder : Responder} {request : Request} {stub : Stub} :
    responder.answer request = (stub.toResponse, []) ↔
      request.method = .post ∧ responder.select request = .ok stub := by
  refine ⟨?_, fun ⟨post, selected⟩ => answer_of_ok post selected⟩
  intro answered
  rcases answer_cases responder request with ⟨_, _, same⟩ | ⟨other, post, selected, same⟩ |
    ⟨_, _, _, same⟩
  · cases congrArg Prod.snd (answered.symm.trans same)
  · have responses := congrArg Prod.fst (answered.symm.trans same)
    rw [toResponse_injective responses]
    exact ⟨post, selected⟩
  · cases congrArg Prod.snd (answered.symm.trans same)

theorem answer_rejected_iff {responder : Responder} {request : Request} {failure : Failure} :
    responder.answer request = (.invalidRequest, [.rejected request.path failure]) ↔
      request.method = .post ∧ responder.select request = .error failure := by
  refine ⟨?_, fun ⟨post, refused⟩ => answer_of_error post refused⟩
  intro answered
  rcases answer_cases responder request with ⟨_, _, same⟩ | ⟨_, _, _, same⟩ |
    ⟨other, post, refused, same⟩
  all_goals have events := congrArg Prod.snd (answered.symm.trans same)
  · cases events
  · cases events
  · injection events with event
    injection event with _ failures
    rw [failures]
    exact ⟨post, refused⟩

/-- What is reported about a request, if anything is. -/
theorem answer_events (responder : Responder) (request : Request) :
    (responder.answer request).2 = [] ∨
      ∃ event, (responder.answer request).2 = [event] ∧ event.severity = .debug ∧
        ((∃ token, request.method = .other token ∧
            event.details = [("method", token), ("path", request.path)]) ∨
          ∃ failure, request.method = .post ∧ responder.select request = .error failure ∧
            event.details = [("path", request.path), ("error", failure.message)]) := by
  rcases answer_cases responder request with ⟨token, method, same⟩ | ⟨stub, post, selected, same⟩ |
    ⟨failure, post, refused, same⟩
  · rw [same]
    exact .inr ⟨_, rfl, rfl, .inl ⟨token, method, rfl⟩⟩
  · rw [same]
    exact .inl rfl
  · rw [same]
    exact .inr ⟨_, rfl, rfl, .inr ⟨failure, post, refused, rfl⟩⟩

/-- The decision table of a responder. The first part says which outcome a POST has;
the others say, with the response and the event together, when a request is answered
in one of the three ways. A stub may be configured to look like a fixed response, so
it is the event that tells them apart. -/
theorem decision_table (responder : Responder) (request : Request) :
    (∀ outcome, responder.select request = outcome ↔ Decides responder request outcome) ∧
    (∀ token, responder.answer request =
        (.unsupportedMethod, [.unsupportedMethod token request.path]) ↔
      request.method = .other token) ∧
    (∀ stub, responder.answer request = (stub.toResponse, []) ↔
      request.method = .post ∧ Decides responder request (.ok stub)) ∧
    (∀ failure, responder.answer request =
        (.invalidRequest, [.rejected request.path failure]) ↔
      request.method = .post ∧ Decides responder request (.error failure)) ∧
    ((responder.answer request).2 = [] ∨
      ∃ event, (responder.answer request).2 = [event] ∧ event.severity = .debug ∧
        ((∃ token, request.method = .other token ∧
            event.details = [("method", token), ("path", request.path)]) ∨
          ∃ failure, request.method = .post ∧ responder.select request = .error failure ∧
            event.details = [("path", request.path), ("error", failure.message)])) ∧
    (Response.unsupportedMethod.status.code = 501 ∧
      Response.unsupportedMethod.fields =
        [("content-type", "text/plain"), ("content-length", "18")] ∧
      Response.unsupportedMethod.body = Utf8.encode "unsupported method") ∧
    (Response.invalidRequest.status.code = 400 ∧
      Response.invalidRequest.fields =
        [("content-type", "text/plain"), ("content-length", "15")] ∧
      Response.invalidRequest.body = Utf8.encode "invalid request") := by
  refine ⟨fun outcome => select_eq_iff, fun token => answer_unsupported_iff, fun stub => ?_,
    fun failure => ?_, answer_events responder request, by decide, by decide⟩
  · rw [answer_stub_iff, select_eq_iff]
  · rw [answer_rejected_iff, select_eq_iff]

end Responder

end Replay
