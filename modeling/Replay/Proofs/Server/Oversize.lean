import Replay.Proofs.Server.Conversation
import Replay.Proofs.Server.Intake
import Replay.Proofs.Wire.Framing

/-!
# Reports of bodies that are too large

A report gives a size and a limit. The limit is that of the responder. That a body is too
large is noticed on the octets that arrive, but the size is taken from the header fields,
and is one above the limit if they declare none. A body that ends where its fields say has
the size that is reported. A body in chunks ends elsewhere: if a length in front of the
coding is within the limit, the report gives this length.
-/

namespace Replay

open Wire

/-! ## What is noticed -/

namespace Body

/-- A body is over the limit exactly if its parts are longer, however they end. -/
theorem gather_eq_overLimit_iff {ending : BodyEnd} {room : Nat} {parts : List Bytes} :
    gather ending room parts = .error .overLimit ↔ room < parts.flatten.length := by
  refine ⟨?_, gather_of_large⟩
  induction parts generalizing room with
  | nil =>
    intro stopped
    cases ending <;> cases stopped
  | cons part parts ih =>
    intro stopped
    rw [List.flatten_cons, List.length_append]
    by_cases enters : part.length > room
    · omega
    · rw [gather, if_neg enters] at stopped
      cases gathered : gather ending (room - part.length) parts with
      | ok _ =>
        rw [gathered] at stopped
        cases stopped
      | error stop =>
        rw [gathered] at stopped
        cases stopped
        have large := ih gathered
        omega

end Body

namespace Request

/-- A body is reported as too large when the body of a POST is, with the limit, and with
the length that the head declares as a plain number or else one above the limit. -/
theorem receive_tooLarge_iff {limit size reported : Nat} {head : Head} {body : Body} :
    receive limit head body = .error (.bodyTooLarge size reported) ↔
      head.method = "POST" ∧ reported = limit ∧ limit < body.parts.flatten.length ∧
        size = head.declared?.getD (limit + 1) := by
  by_cases post : head.method = "POST"
  · rw [receive, if_pos (by simp [Head.wantsBody, post]), ← Body.gather_eq_overLimit_iff]
    cases Body.gather body.ending limit body.parts with
    | ok octets => simp
    | error stop =>
      cases stop with
      | overLimit => simp [post, eq_comm, and_comm]
      | broken => simp
  · simp [receive_of_other post, post]

end Request

/-! ## What the header fields declare -/

namespace Wire

/-- The size that is reported of a body beyond a limit: what a field in front of the first
transfer coding declares, or one above the limit if none does. -/
inductive ReportedSize (fields : List (Bytes × Bytes)) (limit : Nat) : Nat → Prop where
  | declared {field : Bytes × Bytes} {size : Nat} (within : field ∈ ahead fields)
      (declares : DeclaresLength field size) : ReportedSize fields limit size
  | undeclared (none : ∀ field ∈ ahead fields, ∀ length, ¬ DeclaresLength field length) :
      ReportedSize fields limit (limit + 1)

namespace Survey

variable {survey : Survey} {fields : List (Bytes × Bytes)} {head : Head}

/-- A head with the fields of a survey declares as a plain number what the survey found. -/
theorem Holds.declared? (holds : survey.Holds fields) (same : head.fields = survey.fields) :
    head.declared? = survey.declared := by
  have kept := holds.kept
  rw [Head.declared?, same, FieldMap.first?]
  generalize survey.declared = declared, survey.fields.values Fields.contentLength = values
    at kept ⊢
  cases kept with
  | none => rfl
  | one reads =>
    obtain ⟨visible, denotes, small⟩ := denotes_of_length? reads
    simp [visible, Decimal.readBelow?_eq_some_iff.2 ⟨denotes, small⟩]

theorem Holds.reportedSize_iff (holds : survey.Holds fields) {limit size : Nat} :
    size = survey.declared.getD (limit + 1) ↔ ReportedSize fields limit size := by
  cases found : survey.declared with
  | none =>
    have none : ∀ field ∈ ahead fields, ∀ length, ¬ DeclaresLength field length := by
      intro field within length declares
      have declared := (holds.declared length).2 ⟨field, within, declares⟩
      rw [found] at declared
      cases declared
    constructor
    · rintro rfl
      exact .undeclared none
    · rintro (⟨within, declares⟩ | _)
      · exact absurd declares (none _ within _)
      · rfl
  | some length =>
    obtain ⟨field, within, declares⟩ := (holds.declared length).1 found
    constructor
    · rintro rfl
      exact .declared within declares
    · rintro (⟨otherWithin, otherDeclares⟩ | none)
      · have other := (holds.declared size).2 ⟨_, otherWithin, otherDeclares⟩
        rw [found] at other
        cases other
        rfl
      · exact absurd declares (none field within length)

/-- What arrives of a body that is not in chunks is not longer than declared. -/
theorem length_arrival_le {framing : Framing} (framed : survey.framing = .ok framing)
    (whole : framing ≠ .chunked) (input : Bytes) :
    (framing.arrival input).parts.flatten.length ≤ survey.declared.getD 0 := by
  unfold Survey.framing at framed
  split at framed
  · cases framed
    exact absurd rfl whole
  · cases framed
  · next length _ declared =>
    cases framed
    rw [declared, Framing.flatten_arrival_sized]
    exact List.length_take_le length input
  · cases framed
    exact Nat.zero_le _

end Survey

end Wire

/-! ## Reports -/

namespace Responder

/-- What cannot be read is reported for the reason for which it cannot. -/
theorem handle_of_unread {responder : Responder} {head : Head} {body : Body} {failure : Failure}
    (unread : Request.receive responder.bodyLimit head body = .error failure) :
    responder.handle head body =
      (.plain .badRequest (Utf8.encode "invalid request"), [.unreadable failure]) := by
  apply handle_of_respond
  rw [respond, unread]
  rfl

/-- The reports of bodies that are too large. Where the body is read, it is a body of a
POST and longer than the limit of the responder, which is reported. The size is not above
this limit exactly if the body is in chunks and a field in front of the coding declares a
length within the limit. Where a request is judged, the size is what it declares and is
always above the limit. -/
theorem tooLarge_reports {lines : List Bytes} {opening : Opening}
    (understood : Opening.ofLines lines = .ok opening) (responder : Responder) :
    ∃ fields, Opening.fieldsOf lines.tail = .ok fields ∧
      (∀ input ending size limit,
        let parts := (opening.framing.arrival input).parts
        Request.receive responder.bodyLimit opening.head ⟨parts, ending⟩ =
            .error (.bodyTooLarge size limit) ↔
          opening.head.method = "POST" ∧ limit = responder.bodyLimit ∧
            limit < parts.flatten.length ∧ ReportedSize fields limit size) ∧
      (∀ input ending size limit,
        Request.receive responder.bodyLimit opening.head
            ⟨(opening.framing.arrival input).parts, ending⟩ =
          .error (.bodyTooLarge size limit) →
        (size ≤ limit ↔ opening.framing = .chunked ∧
          ∃ field ∈ ahead fields, ∃ length ≤ limit, DeclaresLength field length)) ∧
      ∀ request size limit,
        responder.select request = .error (.bodyTooLarge size limit) ↔
          limit = responder.bodyLimit ∧ limit < size ∧ request.Declares size := by
  obtain ⟨fields, survey, read, holds, framed, same⟩ := Opening.exists_survey understood
  have reported : ∀ input ending size limit,
      let parts := (opening.framing.arrival input).parts
      Request.receive responder.bodyLimit opening.head ⟨parts, ending⟩ =
          .error (.bodyTooLarge size limit) ↔
        opening.head.method = "POST" ∧ limit = responder.bodyLimit ∧
          limit < parts.flatten.length ∧ ReportedSize fields limit size := by
    intro input ending size limit parts
    rw [Request.receive_tooLarge_iff, holds.declared? same, holds.reportedSize_iff]
    constructor
    · rintro ⟨post, rfl, large, size⟩
      exact ⟨post, rfl, large, size⟩
    · rintro ⟨post, rfl, large, size⟩
      exact ⟨post, rfl, large, size⟩
  refine ⟨fields, read, reported, ?_, ?_⟩
  · intro input ending size limit received
    obtain ⟨_, _, large, sized⟩ := (reported input ending size limit).1 received
    constructor
    · intro small
      cases sized with
      | undeclared _ => exact absurd small (Nat.not_succ_le_self limit)
      | declared within declares =>
        refine ⟨?_, _, within, size, small, declares⟩
        by_contra whole
        have bound := Survey.length_arrival_le framed whole input
        rw [(holds.declared size).2 ⟨_, within, declares⟩, Option.getD_some] at bound
        omega
    · rintro ⟨_, field, within, length, small, declares⟩
      have declared := holds.reportedSize_iff.2 sized
      rw [(holds.declared length).2 ⟨field, within, declares⟩, Option.getD_some] at declared
      rwa [declared]
  · intro request size limit
    rw [select_eq_iff]
    constructor
    · rintro (_ | _ | ⟨declares, large⟩)
      exact ⟨rfl, large, declares⟩
    · rintro ⟨rfl, large, declares⟩
      exact .bodyTooLarge declares large

/-- A body that is not in chunks is reported with its length. -/
theorem tooLarge_reports_of_sized :
    let opening : Opening :=
      ⟨⟨"POST", "/", ⟨[("content-length", [Utf8.encode "4"])]⟩⟩, .sized 4, .oneOne, true⟩
    Opening.ofLines [Utf8.encode "POST / HTTP/1.1", Utf8.encode "Content-Length: 4"] =
        .ok opening ∧
      Request.receive 3 opening.head ⟨[Utf8.encode "abcd"], .complete⟩ =
        .error (.bodyTooLarge 4 3) := by
  intro opening
  have understood : Opening.ofLines
      [Utf8.encode "POST / HTTP/1.1", Utf8.encode "Content-Length: 4"] = .ok opening := by
    decide +kernel
  obtain ⟨fields, read, reported, _⟩ := tooLarge_reports understood ⟨.empty, 3⟩
  have listed : Opening.fieldsOf [Utf8.encode "Content-Length: 4"] =
      .ok [(Utf8.encode "Content-Length", Utf8.encode "4")] := by
    decide +kernel
  cases listed.symm.trans read
  have declares : DeclaresLength (Utf8.encode "Content-Length", Utf8.encode "4") 4 :=
    ⟨rfl, rfl⟩
  have ahead : (Utf8.encode "Content-Length", Utf8.encode "4") ∈
      ahead [(Utf8.encode "Content-Length", Utf8.encode "4")] := by
    rw [ahead_of_uncoded (by simpa using declares.not_coding)]
    exact List.mem_singleton_self _
  exact ⟨understood,
    (reported (Utf8.encode "abcd") .complete 4 3).2 ⟨rfl, rfl, by decide, .declared ahead declares⟩⟩

/-- A body of four octets in one chunk, behind a length of one, is reported as larger than
a limit of three for having one octet. -/
theorem tooLarge_report_untrue :
    let head := "POST / HTTP/1.1\r\nContent-Length: 1\r\nTransfer-Encoding: chunked\r\n\r\n"
    let chunks := "4\r\nabcd\r\n0\r\n\r\n"
    let responder : Responder := ⟨.empty, 3⟩
    let event := Event.unreadable (.bodyTooLarge 1 3)
    (∃ answer, ∀ passes, (Connection.start.exchange responder
        (.arrive (Utf8.encode head ++ Utf8.encode chunks) passes)).2 = some (answer, [event])) ∧
      event.details = [("error", "Body too large: 1 bytes exceeds limit of 3 bytes")] := by
  intro head chunks responder event
  refine ⟨?_, rfl⟩
  let opening : Opening := ⟨⟨"POST", "/", ⟨[("content-length", [Utf8.encode "1"]),
    ("transfer-encoding", [Utf8.encode "chunked"])]⟩⟩, .chunked, .oneOne, true⟩
  let lines := [Utf8.encode "POST / HTTP/1.1", Utf8.encode "Content-Length: 1",
    Utf8.encode "Transfer-Encoding: chunked"]
  have block : Line.block? (Utf8.encode head ++ Utf8.encode chunks) =
      some (lines, Utf8.encode chunks) := by decide +kernel
  have opens : Opening.ofLines lines = .ok opening := by decide +kernel
  have parts : (Chunked.read (Utf8.encode chunks)).parts = [Utf8.encode "abcd"] := by
    decide +kernel
  have ended : (Chunked.read (Utf8.encode chunks)).rest = .ok [] := by decide +kernel
  have arrives : Chunked.read (Utf8.encode chunks) = ⟨[Utf8.encode "abcd"], .ok []⟩ := by
    rw [← parts, ← ended]
  have declared : opening.head.declared? = some 1 := by decide +kernel
  have unread : Request.receive responder.bodyLimit opening.head
      (.complete [Utf8.encode "abcd"]) = .error (.bodyTooLarge 1 3) :=
    Request.receive_tooLarge_iff.2 ⟨rfl, rfl, by decide, by rw [declared, Option.getD_some]⟩
  simp only [Inquiry.exchange_of_written _ (.complete block opens arrives), Inquiry.heard, reply,
    handle_of_unread unread, Option.some.injEq, Prod.mk.injEq]
  exact ⟨_, fun _ => ⟨rfl, rfl⟩⟩

end Responder

end Replay
