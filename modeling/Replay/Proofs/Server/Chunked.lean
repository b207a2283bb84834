import Replay.Proofs.Catalogue.Loading
import Replay.Proofs.Server.Conversation
import Replay.Proofs.Server.Intake
import Replay.Proofs.Wire.Framing

/-!
# Requests in chunks

The body of a request may be coded in chunks, but a stub is only selected by a body
whose length was declared. A length that stands behind the coding is passed over; one
that stands in front of it counts, if it is that of the body behind the chunks.
-/

namespace Replay

open Json Json.Grammar Wire

namespace Wire.Opening

/-- A request in chunks declares exactly the lengths in front of the first coding. -/
theorem declares_of_chunked {lines : List Bytes} {opening : Opening}
    (understood : ofLines lines = .ok opening) (chunked : opening.framing = .chunked) :
    ∃ front coding behind, fieldsOf lines.tail = .ok (front ++ coding :: behind) ∧
      IsCoding coding ∧ (∀ field ∈ front, ¬ IsCoding field) ∧
      ∀ body length, (opening.head.request body).Declares length ↔
        ∃ field ∈ front, DeclaresLength field length := by
  obtain ⟨fields, survey, read, holds, framed, same⟩ := exists_survey understood
  have coded : survey.coded.isSome := by
    rw [chunked, Survey.framing] at framed
    cases found : survey.coded with
    | some _ => rfl
    | none =>
      rw [found] at framed
      cases declared : survey.declared <;> rw [declared] at framed <;> cases framed
  obtain ⟨front, coding, behind, rfl, uncoded, isCoding⟩ := exists_coding (holds.coded.1 coded)
  refine ⟨front, coding, behind, read, isCoding, uncoded, ?_⟩
  intro body length
  have declared := holds.declared length
  rw [ahead_append_coding _ uncoded isCoding] at declared
  rw [← declared, ← Request.declaredLength_eq_ok_iff, holds.declaredLength same]
  cases survey.declared <;> simp

end Wire.Opening

namespace Responder

/-- What arrives as a whole request that selects a stub is answered with the stub. -/
theorem exchange_of_serves {responder : Responder} {opening : Opening} {parts : List Bytes}
    {octets : Bytes} {stub : Stub} (written : Inquiry.WrittenAs ⟨opening, .complete parts⟩ octets)
    (serves : responder.Serves opening.head (.complete parts) stub) :
    ∃ answer,
      (∀ passes, (Connection.start.exchange responder (.arrive octets passes)).2 =
        some (answer, [])) ∧
      answer.reply = .plain stub.status stub.body := by
  simp only [Inquiry.exchange_of_written responder written, Inquiry.heard, reply,
    handle_of_serves serves, Option.some.injEq, Prod.mk.injEq, and_true]
  exact ⟨_, fun _ => rfl, rfl⟩

/-- A POST in chunks. It is answered with a stub exactly if the body behind the chunks is
complete, within the limit and names the stub, and if a header field in front of the
first transfer coding declares its length. In all other cases the reply is the uniform
one, and one event is reported. -/
theorem chunked_reply {lines : List Bytes} {opening : Opening}
    (understood : Opening.ofLines lines = .ok opening) (chunked : opening.framing = .chunked)
    (post : opening.head.method = "POST") (responder : Responder) (body : Body) :
    ∃ front coding behind,
      Opening.fieldsOf lines.tail = .ok (front ++ coding :: behind) ∧
      IsCoding coding ∧ (∀ field ∈ front, ¬ IsCoding field) ∧
      (∀ stub, responder.Serves opening.head body stub ↔
        body.ending = .complete ∧ body.parts.flatten.length ≤ responder.bodyLimit ∧
          responder.lookUp body.parts.flatten = .ok stub ∧
          ∃ field ∈ front, DeclaresLength field body.parts.flatten.length) ∧
      (∀ stub, responder.Serves opening.head body stub →
        (responder.reply (.request opening body)).1.reply = .plain stub.status stub.body ∧
          (responder.reply (.request opening body)).2 = []) ∧
      ((¬ ∃ stub, responder.Serves opening.head body stub) →
        (responder.reply (.request opening body)).1.reply =
            .plain .badRequest (Utf8.encode "invalid request") ∧
          ∃ event, (responder.reply (.request opening body)).2 = [event] ∧
            event.severity = .debug) := by
  obtain ⟨front, coding, behind, read, isCoding, uncoded, declares⟩ :=
    Opening.declares_of_chunked understood chunked
  refine ⟨front, coding, behind, read, isCoding, uncoded, ?_, ?_, ?_⟩
  · intro stub
    rw [serves_iff, Admits, declares]
    constructor
    · rintro ⟨_, complete, ⟨declared, fits⟩, found⟩
      exact ⟨complete, fits, found, declared⟩
    · rintro ⟨complete, fits, found, declared⟩
      exact ⟨post, complete, ⟨declared, fits⟩, found⟩
  · intro stub serves
    rw [reply, handle_of_serves serves]
    exact ⟨rfl, rfl⟩
  · intro unserved
    obtain ⟨event, debug, handled⟩ := handle_of_unserved post unserved
    rw [reply, handled]
    exact ⟨rfl, event, rfl, debug⟩

/-- A length behind the coding is passed over, although it is that of the body, and the
body names a stub that is known. -/
theorem chunked_reply_of_late_length :
    let lines := [Utf8.encode "POST / HTTP/1.1", Utf8.encode "Transfer-Encoding: chunked",
      Utf8.encode "Content-Length: 10"]
    let opening : Opening :=
      ⟨⟨"POST", "/", ⟨[("transfer-encoding", [Utf8.encode "chunked"])]⟩⟩, .chunked, .oneOne, true⟩
    let responder : Responder := ⟨Catalogue.empty.insert "a" ⟨.ok, [], rfl⟩, 10⟩
    let body := Body.complete [Utf8.encode "\x7b\"id\":\"a\"\x7d"]
    Opening.ofLines lines = .ok opening ∧ opening.framing = .chunked ∧
      opening.head.method = "POST" ∧
      (responder.reply (.request opening body)).1.reply =
        .plain .badRequest (Utf8.encode "invalid request") := by
  intro lines opening responder body
  have understood : Opening.ofLines lines = .ok opening := by decide +kernel
  obtain ⟨front, coding, behind, read, isCoding, uncoded, serves, _, fails⟩ :=
    chunked_reply understood rfl rfl responder body
  have first : IsCoding (Utf8.encode "Transfer-Encoding", Utf8.encode "chunked") := by decide
  have fields : Opening.fieldsOf lines.tail =
      .ok [(Utf8.encode "Transfer-Encoding", Utf8.encode "chunked"),
        (Utf8.encode "Content-Length", Utf8.encode "10")] := by decide +kernel
  refine ⟨understood, rfl, rfl, (fails ?_).1⟩
  rintro ⟨stub, served⟩
  obtain ⟨_, _, _, field, within, _⟩ := (serves stub).1 served
  rw [fields] at read
  -- The coding is the first field, so none stands in front of it.
  cases front with
  | nil => cases within
  | cons next front =>
    simp only [Except.ok.injEq, List.cons_append, List.cons.injEq] at read
    exact uncoded next List.mem_cons_self (read.1 ▸ first)

/-- A length in front of the coding counts: a body in chunks that has this length selects
a stub. -/
theorem selected_in_chunks :
    let configuration := Utf8.encode "\x7b\"a\":\x7b\"status\":200,\"body\":\"x\"\x7d\x7d"
    let head := "POST / HTTP/1.1\r\nContent-Length: 10\r\nTransfer-Encoding: chunked\r\n\r\n"
    let chunks := "a\r\n\x7b\"id\":\"a\"\x7d\r\n0\r\n\r\n"
    ∃ catalogue answer, Catalogue.load configuration = .ok catalogue ∧
      (∀ passes, (Connection.start.exchange (ofCatalogue catalogue)
        (.arrive (Utf8.encode head ++ Utf8.encode chunks) passes)).2 = some (answer, [])) ∧
      answer.reply.status.code = 200 ∧ answer.reply.body = Utf8.encode "x" := by
  intro configuration head chunks
  have status : Quoted "status" _ := .of_plain (by decide)
  have body : Quoted "body" _ := .of_plain (by decide)
  have number : Nested 125 (statusValue 200) [0x32, 0x30, 0x30] :=
    nested_natural (.digits (by decide) (by decide)) rfl (by decide)
  have entry : Nested 126 (.object [("status", statusValue 200), ("body", bodyValue "x")]) _ :=
    .object (.filled gap_nil (.named status gap_nil gap_nil number) (.more gap_nil gap_nil
      (.named body gap_nil gap_nil (nested_text (.of_plain (by decide)))) (.done gap_nil)))
  have configured : Document (.object [("a", _)]) _ := document_of_member (by decide) entry
  have requested : Document (.object [("id", _)]) _ :=
    document_of_member (by decide) (nested_text (.of_plain (by decide : Plain "a".toList)))
  have described : List.Forall₂ Drafts.Describes [("a", ⟨200, "x"⟩)] [("a", _)] :=
    .cons ⟨rfl, .statusFirst (by decide)⟩ .nil
  obtain ⟨catalogue, stub, loaded, known, code, sent⟩ := @Catalogue.exists_load _ _ _ configured
    described (by simp [Replayable]) "a" ⟨200, "x"⟩ ⟨[], [], rfl, by simp⟩
  let opening : Opening := ⟨⟨"POST", "/", ⟨[("content-length", [Utf8.encode "10"]),
    ("transfer-encoding", [Utf8.encode "chunked"])]⟩⟩, .chunked, .oneOne, true⟩
  let decoded := Utf8.encode "\x7b\"id\":\"a\"\x7d"
  -- What arrives is heard as a request in one chunk.
  let lines := [Utf8.encode "POST / HTTP/1.1", Utf8.encode "Content-Length: 10",
    Utf8.encode "Transfer-Encoding: chunked"]
  have block : Line.block? (Utf8.encode head ++ Utf8.encode chunks) =
      some (lines, Utf8.encode chunks) := by decide +kernel
  have opens : Opening.ofLines lines = .ok opening := by decide +kernel
  have parts : (Chunked.read (Utf8.encode chunks)).parts = [decoded] := by decide +kernel
  have ended : (Chunked.read (Utf8.encode chunks)).rest = .ok [] := by decide +kernel
  have arrives : Chunked.read (Utf8.encode chunks) = ⟨[decoded], .ok []⟩ := by
    rw [← parts, ← ended]
  -- The request selects the stub.
  have declares : (opening.head.request decoded).Declares 10 :=
    ⟨Decimal.write 10, ⟨[], "content-length", [("transfer-encoding", "chunked")],
      by decide +kernel, by decide, by simp⟩, Decimal.declares_write 10, by decide⟩
  have found : (ofCatalogue catalogue).lookUp decoded = .ok stub :=
    lookUp_of_known requested ⟨_, rfl, [], [], rfl, by simp⟩ known
  have serves : (ofCatalogue catalogue).Serves opening.head (.complete [decoded]) stub :=
    serves_iff.2 ⟨rfl, rfl, ⟨declares, (by decide : 10 ≤ defaultBodyLimit)⟩, found⟩
  obtain ⟨answer, answered, same⟩ := exchange_of_serves (.complete block opens arrives) serves
  refine ⟨catalogue, answer, loaded, answered, ?_, ?_⟩
  · rw [same]
    exact code
  · rw [same]
    exact sent

end Responder

end Replay
