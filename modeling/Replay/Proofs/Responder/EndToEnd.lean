import Replay.Proofs.Catalogue.Loading
import Replay.Proofs.Responder.Decision

/-!
# From a configuration to a response

A configuration document and the body of a request are two texts that are read by
two different readers. Whatever way their identifiers are written, they meet: the
response is the one that the last entry of the identifier describes.
-/

namespace Replay

open Json Json.Grammar

namespace Stub

/-- The response of a stub carries the status and the body of the entry, and declares
the length of that body. -/
theorem toResponse_of_replays {stub : Stub} {draft : Draft} (replays : Replays stub draft) :
    stub.toResponse.status.code = draft.status ∧
      stub.toResponse.body = Utf8.encode draft.body ∧
      stub.toResponse.fields =
        [("content-type", "text/plain"),
          ("content-length", toString (Utf8.encode draft.body).length)] := by
  obtain ⟨code, body⟩ := replays
  refine ⟨code, body, ?_⟩
  rw [← body]
  rfl

end Stub

namespace Responder

/-- A posted body that names a known identifier is answered with its stub. -/
theorem answer_post {responder : Responder} {body : Bytes} {value : Json.Value}
    {identifier : String} {stub : Stub} (small : body.length < Request.lengthBound)
    (fits : body.length ≤ responder.bodyLimit) (document : Document value body)
    (names : Names identifier value)
    (known : responder.catalogue.resolve? identifier = some stub) :
    responder.answer (Request.post body) = (stub.toResponse, []) := by
  have admits : responder.Admits (Request.post body) := ⟨Request.declares_post small, fits⟩
  exact answer_of_ok rfl (select_of_decides (.selected admits document names known))

/-- However a configuration and a body are written, a request is answered with the
status and the body of the last entry of the identifier that it names. -/
theorem answer_of_documents {drafts : Drafts} {members fields : List (String × Json.Value)}
    {configuration body : Bytes} {limit : UInt64} {identifier : String} {draft : Draft}
    (replayable : ∀ entry ∈ drafts, 200 ≤ entry.2.status ∧ entry.2.status ≤ 999 ∧
      entry.2.status ≠ 204 ∧ entry.2.status ≠ 304)
    (configured : Document (.object members) configuration)
    (described : List.Forall₂
      (fun entry member => entry.1 = member.1 ∧ Describes entry.2 member.2) drafts members)
    (fits : body.length ≤ limit.toNat) (requested : Document (.object fields) body)
    (named : LastNamed "id" (.scalar (.text identifier)) fields)
    (last : LastNamed identifier draft drafts) :
    ∃ catalogue response, Catalogue.load configuration = .ok catalogue ∧
      ((ofCatalogue catalogue).withBodyLimit limit.toNat).answer (Request.post body) =
        (response, []) ∧
      response.status.code = draft.status ∧ response.body = Utf8.encode draft.body ∧
      response.fields = [("content-type", "text/plain"),
        ("content-length", toString (Utf8.encode draft.body).length)] := by
  obtain ⟨catalogue, stub, loaded, known, replays⟩ :=
    Catalogue.exists_load configured described replayable last
  refine ⟨catalogue, stub.toResponse, loaded, ?_, Stub.toResponse_of_replays replays⟩
  have small : body.length < Request.lengthBound := Nat.lt_of_le_of_lt fits limit.toNat_lt
  exact answer_post small fits requested ⟨fields, rfl, named⟩ known

/-- A name that is written with an escape overrules the same name written without. -/
theorem answer_of_escaped_name :
    ∃ catalogue response,
      Catalogue.load (Utf8.encode
    "\x7b\"k\":\x7b\"status\":500,\"body\":\"\"\x7d, \"\\u006B\":\x7b\"body\":\"\\n\",\"status\":201\x7d\x7d")
        = .ok catalogue ∧
      ((ofCatalogue catalogue).withBodyLimit (18 : UInt64).toNat).answer
          (Request.post (Utf8.encode "\x7b\"id\":1,\"id\":\"k\"\x7d")) = (response, []) ∧
      response.status.code = 201 ∧ response.body = Utf8.encode "\n" ∧
      response.fields = [("content-type", "text/plain"),
        ("content-length", toString (Utf8.encode "\n").length)] := by
  have blank : Gap [0x20] := by decide
  have id : Quoted "id" _ := .of_plain (by decide)
  have key : Quoted "k" _ := .of_plain (by decide)
  have status : Quoted "status" _ := .of_plain (by decide)
  have body : Quoted "body" _ := .of_plain (by decide)
  have empty : Quoted "" _ := .of_plain (by decide)
  have unit : HexUnit [0x30, 0x30, 0x36, 0x42] 'k'.toNat :=
    .digits (@HexDigit.decimal 0x30 0 (by decide) rfl) (@HexDigit.decimal 0x30 0 (by decide) rfl)
      (@HexDigit.decimal 0x36 6 (by decide) rfl)
      (@HexDigit.capital 0x42 11 (by decide) (by decide) rfl)
  have escapedKey : Quoted "k" _ := .quotes (.cons (.escaped (.unit unit)) .nil)
  have lineFeed : Quoted "\n" _ :=
    .quotes (.cons (.escaped (@Escape.short 0x6E '\n' (by decide))) .nil)
  have refused : Nested 125 (statusValue 500) [0x35, 0x30, 0x30] :=
    nested_natural (.digits (by decide) (by decide)) rfl (by decide)
  have created : Nested 125 (statusValue 201) [0x32, 0x30, 0x31] :=
    nested_natural (.digits (by decide) (by decide)) rfl (by decide)
  have one : Nested 126 (statusValue 1) [0x31] :=
    nested_natural (.digits (by decide) (by decide)) rfl (by decide)
  have first : Nested 126 (.object [("status", statusValue 500), ("body", bodyValue "")]) _ :=
    .object (.filled gap_nil (.named status gap_nil gap_nil refused)
      (.more gap_nil gap_nil (.named body gap_nil gap_nil (nested_text empty)) (.done gap_nil)))
  have second : Nested 126 (.object [("body", bodyValue "\n"), ("status", statusValue 201)]) _ :=
    .object (.filled gap_nil (.named body gap_nil gap_nil (nested_text lineFeed))
      (.more gap_nil gap_nil (.named status gap_nil gap_nil created) (.done gap_nil)))
  have configured : Document (.object [("k", _), ("k", _)]) _ :=
    .whole gap_nil (.object (.filled gap_nil (.named key gap_nil gap_nil first)
      (.more gap_nil blank (.named escapedKey gap_nil gap_nil second) (.done gap_nil)))) gap_nil
  have requested : Document (.object [("id", _), ("id", _)]) _ :=
    .whole gap_nil (.object (.filled gap_nil (.named id gap_nil gap_nil one)
      (.more gap_nil gap_nil (.named id gap_nil gap_nil (nested_text key)) (.done gap_nil))))
      gap_nil
  have described : List.Forall₂
      (fun (entry : String × Draft) (member : String × Json.Value) =>
        entry.1 = member.1 ∧ Describes entry.2 member.2)
      [("k", ⟨500, ""⟩), ("k", ⟨201, "\n"⟩)] [("k", _), ("k", _)] :=
    .cons ⟨rfl, .statusFirst (by decide)⟩ (.cons ⟨rfl, .bodyFirst (by decide)⟩ .nil)
  have answered := @answer_of_documents _ _ _ _ _ 18 "k" ⟨201, "\n"⟩ (by decide) configured
    described (by decide) requested ⟨[_], [], rfl, by simp⟩ ⟨[_], [], rfl, by simp⟩
  exact answered

end Responder

end Replay
