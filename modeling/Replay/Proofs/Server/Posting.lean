import Replay.Proofs.Server.Conversation
import Replay.Proofs.Server.Intake
import Replay.Proofs.Wire.Framing
import Replay.Proofs.Wire.Line

/-!
# Posted bodies

A body that is posted with its own length gets the answer that the responder gives to the
body at hand, whatever else the request says, in whichever pieces it arrives and whatever
follows it. A body beyond the limit may be answered before all of it has arrived: then it
was going to be refused.
-/

namespace Replay

open Wire

/-! ## Requests that post a body -/

/-- Octets that post a body: a POST that is not coded and declares the length of what
follows its header fields. -/
inductive Posts (body : Bytes) : Bytes → Opening → Prop where
  | mk {octets : Bytes} {lines : List Bytes} {opening : Opening}
      {fields : List (Bytes × Bytes)} {field : Bytes × Bytes}
      (block : Line.block? octets = some (lines, body))
      (opens : Opening.ofLines lines = .ok opening) (post : opening.head.method = "POST")
      (read : Opening.fieldsOf lines.tail = .ok fields)
      (uncoded : ∀ field ∈ fields, ¬ IsCoding field) (within : field ∈ fields)
      (declares : DeclaresLength field body.length) : Posts body octets opening

namespace Posts

variable {body octets : Bytes} {opening : Opening}

theorem post (posts : Posts body octets opening) : opening.head.method = "POST" := by
  cases posts with
  | mk _ _ post _ _ _ _ => exact post

/-- A posted body is as long as declared, to the connection and to the responder. -/
theorem declared (posts : Posts body octets opening) :
    opening.framing = .sized body.length ∧
      ∀ octets, (opening.head.request octets).declaredLength = .ok body.length := by
  obtain ⟨_, opens, _, read, uncoded, within, declares⟩ := posts
  obtain ⟨fields, survey, readAgain, holds, framed, same⟩ := Opening.exists_survey opens
  cases read.symm.trans readAgain
  have declared : survey.declared = some body.length := by
    rw [holds.declared, ahead_of_uncoded uncoded]
    exact ⟨_, within, declares⟩
  have plain : survey.coded = none := by
    rw [← Option.not_isSome_iff_eq_none, holds.coded]
    rintro ⟨field, within, coding⟩
    exact uncoded field within coding
  constructor
  · rw [Survey.framing, plain, declared] at framed
    exact (Except.ok.inj framed).symm
  · intro octets
    rw [holds.declaredLength same, declared]

end Posts

/-! ## Writing a request -/

namespace Wire

end Wire

/-- What is heard of a posted body: all of it, or the front of one beyond the limit. -/
inductive HeardOf (limit : Nat) (body : Bytes) : Body → Prop where
  | whole {parts : List Bytes} (same : parts.flatten = body) :
      HeardOf limit body (.complete parts)
  | cut {parts : List Bytes} (large : limit < body.length) : HeardOf limit body ⟨parts, .broken⟩

/-- Pieces of octets that arrive one after the other, each with the choice whether the
connection passes over what it does not read of a body. -/
abbrev Pieces := List (Bytes × Bool)

namespace Pieces

/-- The turns in which pieces arrive. -/
def turns (pieces : Pieces) : List Turn :=
  pieces.map fun piece => .arrive piece.1 piece.2

/-- The octets of all pieces. -/
def octets (pieces : Pieces) : Bytes :=
  (pieces.map Prod.fst).flatten

end Pieces

/-- Nothing is heard where nothing is pending and nothing arrives. -/
theorem Connection.heard_of_nothing {limit : Nat} {connection : Connection} {pieces : Pieces}
    (nothing : connection.unread ++ pieces.octets = []) :
    connection.heard limit pieces.turns = [] := by
  induction pieces generalizing connection with
  | nil => rfl
  | cons piece pieces ih =>
    obtain ⟨octets, passes⟩ := piece
    obtain ⟨unread, version, keeping, isOpen⟩ := connection
    cases isOpen with
    | false => exact heard_of_closed rfl
    | true =>
      obtain ⟨rfl, rest⟩ := List.append_eq_nil_iff.1 nothing
      obtain ⟨rfl, later⟩ := List.append_eq_nil_iff.1 rest
      exact ih later

section Opening

variable {limit : Nat} {connection : Connection} {passes : Bool} {opening : Opening}
  {input : Bytes} {parts : List Bytes}

/-- A body that has arrived is heard, and what follows it is pending. -/
theorem Connection.hearOpening_of_whole {rest : Bytes}
    (arrives : opening.framing.arrival input = ⟨parts, .ok rest⟩) :
    ∃ after, connection.hearOpening limit passes opening input =
        (after, some (.request opening (.complete parts))) ∧
      (after.isOpen = false ∨ after.unread = rest) := by
  refine ⟨connection.behind limit passes opening ⟨parts, .ok rest⟩, ?_, ?_⟩
  · rw [hearOpening, arrives]
    rfl
  · rw [behind]
    dsimp only
    split
    · exact .inr rfl
    · exact .inl rfl

/-- The rest of the body of a POST is awaited as long as it may fit the limit. -/
theorem Connection.hearOpening_of_awaited (post : opening.head.method = "POST")
    (arrives : opening.framing.arrival input = ⟨parts, .error .awaited⟩) :
    parts.flatten.length ≤ limit ∧ connection.hearOpening limit passes opening input =
      ({ connection with keeping := connection.keeping.begin }, none) ∨
    limit < parts.flatten.length ∧ ∃ after, after.isOpen = false ∧
      connection.hearOpening limit passes opening input =
        (after, some (.request opening ⟨parts, .broken⟩)) := by
  have wanted : opening.head.wantsBody = true := by simp [Head.wantsBody, post]
  rw [hearOpening, arrives]
  by_cases fits : parts.flatten.length ≤ limit
  · have waits : bodyOf? limit opening.head ⟨parts, .error .awaited⟩ = none := by
      simp only [bodyOf?, wanted, fits, decide_true, Bool.and_self, if_true]
    exact .inl ⟨fits, by rw [waits]⟩
  · have stops : bodyOf? limit opening.head ⟨parts, .error .awaited⟩ = some ⟨parts, .broken⟩ := by
      simp only [bodyOf?, fits, decide_false, Bool.and_false, Bool.false_eq_true, if_false]
    refine .inr ⟨Nat.lt_of_not_le fits,
      connection.behind limit passes opening ⟨parts, .error .awaited⟩, rfl, ?_⟩
    rw [stops]

/-- What arrives of the body of a POST that declares its length, and of what follows it:
nothing is heard as long as more of the body is to come that may fit the limit. -/
theorem Connection.hearOpening_of_sized {body rest later : Bytes}
    (post : opening.head.method = "POST") (framed : opening.framing = .sized body.length)
    (same : input ++ rest = body ++ later) :
    (connection.hearOpening limit passes opening input =
        ({ connection with keeping := connection.keeping.begin }, none) ∧ rest ≠ []) ∨
      ∃ after taken, connection.hearOpening limit passes opening input =
          (after, some (.request opening taken)) ∧
        HeardOf limit body taken ∧ (after.isOpen = false ∨ after.unread ++ rest = later) := by
  by_cases short : input.length < body.length
  · obtain ⟨missing, rfl⟩ : input <+: body :=
      List.prefix_of_prefix_length_le ⟨rest, same⟩ (List.prefix_append body later)
        (Nat.le_of_lt short)
    rw [List.append_assoc] at same
    obtain rfl := List.append_cancel_left same
    obtain ⟨parts, arrives, taken⟩ := Framing.arrival_of_short short
    rw [← framed] at arrives
    rcases hearOpening_of_awaited post arrives with ⟨_, silent⟩ | ⟨large, after, closed, heard⟩
    · refine .inl ⟨silent, ?_⟩
      rintro nothing
      obtain ⟨rfl, _⟩ := List.append_eq_nil_iff.1 nothing
      simp at short
    · rw [taken] at large
      exact .inr ⟨after, _, heard, .cut (Nat.lt_trans large short), .inl closed⟩
  · obtain ⟨begun, rfl⟩ : body <+: input :=
      List.prefix_of_prefix_length_le ⟨later, same.symm⟩ (List.prefix_append input rest)
        (Nat.le_of_not_lt short)
    rw [List.append_assoc] at same
    obtain rfl := List.append_cancel_left same
    obtain ⟨parts, arrives, taken⟩ := Framing.arrival_of_whole body begun
    rw [← framed] at arrives
    obtain ⟨after, heard, ends⟩ := hearOpening_of_whole arrives
    refine .inr ⟨after, _, heard, .whole taken, ends.imp_right ?_⟩
    rintro rfl
    rfl

end Opening

namespace Posts

variable {body octets later : Bytes} {opening : Opening} {limit : Nat} {connection : Connection}

/-- What an open connection makes of the front of a posted body and of what follows it: it
waits for more, or it hears the request, and what follows is still to be heard. -/
theorem hear (posts : Posts body octets opening) (isOpen : connection.isOpen = true)
    {arrived rest : Bytes} (passes : Bool)
    (parts : connection.unread ++ arrived ++ rest = octets ++ later) :
    (∃ waiting : Connection, connection.hear limit (.arrive arrived passes) = (waiting, none) ∧
        waiting.isOpen = true ∧ waiting.unread = connection.unread ++ arrived ∧ rest ≠ []) ∨
      ∃ after taken, connection.hear limit (.arrive arrived passes) =
          (after, some (.request (connection.agreed opening) taken)) ∧
        HeardOf limit body taken ∧ (after.isOpen = false ∨ after.unread ++ rest = later) := by
  have framed := posts.declared.1
  obtain ⟨block, opens, post, _, _, _, _⟩ := posts
  have blockAll := Line.block?_append block later
  cases found : Line.block? (connection.unread ++ arrived) with
  | none =>
    refine .inl ⟨{ connection with unread := connection.unread ++ arrived }, ?_, isOpen, rfl, ?_⟩
    · simp [Connection.hear, Connection.receive, Connection.pending?, isOpen, found]
    · rintro rfl
      rw [List.append_nil] at parts
      rw [parts, blockAll] at found
      cases found
  | some front =>
    obtain ⟨lines, remaining⟩ := front
    have whole := Line.block?_append found rest
    rw [parts, blockAll] at whole
    obtain ⟨rfl, same⟩ := Prod.mk.inj (Option.some.inj whole)
    have hears : connection.hear limit (.arrive arrived passes) =
        Connection.hearOpening { connection with unread := connection.unread ++ arrived } limit
          passes (connection.agreed opening) remaining := by
      simp [Connection.hear, Connection.receive, Connection.pending?, Connection.agreed, Except.map,
        isOpen, found, opens]
    rw [hears]
    rcases @Connection.hearOpening_of_sized limit
      { connection with unread := connection.unread ++ arrived } passes (connection.agreed opening)
      remaining body rest later post framed same.symm with ⟨silent, more⟩ | heard
    · exact .inl ⟨_, silent, isOpen, rfl, more⟩
    · exact .inr heard

/-- A posted body is heard as one request, in whichever pieces it arrives and whatever happens
then, and nothing else is heard if nothing follows it and nothing happens. -/
theorem heard (posts : Posts body octets opening) {pieces : Pieces} {ends : List Turn}
    (isOpen : connection.isOpen = true) (arrived : pieces ≠ [])
    (parts : connection.unread ++ pieces.octets = octets ++ later) :
    ∃ keepsOpen taken others, connection.heard limit (pieces.turns ++ ends) =
        .request { opening with keepsOpen } taken :: others ∧
      HeardOf limit body taken ∧ (later = [] → ends = [] → others = []) := by
  -- As long as nothing is heard, what has arrived is pending and something is to come.
  induction pieces generalizing connection with
  | nil => exact absurd rfl arrived
  | cons piece pieces ih =>
    obtain ⟨front, passes⟩ := piece
    have split : connection.unread ++ front ++ Pieces.octets pieces = octets ++ later := by
      rw [← parts, List.append_assoc]
      rfl
    change ∃ keepsOpen taken others, connection.heard limit
      (.arrive front passes :: (Pieces.turns pieces ++ ends)) = _ ∧ _
    rw [Connection.heard_cons]
    rcases posts.hear isOpen passes split with ⟨waiting, silent, waits, pending, more⟩ |
      ⟨after, taken, heard, heardOf, goesOn⟩
    · have unfinished : pieces ≠ [] := by
        rintro rfl
        exact more rfl
      rw [silent]
      exact ih waits unfinished (by rw [pending, split])
    · rw [heard]
      refine ⟨_, taken, after.heard limit (Pieces.turns pieces ++ ends), rfl, heardOf, ?_⟩
      rintro rfl rfl
      rw [List.append_nil]
      rcases goesOn with closed | nothing
      · exact Connection.heard_of_closed closed
      · exact Connection.heard_of_nothing nothing

end Posts

/-! ## Answering a posted body -/

/-- A client receives a response: its status, its two header fields and its body. -/
structure Answer.Carries (answer : Answer) (response : Response) : Prop where
  status : answer.reply.status = response.status
  contentType : answer.field? Fields.contentType = response.field? Fields.contentType
  contentLength : answer.field? Fields.contentLength = response.field? Fields.contentLength
  body : answer.body = response.body

namespace Posts

variable {body octets : Bytes} {opening : Opening} {responder : Responder} {taken : Body}

theorem declaredLength_post (posts : Posts body octets opening) :
    (Request.post body).declaredLength = .ok body.length := by
  obtain ⟨_, _, _, _, _, _, declares⟩ := posts
  have small := (denotes_of_length? declares.2).2.2
  exact Request.declaredLength_eq_ok_iff.2 (Request.declares_post small)

/-- What is heard of a posted body gets the reply that the body gets at hand. -/
theorem handle_eq (posts : Posts body octets opening)
    (heardOf : HeardOf responder.bodyLimit body taken) :
    (responder.handle opening.head taken).1 =
      (Reply.ofResponse (responder.answer (.post body)).1).1 := by
  have declared := posts.declaredLength_post
  cases heardOf with
  | @whole parts same =>
    have post : (opening.head.request body).method = .post := Method.ofToken_eq_post.2 posts.post
    have selects : responder.select (opening.head.request body) =
        responder.select (.post body) :=
      Responder.select_congr ((posts.declared.2 body).trans declared.symm) rfl
    rw [Responder.handle_complete, same, Responder.response_congr post rfl selects]
  | @cut parts large =>
    have unserved : ¬ ∃ stub, responder.Serves opening.head ⟨parts, .broken⟩ stub := by
      rintro ⟨stub, serves⟩
      cases (Responder.serves_iff.1 serves).2.1
    obtain ⟨_, _, handled⟩ := Responder.handle_of_unserved posts.post unserved
    have refused : responder.select (.post body) =
        .error (.bodyTooLarge body.length responder.bodyLimit) :=
      Responder.select_of_decides
        (.bodyTooLarge (Request.declaredLength_eq_ok_iff.1 declared) large)
    rw [handled, Responder.answer_of_error rfl refused, Response.invalidRequest,
      Reply.ofResponse_text]

/-- The answer to what is heard of a posted body carries the response to the body, whether
the connection stays open or not. -/
theorem carries (posts : Posts body octets opening)
    (heardOf : HeardOf responder.bodyLimit body taken) (keepsOpen : Bool) :
    (responder.reply (.request { opening with keepsOpen } taken)).1.Carries
      (responder.answer (.post body)).1 := by
  obtain ⟨status, text, response⟩ := responder.exists_text (.post body)
  have handled := posts.handle_eq heardOf
  rw [response, Reply.ofResponse_text] at handled
  have reply : (responder.reply (.request { opening with keepsOpen } taken)).1.reply =
      .plain status text := handled
  rw [response]
  refine ⟨?_, ?_, ?_, ?_⟩
  · rw [reply]
    rfl
  · rw [Answer.field?, reply, Reply.first?_contentType_plain, Response.field?_contentType_text,
      Option.bind_some, Utf8.decode?_eq_some_iff]
  · rw [Answer.field?, reply, Reply.first?_contentLength_plain,
      Response.field?_contentLength_text, Option.bind_some, Utf8.decode?_eq_some_iff]
  · have notHead : opening.head.method ≠ "HEAD" := by
      rw [posts.post]
      decide
    simp only [Responder.reply, if_neg notHead, handled]
    rfl

end Posts

/-! ## Posting to a server -/

namespace Server

variable {responder : Responder} {server before after : Server} {link : Link} {index : Nat}
  {earlier later : List ServerStep} {body octets behind : Bytes} {opening : Opening}

end Server

end Replay
