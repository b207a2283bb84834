import Mathlib.Data.List.Forall2
import Replay.Proofs.Server.Drain

/-!
# Conversations

What is said on a connection depends on what happens on this connection and on nothing
else. What a connection hears follows from its turns: the octets that arrive on it, the
end of what its client sends, and the signal to close. What goes out follows from what was
heard. A run of a server takes every connection through its own turns, in whatever order
those of different connections come: `Separate` holds at the start and is kept by every
step. A client that sends whole requests gets, in their order, the replies to those
requests up to the first one behind which the connection closes.
-/

namespace Replay

open Wire

/-! ## What goes out -/

/-- What an answer says of the connection: each version leaves its usual way unsaid. -/
inductive Announced : Version → Bool → Option String → Prop where
  | stays : Announced .oneOne true none
  | closes : Announced .oneOne false (some "close")
  | staysOlder : Announced .oneZero true (some "keep-alive")
  | closesOlder : Announced .oneZero false none

/-- The status by which an opening is refused. -/
inductive RefusedWith : OpeningRefusal → Nat → Prop where
  | malformed : RefusedWith .malformed 400
  | targetTooLong : RefusedWith .targetTooLong 414
  | fieldsTooLarge : RefusedWith .fieldsTooLarge 431

/-- What goes out for what was heard, and what is reported. A request gets the reply of the
responder in its own version, without the body if it is a HEAD request. An opening that
cannot be understood gets a reply without content, and the connection closes. -/
inductive GoesOut (responder : Responder) : Heard → Answer × List Event → Prop where
  | replied {opening : Opening} {body : Body} {reply : Reply} {events : List Event}
      {word : Option String} (handled : responder.handle opening.head body = (reply, events))
      (other : opening.head.method ≠ "HEAD")
      (announced : Announced opening.version opening.keepsOpen word) :
      GoesOut responder (.request opening body) (⟨opening.version, reply, word, reply.body⟩, events)
  | bodiless {opening : Opening} {body : Body} {reply : Reply} {events : List Event}
      {word : Option String} (handled : responder.handle opening.head body = (reply, events))
      (head : opening.head.method = "HEAD")
      (announced : Announced opening.version opening.keepsOpen word) :
      GoesOut responder (.request opening body) (⟨opening.version, reply, word, []⟩, events)
  | refused {version : Version} {refusal : OpeningRefusal} {status : Status}
      {word : Option String} (code : RefusedWith refusal status.code)
      (announced : Announced version false word) :
      GoesOut responder (.refused version refusal)
        (⟨version, ⟨status, ⟨[("content-length", [Utf8.encode "0"])]⟩, []⟩, word, []⟩, [])

/-- What goes out for a request has the reply of the responder, and no more is reported. -/
theorem GoesOut.handled {responder : Responder} {opening : Opening} {body : Body}
    {answer : Answer × List Event} (out : GoesOut responder (.request opening body) answer) :
    responder.handle opening.head body = (answer.1.reply, answer.2) := by
  cases out with
  | replied handled => exact handled
  | bodiless handled => exact handled

namespace Connection

variable {limit : Nat} {connection : Connection} {turn : Turn} {turns others : List Turn}

/-- What is heard on a connection while it takes its turns. -/
def heard (limit : Nat) : Connection → List Turn → List Heard
  | _, [] => []
  | connection, turn :: later =>
    let (after, heard) := connection.hear limit turn
    heard.toList ++ after.heard limit later

/-- A connection after its turns. -/
def afterwards (limit : Nat) (connection : Connection) (turns : List Turn) : Connection :=
  turns.foldl (fun connection turn => (connection.hear limit turn).1) connection

theorem heard_cons :
    connection.heard limit (turn :: turns) =
      (connection.hear limit turn).2.toList ++ (connection.hear limit turn).1.heard limit turns :=
  rfl

theorem heard_append :
    connection.heard limit (turns ++ others) =
      connection.heard limit turns ++ (connection.afterwards limit turns).heard limit others := by
  induction turns generalizing connection with
  | nil => rfl
  | cons turn turns ih =>
    rw [List.cons_append, heard_cons, heard_cons, ih, List.append_assoc]
    rfl

theorem heard_concat :
    connection.heard limit (turns ++ [turn]) =
      connection.heard limit turns ++
        ((connection.afterwards limit turns).hear limit turn).2.toList := by
  rw [heard_append, heard_cons, heard, List.append_nil]

theorem afterwards_concat :
    connection.afterwards limit (turns ++ [turn]) =
      ((connection.afterwards limit turns).hear limit turn).1 := by
  simp [afterwards]

theorem heard_of_closed (closed : connection.isOpen = false) :
    connection.heard limit turns = [] := by
  induction turns with
  | nil => rfl
  | cons turn turns ih =>
    have silent : connection.hear limit turn = (connection, none) := by simp [hear, closed]
    rw [heard_cons, silent]
    exact ih

end Connection

/-! ## Whole requests -/

/-- The whole body of a request is read before the request is answered, whoever sends it:
there is none, or it is that of a POST, its length is declared, and the limit allows it. -/
inductive ReadWhole (limit : Nat) (opening : Opening) : Prop where
  | bodiless (framed : opening.framing = .empty)
  | empty (framed : opening.framing = .sized 0)
  | posted {length : Nat} (framed : opening.framing = .sized length)
      (post : opening.head.method = "POST") (fits : length ≤ limit)

theorem readsToEnd_iff {limit : Nat} {opening : Opening} :
    Connection.readsToEnd limit opening = true ↔ ReadWhole limit opening := by
  unfold Connection.readsToEnd
  constructor
  · intro reads
    split at reads
    · next framed => exact .bodiless framed
    · next length framed =>
      rcases (Bool.or_eq_true _ _).mp reads with zero | posted
      · obtain rfl := eq_of_beq zero
        exact .empty framed
      · obtain ⟨post, fits⟩ := (Bool.and_eq_true _ _).mp posted
        exact .posted framed (eq_of_beq post) (of_decide_eq_true fits)
    · cases reads
  · rintro (framed | framed | ⟨framed, post, fits⟩)
    · rw [framed]
    · rw [framed]
      rfl
    · simp [framed, Head.wantsBody, post, fits]

instance (limit : Nat) : DecidablePred (ReadWhole limit) := fun _ =>
  decidable_of_iff _ readsToEnd_iff

/-- A request as a client sends it: an opening and a body. -/
structure Inquiry where
  opening : Opening
  body : Body

namespace Inquiry

variable {limit : Nat} {inquiry : Inquiry} {octets : Bytes} {passes : Bool}
  {connection : Connection}

/-- What is heard of a request as it was sent. -/
def heard (inquiry : Inquiry) : Heard :=
  .request inquiry.opening inquiry.body

/-- Octets that hold a request and nothing behind it. The body is complete, or it breaks
off in a way that no octets to come can repair. -/
inductive WrittenAs : Inquiry → Bytes → Prop where
  | complete {opening : Opening} {octets rest : Bytes} {lines parts : List Bytes}
      (block : Line.block? octets = some (lines, rest))
      (opens : Opening.ofLines lines = .ok opening)
      (arrives : opening.framing.arrival rest = ⟨parts, .ok []⟩) :
      WrittenAs ⟨opening, .complete parts⟩ octets
  | broken {opening : Opening} {octets rest : Bytes} {lines parts : List Bytes}
      (block : Line.block? octets = some (lines, rest))
      (opens : Opening.ofLines lines = .ok opening)
      (arrives : opening.framing.arrival rest = ⟨parts, .error .broken⟩) :
      WrittenAs ⟨opening, ⟨parts, .broken⟩⟩ octets

/-- The connection goes on behind a request: the client wants it to, the end of the body is
known, and what was not read of the body is passed over. -/
def GoesOn (limit : Nat) (passes : Bool) (inquiry : Inquiry) : Prop :=
  inquiry.body.ending = .complete ∧ inquiry.opening.keepsOpen = true ∧
    (ReadWhole limit inquiry.opening ∨ passes = true)

instance (limit : Nat) (passes : Bool) : DecidablePred (GoesOn limit passes) := fun _ =>
  @instDecidableAnd _ _ inferInstance inferInstance

/-- The requests up to the first one behind which the connection closes, that one
included. -/
def answered (limit : Nat) : List (Inquiry × Bool) → List Inquiry
  | [] => []
  | (inquiry, passes) :: later =>
    if inquiry.GoesOn limit passes then inquiry :: answered limit later else [inquiry]

theorem agreed_of_ne_last (stays : connection.keeping ≠ .last) (opening : Opening) :
    connection.agreed opening = opening := by
  simp [Connection.agreed, stays]

/-- A connection that stays open, and on which nothing is pending, hears a whole request as
it was sent, and then goes on with nothing pending, or is closed. -/
theorem hear_of_written (isOpen : connection.isOpen = true) (nothing : connection.unread = [])
    (stays : connection.keeping ≠ .last) (written : inquiry.WrittenAs octets) :
    connection.hear limit (.arrive octets passes) =
      (if inquiry.GoesOn limit passes then ⟨[], inquiry.opening.version, .idle, true⟩
        else ⟨[], inquiry.opening.version, connection.keeping, false⟩, some inquiry.heard) := by
  obtain ⟨unread, version, keeping, _⟩ := connection
  cases isOpen
  cases nothing
  have agrees : ∀ opening, Connection.agreed ⟨octets, version, keeping, true⟩ opening = opening :=
    agreed_of_ne_last stays
  cases written with
  | @complete opening _ rest lines parts block opens arrives =>
    simp only [Connection.hear, Bool.not_true, Bool.false_eq_true, if_false, List.nil_append,
      Connection.receive, Connection.pending?, block, opens, Except.map, agrees,
      Connection.hearOpening, arrives, Connection.bodyOf?, Connection.behind, Body.complete,
      GoesOn, true_and, Bool.and_eq_true, Bool.or_eq_true, readsToEnd_iff, Connection.closed,
      heard]
  | @broken opening _ rest lines parts block opens arrives =>
    simp only [Connection.hear, Bool.not_true, Bool.false_eq_true, if_false, List.nil_append,
      Connection.receive, Connection.pending?, block, opens, Except.map, agrees,
      Connection.hearOpening, arrives, Connection.bodyOf?, Connection.behind, GoesOn, reduceCtorEq,
      false_and, Connection.closed, heard]

/-- A whole request that arrives first is answered as it was sent. -/
theorem exchange_of_written (responder : Responder) (written : inquiry.WrittenAs octets) :
    (Connection.start.exchange responder (.arrive octets passes)).2 =
      some (responder.reply inquiry.heard) := by
  rw [Connection.exchange, hear_of_written rfl rfl (by decide) written]
  rfl

end Inquiry

/-! ## Many connections -/

/-- The turn of the connection of a number that a step is, if it is one. -/
def ServerStep.turnOn? (index : Nat) : ServerStep → Option Turn
  | .arrive other octets passes => if other = index then some (.arrive octets passes) else none
  | .hangUp other => if other = index then some .hangUp else none
  | .notice other => if other = index then some .notice else none
  | _ => none

/-- A connection has taken its turns, and has answered what it heard in them. -/
def Link.Talked (responder : Responder) (turns : List Turn) (link : Link) : Prop :=
  link.connection = Connection.start.afterwards responder.bodyLimit turns ∧
    link.answers = (Connection.start.heard responder.bodyLimit turns).map responder.reply

namespace Link

variable {responder : Responder} {turns : List Turn} {link : Link}

theorem talked_start : Link.start.Talked responder [] :=
  ⟨rfl, rfl⟩

theorem Talked.withStage (talked : link.Talked responder turns) (stage : Stage) :
    { link with stage }.Talked responder turns :=
  talked

theorem Talked.exchange (talked : link.Talked responder turns) (turn : Turn) :
    (link.exchange responder turn).Talked responder (turns ++ [turn]) := by
  obtain ⟨taken, answeredSoFar⟩ := talked
  constructor
  · rw [Connection.afterwards_concat, ← taken]
    rfl
  · rw [Connection.heard_concat, List.map_append, ← taken, ← answeredSoFar, ← Option.toList_map]
    rfl

end Link

namespace Server

variable {responder : Responder} {server next : Server} {step : ServerStep}
  {steps : List ServerStep}

/-- The turns of the connection of a number, in their order. -/
def turns (index : Nat) (steps : List ServerStep) : List Turn :=
  steps.filterMap (ServerStep.turnOn? index)

theorem turns_concat {index : Nat} :
    turns index (steps ++ [step]) = turns index steps ++ (step.turnOn? index).toList := by
  unfold turns
  rw [List.filterMap_append]
  cases taken : step.turnOn? index with
  | none => simp [taken]
  | some turn => simp [taken]

theorem turns_concat_of_none {index : Nat} (elsewhere : step.turnOn? index = none) :
    turns index (steps ++ [step]) = turns index steps := by
  rw [turns_concat, elsewhere]
  exact List.append_nil _

/-- Every connection has taken its own turns and nothing else. -/
structure Separate (responder : Responder) (steps : List ServerStep) (server : Server) :
    Prop where
  same : server.responder = responder
  unaccepted : ∀ index, server.links.length ≤ index → turns index steps = []
  talked : ∀ index (link : Link), server.links[index]? = some link →
    link.Talked responder (turns index steps)

namespace Separate

theorem start (responder : Responder) : Separate responder [] (Server.start responder) where
  same := rfl
  unaccepted _ _ := rfl
  talked _ _ listed := by cases listed

/-- A step that is no turn keeps connections separate if it leaves alone what they have heard
and answered. -/
theorem quiet (separate : Separate responder steps server)
    (idle : ∀ index, step.turnOn? index = none) (same : next.responder = server.responder)
    (grows : server.links.length ≤ next.links.length)
    (talks : ∀ index (link : Link), next.links[index]? = some link →
      link.Talked responder (turns index steps)) :
    Separate responder (steps ++ [step]) next where
  same := same.trans separate.same
  unaccepted index beyond := by
    rw [turns_concat_of_none (idle index)]
    exact separate.unaccepted index (Nat.le_trans grows beyond)
  talked index link listed := by
    rw [turns_concat_of_none (idle index)]
    exact talks index link listed

theorem accept (separate : Separate responder steps server) :
    Separate responder (steps ++ [.accept]) server.accept := by
  refine separate.quiet (fun _ => rfl) rfl (by simp [Server.accept]) ?_
  intro index link listed
  unfold Server.accept at listed
  rw [List.getElem?_append] at listed
  split at listed
  · exact separate.talked index link listed
  · next beyond =>
    -- Nothing can have happened on a connection that was not accepted yet.
    rw [separate.unaccepted index (Nat.le_of_not_lt beyond)]
    rw [List.getElem?_singleton, Option.ite_none_right_eq_some] at listed
    cases listed.2
    exact Link.talked_start

/-- A turn of one connection keeps connections separate, wherever it leads this one. -/
theorem take (separate : Separate responder steps server) {index : Nat} {link : Link}
    (listed : server.links[index]? = some link) (turn : Turn) (stage : Stage)
    (isTurn : ∀ other, step.turnOn? other = if index = other then some turn else none) :
    Separate responder (steps ++ [step])
      (server.setLink index { link.exchange server.responder turn with stage }) where
  same := separate.same
  unaccepted other beyond := by
    obtain ⟨within, _⟩ := List.getElem?_eq_some_iff.1 listed
    simp only [setLink, List.length_set] at beyond
    have apart : index ≠ other := by omega
    rw [turns_concat_of_none (by rw [isTurn, if_neg apart])]
    exact separate.unaccepted other beyond
  talked other found foundThere := by
    rw [getElem?_setLink listed] at foundThere
    rw [turns_concat, isTurn]
    split at foundThere
    · next same =>
      subst same
      cases foundThere
      rw [if_pos rfl, separate.same]
      exact ((separate.talked index link listed).exchange turn).withStage stage
    · next apart =>
      rw [if_neg apart, Option.toList_none, List.append_nil]
      exact separate.talked other found foundThere

theorem finish (separate : Separate responder steps server) {index : Nat} {link : Link}
    (listed : server.links[index]? = some link) :
    Separate responder (steps ++ [.finish index])
      { server.setLink index { link with stage := .ended } with
        tracker := server.tracker.finish } := by
  refine separate.quiet (fun _ => rfl) rfl (by simp [setLink]) ?_
  intro other found foundThere
  rw [getElem?_setLink listed] at foundThere
  split at foundThere
  · next same =>
    subst same
    cases foundThere
    exact (separate.talked index link listed).withStage .ended
  · exact separate.talked other found foundThere

/-- Every step keeps connections separate. -/
theorem move (separate : Separate responder steps server) (moves : server.Moves step next) :
    Separate responder (steps ++ [step]) next := by
  cases moves with
  | accept => exact separate.accept
  | acceptFailed | look =>
    exact separate.quiet (fun _ => rfl) rfl (Nat.le_refl _) separate.talked
  | @arrive index octets passes link listed =>
    exact separate.take listed (.arrive octets passes) link.stage fun _ => rfl
  | @hangUp index link listed => exact separate.take listed .hangUp link.stage fun _ => rfl
  | notice listed => exact separate.take listed .notice .closing fun _ => rfl
  | finish listed => exact separate.finish listed
  | stop =>
    refine separate.quiet (fun _ => rfl) rfl (by simp [Server.stop]) ?_
    intro index link listed
    simp only [Server.stop, List.getElem?_map, Option.map_eq_some_iff] at listed
    obtain ⟨before, listed, rfl⟩ := listed
    exact (separate.talked index before listed).withStage _

theorem of_run (ran : (Server.start responder).run? steps = some server) :
    Separate responder steps server :=
  Server.of_run (start responder) (fun _ _ _ _ separate moves => separate.move moves) ran

end Separate

end Server

end Replay
