import Replay.Proofs.Catalogue.Draws
import Replay.Proofs.Catalogue.Loading

/-!
# Ways to load a document

A document is at hand as octets or as a text, or it arrives in parts from a source
that does not fail. The entries read from it are handed on as a map, which leaves
open in which order they are judged. None of this decides what comes of a document:
any two outcomes agree, a refusal of the document up to the place that its message
ends with, and a refusal of a status up to the choice among several refused ones.
-/

namespace Replay

open Json.Grammar

namespace Json

/-- The end of a message, which names a place if there is one. -/
def placeText : Option Position → String
  | none => ""
  | some position =>
    " at line " ++ toString position.line ++ " column " ++ toString position.column

theorem Error.message_eq (error : Error) :
    error.message = error.cause.message ++ placeText error.position := by
  obtain ⟨cause, position⟩ := error
  cases position with
  | none => simp [Error.message, placeText]
  | some position => simp [Error.message, placeText, String.append_assoc]

/-- A fault has a place in documents of either supply, or in none. -/
theorem isSome_position (fault : Fault) (document : Bytes) :
    (fault.position .whole document).isSome = (fault.position .stream document).isSome := by
  obtain ⟨cause, mark, left⟩ := fault
  cases mark <;> rfl

end Json

namespace Drafts

/-- A document that arrives in parts is read as it is read at hand; if it is refused,
then for the same fault. -/
theorem parse_receive_cases (parts : List Bytes) :
    (∃ drafts, parse parts.flatten = .ok drafts ∧ receive ⟨parts, .finished⟩ = .ok drafts) ∨
    ∃ fault : Json.Fault, parse parts.flatten = .error (fault.error .whole parts.flatten) ∧
      receive ⟨parts, .finished⟩ = .error (fault.error .stream parts.flatten) := by
  rw [receive_eq, parse, parseStream, Delivery.octets]
  cases scan .finished parts.flatten with
  | ok drafts => exact .inl ⟨drafts, rfl, rfl⟩
  | error fault => exact .inr ⟨fault, rfl, rfl⟩

end Drafts

namespace Catalogue

variable {document : Bytes} {first second : Except Failure Catalogue}

/-- What may come of what was read from a document, with the entries in some order. -/
inductive Outcome (parsed : Except Json.Error Drafts) : Except Failure Catalogue → Prop
  | unread {error : Json.Error} (refused : parsed = .error error) :
      Outcome parsed (.error (.document error))
  | read {drafts entries : Drafts} (read : parsed = .ok drafts)
      (order : entries.Perm drafts.latest.toList) : Outcome parsed (ofEntries entries)

/-- What may come of a document, in whichever way it is loaded. -/
inductive Loads (document : Bytes) : Except Failure Catalogue → Prop
  | octets {result : Except Failure Catalogue} (outcome : Outcome (Drafts.parse document) result) :
      Loads document result
  | text {text : String} {result : Except Failure Catalogue} (same : Utf8.encode text = document)
      (outcome : Outcome (Drafts.parse (Utf8.encode text)) result) : Loads document result
  | parts {parts : List Bytes} {result : Except Failure Catalogue}
      (same : parts.flatten = document)
      (outcome : Outcome (Drafts.receive ⟨parts, .finished⟩) result) : Loads document result

/-- The last entry of an identifier has a status that cannot be replayed. -/
def Refuses (document : Bytes) (identifier : String) (status : Nat) : Prop :=
  ∃ members draft, Document (.object members) document ∧
    LastDescribes members identifier draft ∧ draft.status = status ∧ ¬ Replayable status

/-- Two outcomes of loading a document are the same as far as the document decides. -/
inductive Agree (document : Bytes) : Except Failure Catalogue → Except Failure Catalogue → Prop
  /-- Both load the same stubs under the same identifiers. -/
  | loaded {first second : Catalogue}
      (same : ∀ identifier, first.resolve? identifier = second.resolve? identifier) :
      Agree document (.ok first) (.ok second)
  /-- Both report a refused status, the same one if there is only one. -/
  | refused {identifier other : String} {status otherStatus : Nat}
      (refuses : Refuses document identifier status)
      (refusesOther : Refuses document other otherStatus)
      (alone : (∀ name code, Refuses document name code → name = identifier) →
        other = identifier ∧ otherStatus = status) :
      Agree document (.error (.statusRefused identifier status))
        (.error (.statusRefused other otherStatus))
  /-- Both refuse the document with the same text in front of a place. -/
  | unread {error other : Json.Error} (text : String) {place otherPlace : Option Json.Position}
      (message : error.message = text ++ Json.placeText place)
      (otherMessage : other.message = text ++ Json.placeText otherPlace)
      (placed : place.isSome = otherPlace.isSome) :
      Agree document (.error (.document error)) (.error (.document other))

theorem outcome_ofParsedIn (order : Arrangement) (parsed : Except Json.Error Drafts) :
    Outcome parsed (ofParsedIn order parsed) := by
  cases parsed with
  | error error => exact .unread rfl
  | ok drafts => exact .read rfl (order.perm _)

theorem outcome_ofParsed (parsed : Except Json.Error Drafts) : Outcome parsed (ofParsed parsed) :=
  outcome_ofParsedIn .asListed parsed

/-- In whatever order entries are taken, they fail for a status. -/
theorem ofEntries_error_cases {entries : Drafts} {failure : Failure}
    (refused : ofEntries entries = .error failure) :
    ∃ identifier status, failure = .statusRefused identifier status := by
  rcases foldlM_add_cases entries empty with ⟨_, catalogue, added⟩ | ⟨entry, _, _, failed⟩
  · rw [ofEntries, added] at refused
    cases refused
  · rw [ofEntries, failed] at refused
    cases refused
    exact ⟨_, _, rfl⟩

/-- A document fails to load for what is read from it, or for a status. -/
theorem ofParsedIn_error_cases {order : Arrangement} {parsed : Except Json.Error Drafts}
    {failure : Failure} (refused : ofParsedIn order parsed = .error failure) :
    (∃ error, failure = .document error) ∨
      ∃ identifier status, failure = .statusRefused identifier status := by
  cases parsed with
  | error error =>
    cases refused
    exact .inl ⟨error, rfl⟩
  | ok drafts => exact .inr (ofEntries_error_cases refused)

/-- Of an identifier at most one status is refused. -/
theorem Refuses.unique {identifier : String} {status other : Nat}
    (refuses : Refuses document identifier status)
    (refusesOther : Refuses document identifier other) : status = other := by
  obtain ⟨members, draft, derived, ⟨value, last, describes⟩, rfl, _⟩ := refuses
  obtain ⟨others, otherDraft, derivedOther, ⟨otherValue, lastOther, describesOther⟩, rfl, _⟩ :=
    refusesOther
  cases derived.unique derivedOther
  cases last.unique lastOther
  rw [describes.unique describesOther]

/-- What comes of the entries of a document: they load, or a refused one is reported. -/
theorem outcome_cases {drafts : Drafts} (parsed : Drafts.parse document = .ok drafts)
    {result : Except Failure Catalogue} (outcome : Outcome (.ok drafts) result) :
    ((∀ identifier draft, LastNamed identifier draft drafts → Replayable draft.status) ∧
      ∃ catalogue, result = .ok catalogue ∧
        ∀ identifier stub, catalogue.resolve? identifier = some stub ↔
          ∃ draft, LastNamed identifier draft drafts ∧ Replays stub draft) ∨
    ∃ identifier status, Refuses document identifier status ∧
      result = .error (.statusRefused identifier status) := by
  cases outcome with
  | unread refused => cases refused
  | read read order =>
    cases read
    rcases ofEntries_cases order with loads | ⟨identifier, draft, last, refused, failed⟩
    · exact .inl loads
    · obtain ⟨members, derived, all⟩ := Drafts.parse_eq_ok_iff.1 parsed
      exact .inr ⟨identifier, draft.status,
        ⟨members, draft, derived, (lastNamed_iff all).1 last, rfl, refused⟩, failed⟩

/-- What is refused is a last entry, whatever else was read. -/
theorem lastNamed_of_refuses {drafts : Drafts} (parsed : Drafts.parse document = .ok drafts)
    {identifier : String} {status : Nat} (refuses : Refuses document identifier status) :
    ∃ draft, LastNamed identifier draft drafts ∧ ¬ Replayable draft.status := by
  obtain ⟨members, draft, derived, last, rfl, refused⟩ := refuses
  obtain ⟨others, derivedOthers, all⟩ := Drafts.parse_eq_ok_iff.1 parsed
  cases derivedOthers.unique derived
  exact ⟨draft, (lastNamed_iff all).2 last, refused⟩

/-- Two outcomes of the same entries agree. -/
theorem agree_of_read {drafts : Drafts} (parsed : Drafts.parse document = .ok drafts)
    (outcome : Outcome (.ok drafts) first) (other : Outcome (.ok drafts) second) :
    Agree document first second := by
  rcases outcome_cases parsed outcome with ⟨replayable, catalogue, rfl, resolves⟩ |
    ⟨identifier, status, refuses, rfl⟩
  · rcases outcome_cases parsed other with ⟨_, otherCatalogue, rfl, resolvesOther⟩ |
      ⟨identifier, status, refuses, rfl⟩
    · refine .loaded fun identifier => Option.ext fun stub => ?_
      rw [resolves, resolvesOther]
    · obtain ⟨draft, last, refused⟩ := lastNamed_of_refuses parsed refuses
      exact absurd (replayable identifier draft last) refused
  · rcases outcome_cases parsed other with ⟨replayable, otherCatalogue, rfl, _⟩ |
      ⟨otherIdentifier, otherStatus, refusesOther, rfl⟩
    · obtain ⟨draft, last, refused⟩ := lastNamed_of_refuses parsed refuses
      exact absurd (replayable identifier draft last) refused
    · refine .refused refuses refusesOther fun alone => ?_
      obtain rfl := alone otherIdentifier otherStatus refusesOther
      exact ⟨rfl, refusesOther.unique refuses⟩

/-- Refusals of a document for one cause agree. -/
theorem agree_of_cause {error other : Json.Error} (cause : error.cause = other.cause)
    (placed : error.position.isSome = other.position.isSome) :
    Agree document (.error (.document error)) (.error (.document other)) := by
  refine .unread error.cause.message error.message_eq ?_ placed
  rw [cause]
  exact other.message_eq

/-- What was read from a document is the same in every way of loading it, or the same
fault was found. -/
theorem outcome_of_loads {result : Except Failure Catalogue} (loads : Loads document result) :
    (∃ drafts, Drafts.parse document = .ok drafts ∧ Outcome (.ok drafts) result) ∨
    ∃ fault : Json.Fault, Drafts.parse document = .error (fault.error .whole document) ∧
      ∃ supply, result = .error (.document (fault.error supply document)) := by
  have atHand : ∀ {result}, Outcome (Drafts.parse document) result →
      (∃ drafts, Drafts.parse document = .ok drafts ∧ Outcome (.ok drafts) result) ∨
      ∃ fault : Json.Fault, Drafts.parse document = .error (fault.error .whole document) ∧
        ∃ supply, result = .error (.document (fault.error supply document)) := by
    intro result outcome
    have delivered := Drafts.parse_receive_cases [document]
    rw [List.flatten_singleton] at delivered
    rcases delivered with ⟨drafts, parsed, _⟩ | ⟨fault, refused, _⟩
    · rw [parsed] at outcome
      exact .inl ⟨drafts, parsed, outcome⟩
    · rw [refused] at outcome
      cases outcome with
      | unread same =>
        cases same
        exact .inr ⟨fault, refused, .whole, rfl⟩
      | read read _ => cases read
  cases loads with
  | octets outcome => exact atHand outcome
  | text same outcome =>
    rw [same] at outcome
    exact atHand outcome
  | @parts parts _ same outcome =>
    subst same
    rcases Drafts.parse_receive_cases parts with ⟨drafts, parsed, received⟩ |
      ⟨fault, refused, received⟩
    · rw [received] at outcome
      exact .inl ⟨drafts, parsed, outcome⟩
    · rw [received] at outcome
      cases outcome with
      | unread same =>
        cases same
        exact .inr ⟨fault, refused, .stream, rfl⟩
      | read read _ => cases read

/-- Faults of one cause are placed in the same documents. -/
theorem placed_of_error {fault other : Json.Fault} {supply otherSupply : Json.Supply}
    (same : fault.error .whole document = other.error .whole document) :
    (fault.error supply document).position.isSome =
      (other.error otherSupply document).position.isSome := by
  have placed : ∀ (fault : Json.Fault) (supply : Json.Supply),
      (fault.error supply document).position.isSome =
        (fault.error .whole document).position.isSome := by
    intro fault supply
    cases supply with
    | whole => rfl
    | stream => exact (Json.isSome_position fault document).symm
  rw [placed fault, placed other, same]

/-- Whether a document is at hand as octets or as a text or arrives in parts, and in
whichever order its entries are judged, the same comes of it. -/
theorem ways_agree (document : Bytes) :
    Loads document (load document) ∧
    (∀ text, Utf8.encode text = document → Loads document (loadText text)) ∧
    (∀ parts, parts.flatten = document → Loads document (receive ⟨parts, .finished⟩)) ∧
    ∀ first second, Loads document first → Loads document second →
      Agree document first second := by
  refine ⟨.octets (outcome_ofParsed _), fun text same => .text same (outcome_ofParsed _),
    fun parts same => .parts same (outcome_ofParsed _), ?_⟩
  intro first second loads loadsOther
  rcases outcome_of_loads loads with ⟨drafts, parsed, outcome⟩ | ⟨fault, refused, supply, rfl⟩
  · rcases outcome_of_loads loadsOther with ⟨others, parsedOther, other⟩ | ⟨fault, refused, _⟩
    · rw [parsed] at parsedOther
      cases parsedOther
      exact agree_of_read parsed outcome other
    · rw [parsed] at refused
      cases refused
  · rcases outcome_of_loads loadsOther with ⟨drafts, parsed, _⟩ |
      ⟨other, refusedOther, otherSupply, rfl⟩
    · rw [parsed] at refused
      cases refused
    · rw [refused] at refusedOther
      injection refusedOther with same
      have cause : fault.cause = other.cause := congrArg Json.Error.cause same
      exact agree_of_cause cause (placed_of_error same)

end Catalogue

end Replay
