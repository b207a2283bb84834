import Replay.Proofs.Responder.Decision
import Replay.Proofs.Wire.Reply

/-!
# Posted bodies

A body that is posted declares its own length, and fields that are added behind declare
nothing: the first field counts. So nothing is wrong with the length, except that it may be
above the limit. Below, what is selected follows from the identifier that the body names,
and from the catalogue. Lengths are written so that they are read back.
-/

namespace Replay

/-! ## Fields that are added -/

/-- What stands first under a name still does so when fields are added. -/
theorem FirstNamed.append {name value : String} {fields : Fields}
    (first : FirstNamed name value fields) (added : Fields) :
    FirstNamed name value (fields ++ added) := by
  obtain ⟨before, key, after, rfl, named, others⟩ := first
  exact ⟨before, key, after ++ added, by simp, named, others⟩

namespace Request

theorem withFields_eq (request : Request) (fields : Fields) :
    request.withFields fields = { request with fields := request.fields ++ fields } := by
  induction fields generalizing request with
  | nil => simp [withFields]
  | cons field fields ih =>
    have stepped : request.withFields (field :: fields) =
        (request.withField field.1 field.2).withFields fields := rfl
    rw [stepped, ih]
    simp [withField]

/-- A declared length is not changed by fields that are added. -/
theorem Declares.withFields {request : Request} {length : Nat}
    (declares : request.Declares length) (fields : Fields) :
    (request.withFields fields).Declares length := by
  obtain ⟨text, first, denotes, small⟩ := declares
  rw [withFields_eq]
  exact ⟨text, first.append fields, denotes, small⟩

end Request

/-! ## What a body selects -/

/-- What a catalogue holds for what was read from a body. -/
inductive Catalogue.Finds (catalogue : Catalogue) :
    Except Failure String → Except Failure Stub → Prop where
  | unread {failure : Failure} : Finds catalogue (.error failure) (.error failure)
  | unknown {identifier : String} (unknown : catalogue.resolve? identifier = none) :
      Finds catalogue (.ok identifier) (.error (.identifierUnknown identifier))
  | known {identifier : String} {stub : Stub}
      (known : catalogue.resolve? identifier = some stub) :
      Finds catalogue (.ok identifier) (.ok stub)

/-- A catalogue holds one thing only. -/
theorem Catalogue.Finds.unique {catalogue : Catalogue} {read : Except Failure String}
    {outcome other : Except Failure Stub} (finds : catalogue.Finds read outcome)
    (findsOther : catalogue.Finds read other) : outcome = other := by
  cases finds with
  | unread =>
    cases findsOther
    rfl
  | unknown unknown =>
    cases findsOther with
    | unknown _ => rfl
    | known known => cases unknown.symm.trans known
  | known known =>
    cases findsOther with
    | unknown unknown => cases known.symm.trans unknown
    | known knownOther => rw [Option.some.inj (known.symm.trans knownOther)]

namespace Responder

variable {responder : Responder} {body : Bytes}

theorem finds_lookUp (responder : Responder) (body : Bytes) :
    responder.catalogue.Finds (readIdentifier body) (responder.lookUp body) := by
  unfold lookUp
  cases readIdentifier body with
  | error failure => exact .unread
  | ok identifier =>
    dsimp only
    cases found : responder.catalogue.resolve? identifier with
    | none => exact .unknown found
    | some stub => exact .known found

theorem lookUp_eq_iff {outcome : Except Failure Stub} :
    responder.lookUp body = outcome ↔ responder.catalogue.Finds (readIdentifier body) outcome := by
  constructor
  · rintro rfl
    exact finds_lookUp responder body
  · exact (finds_lookUp responder body).unique

/-- A body is refused for what it says: it is no document, names no identifier or an unknown
one. -/
theorem lookUp_error_cases {failure : Failure} (refused : responder.lookUp body = .error failure) :
    (∃ error, failure = .bodyMalformed error) ∨ failure = .identifierMissing ∨
      ∃ identifier, failure = .identifierUnknown identifier := by
  have finds := lookUp_eq_iff.1 refused
  generalize read : readIdentifier body = found at finds
  cases finds with
  | unread =>
    rcases readIdentifier_error_cases read with malformed | missing
    · exact .inl malformed
    · exact .inr (.inl missing)
  | unknown _ => exact .inr (.inr ⟨_, rfl⟩)

/-- What a posted body selects, whatever fields are added to the post. -/
theorem select_post (small : body.length < Request.lengthBound) (fields : Fields) :
    responder.select ((Request.post body).withFields fields) =
      if responder.bodyLimit < body.length then
        .error (.bodyTooLarge body.length responder.bodyLimit)
      else responder.lookUp body := by
  have declares := (Request.declares_post small).withFields fields
  have posted : ((Request.post body).withFields fields).body = body := by
    rw [Request.withFields_eq]
    rfl
  by_cases large : responder.bodyLimit < body.length
  · rw [if_pos large, select_of_decides (.bodyTooLarge declares large)]
  · have admits : responder.Admits ((Request.post body).withFields fields) := by
      rw [Admits, posted]
      exact ⟨declares, Nat.not_lt.1 large⟩
    rw [if_neg large, select_of_admits admits, posted]

end Responder

/-- Posting a body and judging it again comes back to the body. Whatever fields are added
behind, among them others that declare a length, the length is neither missing nor invalid
nor another one than that of the body; the body is too large exactly if it is longer than the
limit, and then its length is what is reported; else the catalogue decides with what is read
from the body. In the same way the length that a plain response declares is read back as
that of its body. -/
theorem Request.post_round_trip {body : Bytes} (small : body.length < 2 ^ 64) :
    (∀ (responder : Responder) (fields : Fields),
      let outcome := responder.select ((Request.post body).withFields fields)
      (outcome ≠ .error .lengthMissing ∧ (∀ text, outcome ≠ .error (.lengthInvalid text)) ∧
        ∀ declared actual, outcome ≠ .error (.lengthMismatch declared actual)) ∧
      (∀ size limit, outcome = .error (.bodyTooLarge size limit) ↔
        responder.bodyLimit < body.length ∧ size = body.length ∧ limit = responder.bodyLimit) ∧
      (body.length ≤ responder.bodyLimit → ∀ result,
        outcome = result ↔ responder.catalogue.Finds (readIdentifier body) result)) ∧
    ∀ status, ∃ text, (Response.text status body).field? "content-length" = some text ∧
      Decimal.readTrimmedBelow? Request.lengthBound text = some body.length ∧
      Decimal.readBelow? Request.lengthBound text.toList = some body.length := by
  constructor
  · intro responder fields outcome
    have selected : outcome = _ := Responder.select_post small fields
    by_cases large : responder.bodyLimit < body.length
    · rw [if_pos large] at selected
      simp [selected, large, eq_comm, Nat.not_le.2 large]
    · rw [if_neg large] at selected
      have refused : ∀ failure, outcome = .error failure →
          (∃ error, failure = .bodyMalformed error) ∨ failure = .identifierMissing ∨
            ∃ identifier, failure = .identifierUnknown identifier :=
        fun failure same => Responder.lookUp_error_cases (selected.symm.trans same)
      refine ⟨⟨?_, ?_, ?_⟩, ?_, fun _ result => by rw [selected, Responder.lookUp_eq_iff]⟩
      · intro same
        simpa using refused _ same
      · intro text same
        simpa using refused _ same
      · intro declared actual same
        simpa using refused _ same
      · intro size limit
        refine ⟨fun same => ?_, fun ⟨exceeds, _⟩ => absurd exceeds large⟩
        simpa using refused _ same
  · intro status
    exact ⟨_, Response.field?_contentLength_text status body, Decimal.read_write small⟩

/-- A body of ten octets, with two other lengths behind its own. -/
theorem Request.post_round_trip_of_repeated :
    let body := Utf8.encode "\x7b\"id\":\"k\"\x7d"
    let request := (Request.post body).withFields [("Content-Length", "0"), ("content-length", "k")]
    body.length < 2 ^ 64 ∧
    (⟨.empty, 9⟩ : Responder).select request = .error (.bodyTooLarge 10 9) ∧
    (⟨.empty, 10⟩ : Responder).select request = .error (.identifierUnknown "k") ∧
    ∃ text, (Response.text .ok body).field? "content-length" = some text ∧
      Decimal.readTrimmedBelow? Request.lengthBound text = some 10 ∧
      Decimal.readBelow? Request.lengthBound text.toList = some 10 := by
  intro body request
  have small : body.length < 2 ^ 64 := by decide
  obtain ⟨selects, declares⟩ := Request.post_round_trip small
  obtain ⟨_, large, _⟩ := selects ⟨.empty, 9⟩ [("Content-Length", "0"), ("content-length", "k")]
  obtain ⟨_, _, fits⟩ := selects ⟨.empty, 10⟩ [("Content-Length", "0"), ("content-length", "k")]
  have key : Json.Grammar.Quoted "k" _ := .of_plain (by decide)
  have named : Json.Grammar.Document (.object [("id", .scalar (.text "k"))]) body :=
    Json.document_of_member (by decide) (Json.nested_text key)
  have read : readIdentifier body = .ok "k" :=
    readIdentifier_of_names named ⟨_, rfl, [], [], rfl, by simp⟩
  refine ⟨small, (large 10 9).2 ⟨by decide, rfl, rfl⟩, (fits (by decide) _).2 ?_, declares .ok⟩
  rw [read]
  exact .unknown rfl

end Replay
