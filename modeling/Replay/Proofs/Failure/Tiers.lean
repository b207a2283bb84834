import Replay.Proofs.Catalogue.Agreement
import Replay.Proofs.Server.Intake
import Replay.Proofs.Settings
import Replay.Startup

/-!
# Two tiers of failures

A failure concerns one request, or it keeps the server from starting; the two are told apart
by what kind of failure it is. This is compared with where failures come from: what is done
for a request fails with nothing but failures of the one tier, what is done before the server
serves with nothing but those of the other, and no kind stands in its tier in vain.
-/

namespace Replay

open Json Json.Grammar

/-! ## What is done for a request -/

/-- A body is not received because it is longer than the limit, or because it breaks off. -/
theorem Request.receive_error_cases {limit : Nat} {head : Wire.Head} {body : Body}
    {failure : Failure} (failed : receive limit head body = .error failure) :
    (∃ size, failure = .bodyTooLarge size limit) ∨ ∃ text, failure = .transport text := by
  unfold receive at failed
  split at failed
  · split at failed
    · cases failed
    · cases failed
      exact .inl ⟨_, rfl⟩
    · cases failed
      exact .inr ⟨_, rfl⟩
  · cases failed

/-! ## What is done before the server serves -/

/-- What a machine cannot give is a failure of the operating system. -/
theorem Failure.system_of_mapError {α : Type} {told : Except String α} {failure : Failure}
    (failed : told.mapError Failure.system = .error failure) :
    ∃ text, failure = .system text := by
  cases told with
  | ok given => cases failed
  | error text =>
    cases failed
    exact ⟨text, rfl⟩

/-! ## The two tiers -/

namespace Failure

/-- The failures of what is done for a request: reading its body, selecting a stub, and
reading the identifier for that. -/
inductive MetByRequest : Failure → Prop where
  | receiving {limit : Nat} {head : Wire.Head} {body : Body} {failure : Failure}
      (failed : Request.receive limit head body = .error failure) : MetByRequest failure
  | selecting {responder : Responder} {request : Request} {failure : Failure}
      (failed : responder.select request = .error failure) : MetByRequest failure
  | identifying {body : Bytes} {failure : Failure}
      (failed : readIdentifier body = .error failure) : MetByRequest failure

/-- The failures of what is done before the server serves: loading a document that is at
hand or arrives, with its entries in any order, making settings, listening, and finding the
address at which it listens. -/
inductive MetAtStart : Failure → Prop where
  | loading {document : Bytes} {failure : Failure}
      (failed : Catalogue.load document = .error failure) : MetAtStart failure
  | loadingText {document : String} {failure : Failure}
      (failed : Catalogue.loadText document = .error failure) : MetAtStart failure
  | receiving {order : Arrangement} {delivery : Delivery} {failure : Failure}
      (failed : Catalogue.receiveIn order delivery = .error failure) : MetAtStart failure
  | collecting {entries : Drafts} {failure : Failure}
      (failed : Catalogue.ofEntries entries = .error failure) : MetAtStart failure
  | reading {processors : Nat} {lookUp : String → Option String} {failure : Failure}
      (failed : Settings.read processors lookUp = .error failure) : MetAtStart failure
  | readingEnvironment {processors : Nat} {environment : String → Option Bytes}
      {failure : Failure}
      (failed : Settings.ofEnvironment processors environment = .error failure) :
      MetAtStart failure
  | listening {Socket : Type} {machine : Machine Id Socket} {settings : Settings}
      {failure : Failure} (failed : machine.listen settings = .error failure) :
      MetAtStart failure
  | locating {Socket : Type} {machine : Machine Id Socket} {socket : Socket}
      {failure : Failure} (failed : machine.localAddress socket = .error failure) :
      MetAtStart failure

theorem MetByRequest.concernsRequest {failure : Failure} (met : MetByRequest failure) :
    failure.concernsRequest = true := by
  cases met with
  | receiving failed =>
    obtain ⟨_, rfl⟩ | ⟨_, rfl⟩ := Request.receive_error_cases failed <;> rfl
  | selecting failed => cases Responder.select_eq_iff.1 failed <;> rfl
  | identifying failed =>
    obtain ⟨_, rfl⟩ | rfl := readIdentifier_error_cases failed <;> rfl

theorem MetAtStart.not_concernsRequest {failure : Failure} (met : MetAtStart failure) :
    failure.concernsRequest = false := by
  cases met with
  | loading failed | loadingText failed | receiving failed =>
    obtain ⟨_, rfl⟩ | ⟨_, _, rfl⟩ := Catalogue.ofParsedIn_error_cases failed <;> rfl
  | collecting failed =>
    obtain ⟨_, _, rfl⟩ := Catalogue.ofEntries_error_cases failed
    rfl
  | reading failed | readingEnvironment failed =>
    obtain ⟨_, rfl⟩ := Settings.read_error_cases failed
    rfl
  | listening failed | locating failed =>
    obtain ⟨_, rfl⟩ := Failure.system_of_mapError failed
    rfl

/-- Every kind of failure is met: those that concern a request by some request, and the
others by some start. -/
theorem exists_met (failure : Failure) :
    ∃ met, met.label = failure.label ∧
      if failure.concernsRequest then MetByRequest met else MetAtStart met := by
  cases failure with
  | document _ =>
    have empty : Catalogue.load [] = .error (.document ⟨.endInValue, some ⟨1, 0⟩⟩) := rfl
    exact ⟨.document ⟨.endInValue, some ⟨1, 0⟩⟩, rfl, .loading empty⟩
  | statusRefused _ _ =>
    have bodiless : Catalogue.ofEntries [("", ⟨204, ""⟩)] = .error (.statusRefused "" 204) := rfl
    exact ⟨.statusRefused "" 204, rfl, .collecting bodiless⟩
  | portInvalid _ =>
    have empty : Settings.read 1 (fun _ => some "") = .error (.portInvalid "") := rfl
    exact ⟨.portInvalid "", rfl, .reading empty⟩
  | system text =>
    let machine : Machine Id Unit :=
      ⟨1, fun _ => none, fun _ => .ok (), fun _ => .error text, fun _ => .ok ()⟩
    have busy : machine.listen (Settings.standard 1) = .error (.system text) := rfl
    exact ⟨.system text, rfl, .listening busy⟩
  | lengthMissing =>
    have bare : (⟨.empty, 0⟩ : Responder).select (.start .post "/") = .error .lengthMissing := rfl
    exact ⟨.lengthMissing, rfl, .selecting bare⟩
  | lengthInvalid _ =>
    have worded : (⟨.empty, 0⟩ : Responder).select
        ((Request.start .post "/").withField Fields.contentLength "") =
          .error (.lengthInvalid "") := rfl
    exact ⟨.lengthInvalid "", rfl, .selecting worded⟩
  | lengthMismatch _ _ =>
    have longer : (⟨.empty, 0⟩ : Responder).select ((Request.post []).withBody [0]) =
        .error (.lengthMismatch 0 1) := rfl
    exact ⟨.lengthMismatch 0 1, rfl, .selecting longer⟩
  | bodyTooLarge _ _ =>
    have large : (⟨.empty, 0⟩ : Responder).select (.post [0]) = .error (.bodyTooLarge 1 0) := rfl
    exact ⟨.bodyTooLarge 1 0, rfl, .selecting large⟩
  | bodyMalformed _ =>
    have empty : readIdentifier [] = .error (.bodyMalformed ⟨.endInValue, some ⟨1, 0⟩⟩) := rfl
    exact ⟨.bodyMalformed ⟨.endInValue, some ⟨1, 0⟩⟩, rfl, .identifying empty⟩
  | identifierMissing =>
    have zero : Document (.scalar (.number (.natural 0))) [0x30] :=
      .whole gap_nil (nested_natural .zero rfl (by decide)) gap_nil
    have nameless : ¬ ∃ identifier, Names identifier (.scalar (.number (.natural 0))) := by
      rintro ⟨_, _, same, _⟩
      cases same
    exact ⟨.identifierMissing, rfl, .identifying (readIdentifier_of_nameless zero nameless)⟩
  | identifierUnknown _ =>
    let body := Utf8.encode "\x7b\"id\":\"\"\x7d"
    have key : Quoted "" _ := .of_plain (by decide)
    have named : Document (.object [("id", .scalar (.text ""))]) body :=
      document_of_member (by decide) (nested_text key)
    have names : Names "" (.object [("id", .scalar (.text ""))]) := ⟨_, rfl, [], [], rfl, by simp⟩
    have declares : (Request.post body).Declares body.length := Request.declares_post (by decide)
    have unknown : (⟨.empty, body.length⟩ : Responder).select (.post body) =
        .error (.identifierUnknown "") :=
      Responder.select_of_decides
        (.identifierUnknown ⟨declares, Nat.le_refl body.length⟩ named names rfl)
    exact ⟨.identifierUnknown "", rfl, .selecting unknown⟩
  | transport _ =>
    have broken : Request.receive 0 ⟨"POST", "/", .empty⟩ ⟨[], .broken⟩ =
        .error (.transport brokenBody) := rfl
    exact ⟨.transport brokenBody, rfl, .receiving broken⟩

/-- What makes a POST fail is met by the request. -/
theorem metByRequest_of_fails {responder : Responder} {head : Wire.Head} {body : Body}
    {failure : Failure} (fails : responder.Fails head body failure) : MetByRequest failure := by
  cases fails with
  | reading _ failed => exact .receiving failed
  | selecting _ _ refused => exact .selecting refused

/-- What keeps the server from starting is met at one of its stages, unless the machine
cannot start the workers. -/
theorem metAtStart_of_startUp {Socket : Type} {order : Arrangement} {document : Delivery}
    {machine : Machine Id Socket} {failed : StartupFailure} {failure : Failure}
    (stopped : startUp order document machine = .error failed)
    (fails : failed.failure? = some failure) : MetAtStart failure := by
  rw [startUp_eq] at stopped
  split at stopped
  · next refused =>
    cases stopped
    cases fails
    exact .receiving refused
  split at stopped
  · next refused =>
    cases stopped
    cases fails
    exact .readingEnvironment refused
  split at stopped
  · cases stopped
    cases fails
  split at stopped
  · next refused =>
    cases stopped
    cases fails
    exact .listening refused
  split at stopped
  · next refused =>
    cases stopped
    cases fails
    exact .locating refused
  · cases stopped

/-- The two tiers of failures are sound and exact. Whatever is met by a request concerns a
request, and whatever is met at the start does not; and each kind of failure is met in its
tier. So a POST never fails for something that would keep the server from starting, and a
start never for something that would be taken for the fault of a request. -/
theorem tiers_exact :
    (∀ failure, MetByRequest failure → failure.concernsRequest = true) ∧
    (∀ failure, MetAtStart failure → failure.concernsRequest = false) ∧
    (∀ failure : Failure, ∃ met, met.label = failure.label ∧
      if failure.concernsRequest then MetByRequest met else MetAtStart met) ∧
    (∀ (responder : Responder) head body failure, responder.Fails head body failure →
      failure.concernsRequest = true) ∧
    ∀ (Socket : Type) order document (machine : Machine Id Socket) failed failure,
      startUp order document machine = .error failed → failed.failure? = some failure →
        failure.concernsRequest = false := by
  refine ⟨fun _ met => met.concernsRequest, fun _ met => met.not_concernsRequest, exists_met,
    ?_, ?_⟩
  · intro responder head body failure fails
    exact (metByRequest_of_fails fails).concernsRequest
  · intro Socket order document machine failed failure stopped fails
    exact (metAtStart_of_startUp stopped fails).not_concernsRequest

/-- A body that breaks off behind more octets than allowed, and a source that fails at once. -/
theorem tiers_exact_of_broken :
    let head : Wire.Head := ⟨"POST", "/", .empty⟩
    let responder : Responder := ⟨.empty, 1⟩
    let delivery : Delivery := ⟨[], .failed "read failed"⟩
    let refusal : Failure := .document ⟨.sourceFailed "read failed", none⟩
    let machine : Machine Id Unit :=
      ⟨1, fun _ => none, fun _ => .ok (), fun _ => .ok (), fun _ => .ok ()⟩
    (Request.receive 1 head ⟨[[0, 0]], .broken⟩ = .error (.bodyTooLarge 2 1) ∧
      (bodyTooLarge 2 1).concernsRequest = true) ∧
    (responder.Fails head ⟨[[0, 0]], .broken⟩ (.bodyTooLarge 2 1) ∧
      (bodyTooLarge 2 1).concernsRequest = true) ∧
    (Catalogue.receive delivery = .error refusal ∧ refusal.concernsRequest = false) ∧
    startUp .asListed delivery machine = .error (.document refusal) ∧
      refusal.concernsRequest = false := by
  intro head responder delivery refusal machine
  obtain ⟨request, start, _, fails, starts⟩ := tiers_exact
  have tooLarge : Request.receive 1 head ⟨[[0, 0]], .broken⟩ = .error (.bodyTooLarge 2 1) := rfl
  have reading : responder.Fails head ⟨[[0, 0]], .broken⟩ (.bodyTooLarge 2 1) :=
    .reading rfl tooLarge
  have refused : Catalogue.receiveIn .asListed delivery = .error refusal := by
    rw [Catalogue.receiveIn, Drafts.receive_eq]
    rfl
  have stopped : startUp .asListed delivery machine = .error (.document refusal) := by
    rw [startUp_eq, refused]
  exact ⟨⟨tooLarge, request _ (.receiving tooLarge)⟩, ⟨reading, fails _ _ _ _ reading⟩,
    ⟨refused, start _ (.receiving refused)⟩, stopped, starts _ _ _ _ _ _ stopped rfl⟩

end Failure

end Replay
