import Replay.Proofs.Json.Value
import Replay.Proofs.LastNamed
import Replay.Responder

/-!
# The identifier that a body names

Which bodies are read, and what is read from them. A body is malformed exactly if
the grammar derives no document from it; of the documents those name an identifier
that are objects whose last member `id` is a text.
-/

namespace Replay

open Json Json.Grammar

/-- A value that names an identifier. -/
def Names (identifier : String) (value : Json.Value) : Prop :=
  ∃ members, value = .object members ∧ LastNamed "id" (.scalar (.text identifier)) members

theorem Names.unique {identifier other : String} {value : Json.Value}
    (names : Names identifier value) (namesOther : Names other value) : identifier = other := by
  obtain ⟨members, rfl, last⟩ := names
  obtain ⟨_, same, lastOther⟩ := namesOther
  cases same
  have same := last.unique lastOther
  injection same with same
  injection same

theorem readIdentifier_of_malformed {body : Bytes} {error : Json.Error}
    (refused : Json.Value.parse body = .error error) :
    readIdentifier body = .error (.bodyMalformed error) := by
  simp [readIdentifier, refused]

theorem readIdentifier_of_names {body : Bytes} {value : Json.Value} {identifier : String}
    (document : Document value body) (names : Names identifier value) :
    readIdentifier body = .ok identifier := by
  obtain ⟨members, rfl, last⟩ := names
  have found := Json.Value.member?_eq_some_iff.2 last
  simp [readIdentifier, Json.Value.parse_eq_ok_iff.2 document, found]

theorem readIdentifier_of_nameless {body : Bytes} {value : Json.Value}
    (document : Document value body) (nameless : ¬ ∃ identifier, Names identifier value) :
    readIdentifier body = .error .identifierMissing := by
  unfold readIdentifier
  rw [Json.Value.parse_eq_ok_iff.2 document]
  cases value with
  | scalar scalar => rfl
  | list elements => rfl
  | object members =>
    dsimp only
    split
    · next identifier found =>
      have last := Json.Value.member?_eq_some_iff.1 found
      exact absurd ⟨identifier, members, rfl, last⟩ nameless
    · rfl

/-- A body is read as a document that names an identifier, read as a document that
names none, or not read at all. -/
theorem readIdentifier_cases (body : Bytes) :
    (∃ value identifier, Document value body ∧ Names identifier value ∧
      readIdentifier body = .ok identifier) ∨
    (∃ value, Document value body ∧ (¬ ∃ identifier, Names identifier value) ∧
      readIdentifier body = .error .identifierMissing) ∨
    ((¬ ∃ value, Document value body) ∧
      ∃ error, readIdentifier body = .error (.bodyMalformed error)) := by
  cases parsed : Json.Value.parse body with
  | error error =>
    refine .inr (.inr ⟨?_, error, readIdentifier_of_malformed parsed⟩)
    rintro ⟨value, document⟩
    rw [Json.Value.parse_eq_ok_iff.2 document] at parsed
    cases parsed
  | ok value =>
    have document := Json.Value.parse_eq_ok_iff.1 parsed
    by_cases named : ∃ identifier, Names identifier value
    · obtain ⟨identifier, names⟩ := named
      exact .inl ⟨value, identifier, document, names, readIdentifier_of_names document names⟩
    · exact .inr (.inl ⟨value, document, named, readIdentifier_of_nameless document named⟩)

theorem readIdentifier_error_cases {body : Bytes} {failure : Failure}
    (refused : readIdentifier body = .error failure) :
    (∃ error, failure = .bodyMalformed error) ∨ failure = .identifierMissing := by
  rcases readIdentifier_cases body with ⟨_, _, _, _, read⟩ | ⟨_, _, _, read⟩ | ⟨_, error, read⟩
  all_goals
    rw [refused] at read
    cases read
  · exact .inr rfl
  · exact .inl ⟨error, rfl⟩

theorem readIdentifier_eq_ok_iff {body : Bytes} {identifier : String} :
    readIdentifier body = .ok identifier ↔
      ∃ value, Document value body ∧ Names identifier value := by
  constructor
  · intro read
    rcases readIdentifier_cases body with ⟨value, other, document, names, same⟩ |
      ⟨_, _, _, same⟩ | ⟨_, _, same⟩
    · rw [read] at same
      cases same
      exact ⟨value, document, names⟩
    · rw [read] at same
      cases same
    · rw [read] at same
      cases same
  · rintro ⟨value, document, names⟩
    exact readIdentifier_of_names document names

theorem readIdentifier_missing_iff {body : Bytes} :
    readIdentifier body = .error .identifierMissing ↔
      ∃ value, Document value body ∧ ¬ ∃ identifier, Names identifier value := by
  constructor
  · intro read
    rcases readIdentifier_cases body with ⟨_, _, _, _, same⟩ | ⟨value, document, nameless, _⟩ |
      ⟨_, _, same⟩
    · rw [read] at same
      cases same
    · exact ⟨value, document, nameless⟩
    · rw [read] at same
      cases same
  · rintro ⟨value, document, nameless⟩
    exact readIdentifier_of_nameless document nameless

theorem readIdentifier_malformed_iff {body : Bytes} :
    (∃ error, readIdentifier body = .error (.bodyMalformed error)) ↔
      ¬ ∃ value, Document value body := by
  constructor
  · rintro ⟨error, read⟩
    rcases readIdentifier_cases body with ⟨_, _, _, _, same⟩ | ⟨_, _, _, same⟩ |
      ⟨underivable, _⟩
    · rw [read] at same
      cases same
    · rw [read] at same
      cases same
    · exact underivable
  · intro underivable
    rcases readIdentifier_cases body with ⟨value, _, document, _⟩ | ⟨value, document, _⟩ |
      ⟨_, malformed⟩
    · exact absurd ⟨value, document⟩ underivable
    · exact absurd ⟨value, document⟩ underivable
    · exact malformed

/-- What is accepted as a body, and what is read from it. The bodies that are not
malformed are those in the language of documents, all of them UTF-8 and each with
one value; from that value the identifier follows. -/
theorem readIdentifier_exact (body : Bytes) :
    ((∃ error, readIdentifier body = .error (.bodyMalformed error)) ↔
      ¬ (Utf8.WellFormed body ∧ ∃ value, Document value body)) ∧
    ∀ value, Document value body →
      (∀ other, Document other body → other = value) ∧
      (∀ identifier, readIdentifier body = .ok identifier ↔
        ∃ members, value = .object members ∧
          LastNamed "id" (.scalar (.text identifier)) members) ∧
      (readIdentifier body = .error .identifierMissing ↔
        ¬ ∃ members identifier, value = .object members ∧
          LastNamed "id" (.scalar (.text identifier)) members) ∧
      ((∃ identifier, readIdentifier body = .ok identifier) ∨
        readIdentifier body = .error .identifierMissing) := by
  constructor
  · refine readIdentifier_malformed_iff.trans (not_congr ?_)
    constructor
    · rintro ⟨value, document⟩
      exact ⟨document.wellFormed, value, document⟩
    · rintro ⟨_, derivable⟩
      exact derivable
  · intro value document
    refine ⟨fun other derived => derived.unique document, ?_, ?_, ?_⟩
    · intro identifier
      rw [readIdentifier_eq_ok_iff]
      constructor
      · rintro ⟨other, derived, names⟩
        rwa [derived.unique document] at names
      · intro names
        exact ⟨value, document, names⟩
    · rw [readIdentifier_missing_iff, exists_comm]
      constructor
      · rintro ⟨other, derived, nameless⟩
        rwa [derived.unique document] at nameless
      · intro nameless
        exact ⟨value, document, nameless⟩
    · by_cases named : ∃ identifier, Names identifier value
      · obtain ⟨identifier, names⟩ := named
        exact .inl ⟨identifier, readIdentifier_of_names document names⟩
      · exact .inr (readIdentifier_of_nameless document named)

end Replay
