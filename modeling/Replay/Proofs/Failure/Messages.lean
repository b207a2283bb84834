import Replay.Failure
import Replay.Proofs.Text.Decimal
import Replay.Proofs.Text.Quoted

/-!
# What messages tell apart

A failure in words of its own has a message that no other failure has, and that
stays on one line: what a message takes over from outside is a number or a quoted
text, and where each of them ends is known. The failures that pass on the words of a
reader, of the system or of the connection promise neither.
-/

namespace Replay.Failure

open Text Decimal

/-- Whether a message has no words but those of the failure itself. -/
def inOwnWords : Failure → Bool
  | .statusRefused _ _ | .portInvalid _ | .lengthMissing | .lengthInvalid _
  | .lengthMismatch _ _ | .bodyTooLarge _ _ | .identifierMissing | .identifierUnknown _ => true
  | .document _ | .bodyMalformed _ | .system _ | .transport _ => false

/-! ## Openings -/

/-- The words with which messages open, each with the label of the failures they belong to. -/
def openings : List (String × String) :=
  [("Invalid configuration: ", "Config"), ("Invalid status ", "InvalidStatus"),
   ("Invalid port ", "InvalidPort"), ("Missing Content-Length header", "MissingContentLength"),
   ("Invalid Content-Length header: ", "InvalidContentLength"),
   ("Body length ", "BodyLengthMismatch"), ("Body too large: ", "BodyTooLarge"),
   ("Malformed request body: ", "MalformedBody"),
   ("Request body has no string id field", "MissingId"), ("Unknown identifier ", "UnknownId"),
   ("IO error: ", "Io"), ("HTTP error: ", "Hyper")]

/-- No opening is the beginning of another. -/
theorem openings_apart : ∀ left ∈ openings, ∀ right ∈ openings,
    left.1.toList <+: right.1.toList → left = right := by
  decide

/-- Every message opens with the words of its label. -/
theorem exists_opening (failure : Failure) :
    ∃ words, (words, failure.label) ∈ openings ∧ words.toList <+: failure.message.toList := by
  cases failure <;> unfold message label <;>
    simp only [String.toList_append, List.append_assoc]
  · exact ⟨"Invalid configuration: ", by decide, List.prefix_append _ _⟩
  · exact ⟨"Invalid status ", by decide, List.prefix_append _ _⟩
  · exact ⟨"Invalid port ", by decide, List.prefix_append _ _⟩
  · exact ⟨"Missing Content-Length header", by decide, List.prefix_refl _⟩
  · exact ⟨"Invalid Content-Length header: ", by decide, List.prefix_append _ _⟩
  · exact ⟨"Body length ", by decide, List.prefix_append _ _⟩
  · exact ⟨"Body too large: ", by decide, List.prefix_append _ _⟩
  · exact ⟨"Malformed request body: ", by decide, List.prefix_append _ _⟩
  · exact ⟨"Request body has no string id field", by decide, List.prefix_refl _⟩
  · exact ⟨"Unknown identifier ", by decide, List.prefix_append _ _⟩
  · exact ⟨"IO error: ", by decide, List.prefix_append _ _⟩
  · exact ⟨"HTTP error: ", by decide, List.prefix_append _ _⟩

theorem label_eq_of_message_eq {first second : Failure} (same : first.message = second.message) :
    first.label = second.label := by
  obtain ⟨words, listed, opens⟩ := first.exists_opening
  obtain ⟨wordsOther, listedOther, opensOther⟩ := second.exists_opening
  rw [← same] at opensOther
  rcases List.prefix_or_prefix_of_prefix opens opensOther with short | short
  · exact congrArg Prod.snd (openings_apart _ listed _ listedOther short)
  · exact (congrArg Prod.snd (openings_apart _ listedOther _ listed short)).symm

/-! ## Contents -/

theorem statusRefused_message_inj {identifier other : String} {status number : Nat} :
    (statusRefused identifier status).message = (statusRefused other number).message ↔
      status = number ∧ identifier = other := by
  unfold message
  simp only [String.append_assoc, String.append_right_inj]
  refine (write_words_inj fun _ => stops_cons.2 rfl).trans (and_congr_right fun _ => ?_)
  exact quoted_inj

theorem lengthMismatch_message_inj {declared actual number other : Nat} :
    (lengthMismatch declared actual).message = (lengthMismatch number other).message ↔
      actual = other ∧ declared = number := by
  unfold message
  simp only [String.append_assoc, String.append_right_inj]
  refine (write_words_inj fun _ => stops_cons.2 rfl).trans (and_congr_right fun _ => ?_)
  exact write_inj

theorem bodyTooLarge_message_inj {size limit number other : Nat} :
    (bodyTooLarge size limit).message = (bodyTooLarge number other).message ↔
      size = number ∧ limit = other := by
  unfold message
  simp only [String.append_assoc, String.append_right_inj]
  refine (write_words_inj fun _ => stops_cons.2 rfl).trans (and_congr_right fun _ => ?_)
  exact (String.append_left_inj _).trans write_inj

/-- A message in own words is that of one failure only. -/
theorem eq_of_message_eq {first second : Failure} (own : first.inOwnWords = true)
    (same : first.message = second.message) : first = second := by
  have sameLabel := label_eq_of_message_eq same
  cases first <;> cases second <;> simp only [label, String.reduceEq] at sameLabel
  -- What is left are failures with the same label.
  case statusRefused.statusRefused =>
    obtain ⟨rfl, rfl⟩ := statusRefused_message_inj.1 same
    rfl
  case lengthMismatch.lengthMismatch =>
    obtain ⟨rfl, rfl⟩ := lengthMismatch_message_inj.1 same
    rfl
  case bodyTooLarge.bodyTooLarge =>
    obtain ⟨rfl, rfl⟩ := bodyTooLarge_message_inj.1 same
    rfl
  case portInvalid.portInvalid =>
    rw [quoted_inj.1 ((String.append_right_inj _).1 same)]
  case lengthInvalid.lengthInvalid =>
    rw [quoted_inj.1 ((String.append_right_inj _).1 same)]
  case identifierUnknown.identifierUnknown =>
    rw [quoted_inj.1 ((String.append_right_inj _).1 same)]
  case lengthMissing.lengthMissing => rfl
  case identifierMissing.identifierMissing => rfl
  all_goals cases own

/-! ## Lines -/

theorem inLine_toString (number : Nat) : InLine (toString number).toList := by
  refine inLine_of_ascii fun digit within => ?_
  have bounds := toNat_bounds_of_isDigit (isDigit_of_mem_write within)
  omega

/-- A message in own words stays on its line. -/
theorem inLine_message {failure : Failure} (own : failure.inOwnWords = true) :
    InLine failure.message.toList := by
  cases failure with
  | document | bodyMalformed | system | transport => cases own
  | lengthMissing | identifierMissing => decide
  | portInvalid | lengthInvalid | identifierUnknown =>
    unfold message
    simp only [String.toList_append, inLine_append, inLine_quoted, and_true]
    decide
  | statusRefused =>
    unfold message
    simp only [String.toList_append, inLine_append, inLine_toString, inLine_quoted, and_true]
    decide
  | lengthMismatch | bodyTooLarge =>
    unfold message
    simp only [String.toList_append, inLine_append, inLine_toString, and_true]
    decide

/-! ## Messages -/

/-- A failure in own words is known from its message, which no other failure has, and the
message stays on its line, whatever texts and numbers the failure holds. -/
theorem messages_tell_apart {first second : Failure} (own : first.inOwnWords = true) :
    (first.message = second.message ↔ first = second) ∧ InLine first.message.toList :=
  ⟨⟨eq_of_message_eq own, congrArg message⟩, inLine_message own⟩

/-- An identifier with a line feed is not taken for one with the escape of a line feed. -/
theorem messages_tell_apart_of_line_feed :
    (identifierUnknown "a\nb").inOwnWords = true ∧
      (identifierUnknown "a\nb").message = "Unknown identifier \"a\\nb\"" ∧
      (identifierUnknown "a\nb").message ≠ (identifierUnknown "a\\nb").message ∧
      InLine (identifierUnknown "a\nb").message.toList := by
  have own : (identifierUnknown "a\nb").inOwnWords = true := rfl
  have different : identifierUnknown "a\nb" ≠ identifierUnknown "a\\nb" := by simp
  obtain ⟨apart, inLine⟩ := @messages_tell_apart _ (identifierUnknown "a\\nb") own
  exact ⟨own, by decide, mt apart.1 different, inLine⟩

end Replay.Failure
