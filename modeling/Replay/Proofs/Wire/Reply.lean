import Replay.Proofs.Text.Decimal
import Replay.Proofs.Wire.FieldText

/-!
# Plain replies

A response of plain text can always be sent: its two header fields are legal whatever
the status is and however long the body. The reply has the same status and body, and
exactly these two fields.
-/

namespace Replay

open Wire

namespace Decimal

/-- The octets of a written number, one for each digit. -/
theorem encode_write (number : Nat) :
    Utf8.encode (write number) =
      (write number).toList.map fun digit => UInt8.ofNat digit.toNat := by
  apply Utf8.encodeChars_of_ascii
  intro digit within
  have atMost := (toNat_bounds_of_isDigit (isDigit_of_mem_write within)).2
  omega

/-- The octets of a written number are those of digits. -/
theorem isDigitOctet_of_mem_write {number : Nat} {octet : UInt8}
    (within : octet ∈ Utf8.encode (write number)) : isDigitOctet octet = true := by
  rw [encode_write] at within
  obtain ⟨digit, among, rfl⟩ := List.mem_map.1 within
  obtain ⟨atLeast, atMost⟩ := toNat_bounds_of_isDigit (isDigit_of_mem_write among)
  rw [isDigitOctet_iff, UInt8.toNat_ofNat']
  omega

end Decimal

namespace Wire

theorem isValueOctet_of_isDigitOctet {octet : UInt8} (digit : isDigitOctet octet = true) :
    isValueOctet octet = true := by
  rw [isDigitOctet_iff] at digit
  have notDelete : octet ≠ 0x7F := by
    rintro rfl
    exact absurd digit.2 (by decide)
  have large : 0x20 ≤ octet := by
    simp only [UInt8.le_iff_toNat_le, UInt8.reduceToNat]
    omega
  simp [isValueOctet, large, notDelete]

theorem FieldMap.ofFields_pair (first second : Bytes × Bytes) :
    ofFields [first, second] = (empty.add first).bind fun fields => fields.add second := by
  simp only [ofFields, List.foldlM_cons, List.foldlM_nil, bind_pure]
  rfl

namespace Reply

/-- The reply with a status and a plain text. -/
def plain (status : Status) (body : Bytes) : Reply where
  status
  fields :=
    ⟨[(Fields.contentType, [Utf8.encode "text/plain"]),
      (Fields.contentLength, [Utf8.encode (Decimal.write body.length)])]⟩
  body

/-- Both fields of a plain text are legal, whatever number of octets the second one names. -/
theorem ofFields_text (status : Status) (body : Bytes) :
    FieldMap.ofFields (encodeFields (Response.text status body).fields) =
      .ok (plain status body).fields := by
  let typed : FieldMap := ⟨[(Fields.contentType, [Utf8.encode "text/plain"])]⟩
  have addedType :
      FieldMap.empty.add (Utf8.encode Fields.contentType, Utf8.encode "text/plain") = .ok typed := by
    have name : FieldMap.name? (Utf8.encode Fields.contentType) = some Fields.contentType := by
      decide
    have value : (Utf8.encode "text/plain").all isValueOctet = true := by decide
    simp only [FieldMap.add, name, value, if_true]
    rfl
  have addedLength :
      typed.add (Utf8.encode Fields.contentLength, Utf8.encode (Decimal.write body.length)) =
        .ok (plain status body).fields := by
    have name : FieldMap.name? (Utf8.encode Fields.contentLength) = some Fields.contentLength := by
      decide
    have value : (Utf8.encode (Decimal.write body.length)).all isValueOctet = true :=
      List.all_eq_true.2 fun octet within =>
        isValueOctet_of_isDigitOctet (Decimal.isDigitOctet_of_mem_write within)
    simp only [FieldMap.add, name, value, if_true]
    rfl
  have parts : encodeFields (Response.text status body).fields =
      [(Utf8.encode Fields.contentType, Utf8.encode "text/plain"),
        (Utf8.encode Fields.contentLength, Utf8.encode (Decimal.write body.length))] := rfl
  rw [parts, FieldMap.ofFields_pair, addedType, Except.bind, addedLength]

/-- A response of plain text is sent as it is, and nothing is reported about it. -/
theorem ofResponse_text (status : Status) (body : Bytes) :
    ofResponse (Response.text status body) = (plain status body, []) := by
  rw [ofResponse, ofFields_text]
  rfl

theorem toList_plain (status : Status) (body : Bytes) :
    (plain status body).fields.toList =
      [("content-type", Utf8.encode "text/plain"),
        ("content-length", Utf8.encode (Decimal.write body.length))] :=
  rfl

theorem first?_contentType_plain (status : Status) (body : Bytes) :
    (plain status body).fields.first? Fields.contentType = some (Utf8.encode "text/plain") := by
  simp [plain, FieldMap.first?, FieldMap.values]

theorem first?_contentLength_plain (status : Status) (body : Bytes) :
    (plain status body).fields.first? Fields.contentLength =
      some (Utf8.encode (Decimal.write body.length)) := by
  have other : (Fields.contentLength == Fields.contentType) = false := by decide
  simp [plain, FieldMap.first?, FieldMap.values, List.lookup_cons, other]

end Reply

end Wire

namespace Response

theorem field?_contentType_text (status : Status) (body : Bytes) :
    (text status body).field? Fields.contentType = some "text/plain" := by
  have same : Text.sameName Fields.contentType Fields.contentType = true := by decide
  simp [text, field?, withBody, withField, start, Fields.first?, same]

theorem field?_contentLength_text (status : Status) (body : Bytes) :
    (text status body).field? Fields.contentLength = some (Decimal.write body.length) := by
  have other : Text.sameName Fields.contentType Fields.contentLength = false := by decide
  have same : Text.sameName Fields.contentLength Fields.contentLength = true := by decide
  simp [text, field?, withBody, withField, start, Fields.first?, same, other]

end Response

end Replay
