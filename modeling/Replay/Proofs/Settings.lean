import Replay.Proofs.Text.Decimal
import Replay.Proofs.Text.Encoding
import Replay.Settings

/-!
# The settings of an environment

What the variable of the port makes of the settings, which ask for no other. A text
denotes a port, and nothing but the port is set, or it is refused as it stands. Octets
that are no text are passed over as if the variable were not set; that is the only way in
which a port that is set comes to nothing.
-/

namespace Replay.Settings

/-! ## A text -/

section Text

variable {processors : Nat} {text : String}

theorem ofPortText_of_declares {port : UInt16} (declares : Decimal.Declares text port.toNat) :
    ofPortText processors (some text) = .ok ((standard processors).withPort port) := by
  have read := Decimal.readTrimmedBelow?_eq_some_iff.2 ⟨declares, port.toNat_lt⟩
  rw [ofPortText, UInt16.size, read]
  exact congrArg (fun port => Except.ok ((standard processors).withPort port)) port.ofNat_toNat

theorem ofPortText_of_invalid (invalid : ¬ ∃ port : UInt16, Decimal.Declares text port.toNat) :
    ofPortText processors (some text) = .error (.portInvalid text) := by
  have unread : Decimal.readTrimmedBelow? UInt16.size text = none := by
    apply Decimal.readTrimmedBelow?_eq_none_iff.2
    intro number declares
    refine Nat.not_lt.1 fun small => invalid ⟨UInt16.ofNat number, ?_⟩
    rwa [UInt16.toNat_ofNat_of_lt' small]
  rw [ofPortText, unread]

/-- A text denotes a port or is refused. -/
theorem ofPortText_cases (processors : Nat) (text : String) :
    (∃ port : UInt16, Decimal.Declares text port.toNat ∧
      ofPortText processors (some text) = .ok ((standard processors).withPort port)) ∨
    (¬ ∃ port : UInt16, Decimal.Declares text port.toNat) ∧
      ofPortText processors (some text) = .error (.portInvalid text) := by
  by_cases valid : ∃ port : UInt16, Decimal.Declares text port.toNat
  · obtain ⟨port, declares⟩ := valid
    exact .inl ⟨port, declares, ofPortText_of_declares declares⟩
  · exact .inr ⟨valid, ofPortText_of_invalid valid⟩

/-- What is set is the port that a text denotes, and no other setting. -/
theorem ofPortText_eq_ok_iff {settings : Settings} :
    ofPortText processors (some text) = .ok settings ↔
      ∃ port : UInt16, Decimal.Declares text port.toNat ∧
        settings = { standard processors with port } := by
  constructor
  · intro made
    rcases ofPortText_cases processors text with ⟨port, declares, set⟩ | ⟨_, refused⟩
    · cases made.symm.trans set
      exact ⟨port, declares, rfl⟩
    · cases made.symm.trans refused
  · rintro ⟨port, declares, rfl⟩
    exact ofPortText_of_declares declares

/-- A text that denotes no port is all that is refused, and is reported as it stands. -/
theorem ofPortText_eq_error_iff {failure : Failure} :
    ofPortText processors (some text) = .error failure ↔
      (¬ ∃ port : UInt16, Decimal.Declares text port.toNat) ∧ failure = .portInvalid text := by
  constructor
  · intro made
    rcases ofPortText_cases processors text with ⟨_, _, set⟩ | ⟨invalid, refused⟩
    · cases made.symm.trans set
    · cases made.symm.trans refused
      exact ⟨invalid, rfl⟩
  · rintro ⟨invalid, rfl⟩
    exact ofPortText_of_invalid invalid

end Text

/-! ## A look-up -/

/-- The settings that a look-up makes, exactly. It is asked for the port, once, and for
nothing else. Without an answer the settings are the usual ones. With a text they are the
usual ones but for the port that it denotes between white space, in base ten and however
long it is written; a text that denotes none is refused as it stands. -/
theorem read_exact (processors : Nat) (lookUp : String → Option String) :
    let usual : Settings := ⟨.unspecified, 7986, processors, 1024 * 1024⟩
    usual = standard processors ∧
    asked processors lookUp = ["TEST_SERVER_PORT"] ∧
    (lookUp "TEST_SERVER_PORT" = none → read processors lookUp = .ok usual) ∧
    (∀ text, lookUp "TEST_SERVER_PORT" = some text →
      (∀ settings, read processors lookUp = .ok settings ↔
        ∃ port : UInt16, Decimal.Declares text port.toNat ∧ settings = { usual with port }) ∧
      ∀ failure, read processors lookUp = .error failure ↔
        (¬ ∃ port : UInt16, Decimal.Declares text port.toNat) ∧
          failure = .portInvalid text) ∧
    ∀ digits, Decimal.value digits = Nat.ofDigits 10 (digits.map Decimal.digitValue).reverse := by
  intro usual
  have answered : read processors lookUp = ofPortText processors (lookUp "TEST_SERVER_PORT") := rfl
  refine ⟨rfl, rfl, ?_, ?_, Decimal.value_eq_ofDigits⟩
  · intro unset
    rw [answered, unset]
    rfl
  · intro text set
    rw [answered, set]
    exact ⟨fun _ => ofPortText_eq_ok_iff, fun _ => ofPortText_eq_error_iff⟩

/-- The largest port is denoted in more than one way, and the next number is refused. -/
theorem read_exact_of_largest :
    let lookUp := fun text name => if name = "TEST_SERVER_PORT" then some text else none
    read 4 (lookUp "\u2003+0065535\n") = .ok ⟨.unspecified, 65535, 4, 1024 * 1024⟩ ∧
      read 4 (lookUp "65536") = .error (.portInvalid "65536") := by
  intro lookUp
  have found : Decimal.readTrimmedBelow? UInt16.size "\u2003+0065535\n" = some 65535 := by
    decide +kernel
  obtain ⟨padded, _⟩ := Decimal.readTrimmedBelow?_eq_some_iff.1 found
  have beyond : ¬ ∃ port : UInt16, Decimal.Declares "65536" port.toNat := by
    rintro ⟨port, declares⟩
    have same := declares.unique (Decimal.declares_write 65536)
    have small := port.toNat_lt
    omega
  obtain ⟨_, _, _, set, _⟩ := read_exact 4 (lookUp "\u2003+0065535\n")
  obtain ⟨_, _, _, refused, _⟩ := read_exact 4 (lookUp "65536")
  exact ⟨((set _ rfl).1 _).2 ⟨65535, padded, rfl⟩, ((refused _ rfl).2 _).2 ⟨beyond, rfl⟩⟩

/-- What refuses variables is the port. -/
theorem read_error_cases {processors : Nat} {lookUp : String → Option String} {failure : Failure}
    (refused : read processors lookUp = .error failure) : ∃ text, failure = .portInvalid text := by
  have made : ofPortText processors (lookUp portVariable) = .error failure := refused
  cases found : lookUp portVariable with
  | none =>
    rw [found] at made
    cases made
  | some text =>
    rw [found] at made
    exact ⟨text, (ofPortText_eq_error_iff.1 made).2⟩

/-! ## The octets of a variable -/

/-- What the octets of the variable make of the settings. -/
inductive Makes (processors : Nat) : Option Bytes → Except Failure Settings → Prop where
  | unset : Makes processors none (.ok (standard processors))
  /-- The octets are no text. -/
  | unreadable {octets : Bytes} (noText : ¬ Utf8.WellFormed octets) :
      Makes processors (some octets) (.ok (standard processors))
  | port {text : String} {port : UInt16} (declares : Decimal.Declares text port.toNat) :
      Makes processors (some (Utf8.encode text)) (.ok ((standard processors).withPort port))
  | refused {text : String} (invalid : ¬ ∃ port : UInt16, Decimal.Declares text port.toNat) :
      Makes processors (some (Utf8.encode text)) (.error (.portInvalid text))

/-- Whatever the octets are, they make the settings that are read from them. -/
theorem makes_read (processors : Nat) (value : Option Bytes) :
    Makes processors value (ofPortText processors (value.bind Utf8.decode?)) := by
  cases value with
  | none => exact .unset
  | some octets =>
    rw [Option.bind_some]
    cases decoded : Utf8.decode? octets with
    | none => exact .unreadable (Utf8.decode?_eq_none_iff.1 decoded)
    | some text =>
      obtain rfl := Utf8.decode?_eq_some_iff.1 decoded
      rcases ofPortText_cases processors text with ⟨port, declares, read⟩ | ⟨invalid, read⟩
      · rw [read]
        exact .port declares
      · rw [read]
        exact .refused invalid

/-- Octets make nothing but what is read from them. -/
theorem Makes.eq_read {processors : Nat} {value : Option Bytes}
    {settings : Except Failure Settings} (makes : Makes processors value settings) :
    ofPortText processors (value.bind Utf8.decode?) = settings := by
  cases makes with
  | unset => rfl
  | unreadable noText => rw [Option.bind_some, Utf8.decode?_eq_none_iff.2 noText, ofPortText]
  | port declares =>
    rw [Option.bind_some, Utf8.decode?_eq_some_iff.2 rfl, ofPortText_of_declares declares]
  | refused invalid =>
    rw [Option.bind_some, Utf8.decode?_eq_some_iff.2 rfl, ofPortText_of_invalid invalid]

/-! ## An environment -/

section Environment

variable {processors : Nat} {environment : String → Option Bytes}

theorem makes_of_environment {settings : Except Failure Settings}
    (read : ofEnvironment processors environment = settings) :
    Makes processors (environment portVariable) settings := by
  subst read
  exact makes_read processors _

end Environment

/-- The settings of an environment, whatever the octets of the variable are. A value that
is a text sets the port that it denotes, or is refused. Without a value the settings are
the usual ones, and so they are with one that is no text. -/
theorem ofEnvironment_eq_iff (processors : Nat) (environment : String → Option Bytes)
    (settings : Except Failure Settings) :
    ofEnvironment processors environment = settings ↔
      Makes processors (environment portVariable) settings :=
  ⟨makes_of_environment, Makes.eq_read⟩

/-- An octet that is no text is set, so it denotes no port, and it is passed over. -/
theorem standard_of_unreadable :
    let environment := fun name => if name = portVariable then some [0xFF] else none
    environment portVariable = some [0xFF] ∧
      (¬ ∃ text port, ([0xFF] : Bytes) = Utf8.encode text ∧ Decimal.Declares text port) ∧
      ofEnvironment 1 environment = .ok (standard 1) := by
  refine ⟨rfl, ?_, rfl⟩
  rintro ⟨text, _, encoded, _⟩
  have undecoded : Utf8.decode? [0xFF] = none := rfl
  exact Utf8.decode?_eq_none_iff.1 undecoded ⟨text, encoded⟩

end Replay.Settings
