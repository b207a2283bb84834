import Replay.Catalogue.Draws
import Replay.Failure
import Replay.Stub
import Replay.Text.Order

/-!
# Catalogues

A catalogue maps identifiers to stubs. It is built once from a configuration
document and never changes. Of several entries for one identifier the last one
counts, and only then are statuses judged, so a status that cannot be replayed
does no harm in an entry that is overruled. The first status that cannot be replayed
is reported; which one that is depends on the order in which the entries are judged,
and this may be any.
-/

namespace Replay

/-- The last entry of each identifier, in the order of identifiers. -/
def Drafts.latest (drafts : Drafts) : Std.TreeMap String Draft Text.order :=
  drafts.foldl (fun latest draft => latest.insert draft.1 draft.2) ∅

/-- An order in which entries are judged. None of them is lost, and none is added. -/
structure Arrangement where
  arrange : Drafts → Drafts
  perm : ∀ entries, (arrange entries).Perm entries

/-- Entries are judged in the order in which they are listed. -/
def Arrangement.asListed : Arrangement :=
  ⟨id, fun _ => .refl _⟩

/-- The stub that an entry describes, if it can be replayed. -/
def Draft.stub? (draft : Draft) : Option Stub :=
  Stub.ofCode? draft.status (Utf8.encode draft.body)

/-- Stubs by identifier. -/
structure Catalogue where
  stubs : Std.TreeMap String Stub Text.order

namespace Catalogue

/-- The catalogue without stubs. -/
def empty : Catalogue := ⟨∅⟩

/-- The stub of an identifier. -/
def resolve? (catalogue : Catalogue) (identifier : String) : Option Stub :=
  catalogue.stubs[identifier]?

/-- The number of identifiers. -/
def size (catalogue : Catalogue) : Nat :=
  catalogue.stubs.size

/-- Whether there are no identifiers. -/
def isEmpty (catalogue : Catalogue) : Bool :=
  catalogue.stubs.isEmpty

/-- The identifiers in their order. -/
def identifiers (catalogue : Catalogue) : List String :=
  catalogue.stubs.keys

/-- The identifiers in their order, each with its stub. -/
def toList (catalogue : Catalogue) : List (String × Stub) :=
  catalogue.stubs.toList

/-- Set the stub of an identifier. -/
def insert (catalogue : Catalogue) (identifier : String) (stub : Stub) : Catalogue :=
  ⟨catalogue.stubs.insert identifier stub⟩

/-- Add an entry, unless its status cannot be replayed. -/
def add (catalogue : Catalogue) (entry : String × Draft) : Except Failure Catalogue :=
  match entry.2.stub? with
  | some stub => .ok (catalogue.insert entry.1 stub)
  | none => .error (.statusRefused entry.1 entry.2.status)

/-- The catalogue of entries, taken in the given order. -/
def ofEntries (entries : Drafts) : Except Failure Catalogue :=
  entries.foldlM add empty

/-- The catalogue of the entries of a document, which are judged in some order. -/
def ofDraftsIn (order : Arrangement) (drafts : Drafts) : Except Failure Catalogue :=
  ofEntries (order.arrange drafts.latest.toList)

/-- The catalogue of the entries of a document, judged in the order of identifiers. -/
def ofDrafts (drafts : Drafts) : Except Failure Catalogue :=
  ofDraftsIn .asListed drafts

/-- The catalogue that the entries read from a document describe, judged in some order. -/
def ofParsedIn (order : Arrangement) (parsed : Except Json.Error Drafts) :
    Except Failure Catalogue :=
  match parsed with
  | .error error => .error (.document error)
  | .ok drafts => ofDraftsIn order drafts

/-- The catalogue that the entries read from a document describe. -/
def ofParsed (parsed : Except Json.Error Drafts) : Except Failure Catalogue :=
  ofParsedIn .asListed parsed

@[simp] theorem ofParsed_error (error : Json.Error) :
    ofParsed (.error error) = .error (.document error) := rfl

@[simp] theorem ofParsed_ok (drafts : Drafts) : ofParsed (.ok drafts) = ofDrafts drafts := rfl

/-- The catalogue that a document at hand describes. -/
def load (document : Bytes) : Except Failure Catalogue :=
  ofParsed (Drafts.parse document)

/-- The catalogue that a text describes. -/
def loadText (document : String) : Except Failure Catalogue :=
  load (Utf8.encode document)

/-- The catalogue that a delivered document describes. -/
def receive (delivery : Delivery) : Except Failure Catalogue :=
  ofParsed (Drafts.receive delivery)

/-- The catalogue that a delivered document describes, with its entries judged in some
order. -/
def receiveIn (order : Arrangement) (delivery : Delivery) : Except Failure Catalogue :=
  ofParsedIn order (Drafts.receive delivery)

end Catalogue

end Replay
