import Hedwig.Exceptions
import Hedwig.Lib.PyDict
import Hedwig.Lib.StrictVersion

set_option relaxedAutoImplicit false
set_option autoImplicit false

/-!
# Messages

The message model of the package, and the payloads and attributes that a message is sent as.

## Main definitions

* `Hedwig.Payload`, `Hedwig.Attributes` — what goes over a transport.
* `Hedwig.Metadata`, `Hedwig.Message` — a message, over the type of its data and the type of the
  metadata that a provider adds to it; `Message.Equal` is `==`.

## Design

The fields of a decoded message are whatever the payload held, so they are Python values; the type
and the version come out of a regular expression and are what the annotations say.
-/

namespace Hedwig

/-- A message payload: `str` or `bytes`. -/
inductive Payload
  | str (s : String)
  | bytes (b : List UInt8)
  deriving DecidableEq, Repr

/-- The attributes of a transport message. -/
abbrev Attributes := PyDict PyKey PyObj

/-- A dictionary as a Python value. -/
def ofDict (d : Attributes) : PyObj := .dict d.items

/-- The dictionary that a Python value is, the empty one if it is none. -/
def toDict : PyObj → Attributes
  | .dict fields => .ofList fields
  | _ => .empty

@[simp] lemma toDict_ofDict (d : Attributes) : toDict (ofDict d) = d := PyDict.ofList_items d

/-- A dictionary of strings as a Python dictionary. -/
def ofStrings (d : PyDict String String) : Attributes :=
  d.mapItems PyKey.str (fun _ _ h => PyKey.str.inj h) PyObj.str

@[simp] lemma items_ofStrings (d : PyDict String String) :
    (ofStrings d).items = d.items.map fun kv => (.str kv.1, .str kv.2) := rfl

/-- The metadata of a message. -/
structure Metadata (π : Type) where
  timestamp : PyObj
  publisher : PyObj
  headers : PyObj
  providerMetadata : Option π

/-- A message. -/
structure Message (δ π : Type) where
  data : δ
  type : String
  version : StrictVersion
  id : PyObj
  metadata : Metadata π

/-- The message with other provider metadata. -/
def Message.withProviderMetadata {δ π : Type} (m : Message δ π) (providerMetadata : Option π) :
    Message δ π :=
  { m with metadata := { m.metadata with providerMetadata := providerMetadata } }

/-- `with_headers`. -/
def Message.withHeaders {δ π : Type} (m : Message δ π) (newHeaders : PyObj) : Message δ π :=
  { m with metadata := { m.metadata with headers := newHeaders } }

/-- Two Python values are equal dictionaries: they have the same keys with the same values, in
whatever order. -/
def SameDict (o o' : PyObj) : Prop :=
  ∃ d d' : Attributes, o = ofDict d ∧ o' = ofDict d' ∧ ∀ k, d.get? k = d'.get? k

namespace Message

variable {δ π : Type}

/-- The fields of the message are what their annotations say, with any dictionary as headers. -/
structure Annotated (m : Message δ π) : Prop where
  id : ∃ s, m.id = .str s
  timestamp : ∃ t, m.metadata.timestamp = .int t
  publisher : ∃ s, m.metadata.publisher = .str s
  headers : ∃ d : Attributes, m.metadata.headers = ofDict d

/-- `m == m'`: every field is equal, the headers as dictionaries. -/
def Equal (m m' : Message δ π) : Prop :=
  SameDict m.metadata.headers m'.metadata.headers ∧
    m = { m' with metadata := { m'.metadata with headers := m.metadata.headers } }

end Message

end Hedwig
