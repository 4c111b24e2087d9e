import Hedwig.Lib.Base64
import Hedwig.Validators.Attributes

set_option relaxedAutoImplicit false
set_option autoImplicit false

/-!
# Topics and text transports

What the publisher backends share: the topic of a message, and how a payload is stored in a
transport that takes only text.  SNS and Redis store bytes in base64 and say so in the attribute
`hedwig_encoding`; the consumers decode by that attribute.

## Main definitions

* `Hedwig.Topic`, `Hedwig.topic` — the routing of messages.
* `Hedwig.encodeText` — the text and the attributes that a payload is published as.
* `Hedwig.decodeText` — the payload that a consumer reads back.

## Main results

* `Hedwig.decodeText_encodeText` — the payload is read back, of the same type.
-/

namespace Hedwig

/-- A value of `HEDWIG_MESSAGE_ROUTING`: a topic, or a topic with the project or the account it
belongs to. -/
inductive Topic
  | name (topic : String)
  | cross (topic account : String)

/-- A topic in an f-string; a tuple is printed with quotes. -/
def Topic.text : Topic → String
  | .name topic => topic
  | .cross topic account => "('" ++ topic ++ "', '" ++ account ++ "')"

/-- `HedwigPublisherBaseBackend.topic`. -/
def topic {δ π : Type} (messageRouting : PyDict (String × String) Topic) (m : Message δ π) :
    Except PyException Topic :=
  let versionPattern := toString m.version.major ++ ".*"
  match messageRouting.get? (m.type, versionPattern) with
  | some t => .ok t
  | none => .error (.new .keyError ("('" ++ m.type ++ "', '" ++ versionPattern ++ "')"))

/-- The topic depends on the type and the version of the message only. -/
lemma topic_congr {δ π : Type} (messageRouting : PyDict (String × String) Topic)
    {m m' : Message δ π} (htype : m.type = m'.type) (hversion : m.version = m'.version) :
    topic messageRouting m = topic messageRouting m' := by
  unfold topic
  rw [htype, hversion]

/-- The first lines of `_publish` for a transport that takes UTF-8 text: bytes are published in
base64, with an attribute that says so. -/
def encodeText (payload : Payload) (attributes : PyDict String String) :
    String × PyDict String String :=
  match payload with
  | .bytes b => (Base64.encodebytes b, attributes.set "hedwig_encoding" "base64")
  | .str s => (s, attributes)

/-- The payload in a body, by the value of the attribute `hedwig_encoding`. -/
def decodeText (encoding : Option String) (body : String) : Except PyException Payload :=
  if encoding = some "base64" then
    match Base64.decodebytes body with
    | some b => .ok (.bytes b)
    | none => .error (.new .binasciiError "Incorrect padding")
  else .ok (.str body)

section

variable {attributes : PyDict String String} {payload : Payload}

/-- The attributes are published unchanged, except for the encoding. -/
lemma get?_encodeText {k : String} (hk : k ≠ "hedwig_encoding") :
    (encodeText payload attributes).2.get? k = attributes.get? k := by
  cases payload with
  | bytes b => exact PyDict.get?_set_of_ne attributes "base64" hk
  | str s => rfl

/-- The attributes without the encoding are those that were published. -/
lemma erase_encodeText (h : "hedwig_encoding" ∉ attributes.keys) :
    (encodeText payload attributes).2.erase "hedwig_encoding" = attributes := by
  cases payload with
  | bytes b => exact PyDict.erase_set h "base64"
  | str s => exact PyDict.erase_eq_self h

/-- A published payload is read back, of the same type. -/
theorem decodeText_encodeText (h : "hedwig_encoding" ∉ attributes.keys) :
    decodeText ((encodeText payload attributes).2.get? "hedwig_encoding")
      (encodeText payload attributes).1 = .ok payload := by
  cases payload with
  | bytes b =>
    have hget : (attributes.set "hedwig_encoding" "base64").get? "hedwig_encoding" =
        some "base64" := PyDict.get?_set_self _ _ _
    simp only [encodeText, decodeText, hget, if_true, Base64.decodebytes_encodebytes]
  | str s =>
    have hget : attributes.get? "hedwig_encoding" = none := PyDict.get?_eq_none_iff.mpr h
    simp [encodeText, decodeText, hget]

end

end Hedwig
