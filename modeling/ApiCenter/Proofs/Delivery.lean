import ApiCenter.Model.KafkaService
import ApiCenter.Proofs.StoredTexts

namespace ApiCenter.Proofs.Delivery
open Library Json JsonRoundTrip StoredTexts

/-- A payload as an object literal gives it: no key twice, and only values that can be written. -/
structure Literal (payload : Payload) : Prop where
  nodup : (payload.map Prod.fst).Nodup
  writable : ∀ field ∈ payload, Writable field.2

theorem Literal.assign {payload : Payload} (h : Literal payload) (key : String) {value : Json}
    (hv : value.Proper) : Literal (payload.assign key value) := by
  refine ⟨Fields.nodup_assign h.nodup _ _, ?_⟩
  intro field hf
  rcases Fields.mem_assign hf with hold | rfl
  · exact h.writable field hold
  · exact writable_some hv

variable {k : KafkaService} {σ : Type}

/-- The object a subscriber's handler is called with for a publication. -/
def document (k : KafkaService) (p : KafkaService.Publication) : Json :=
  (p.payload.assign "_meta" (k.stamp p.now)).object

/-- The topic is not a built-in name, and its schema, if it has one, lets the payload through. -/
def passes (p : KafkaService.Publication) : Bool :=
  match TOPIC_SCHEMAS.lookup p.topic with
  | none => !objectPrototype.contains p.topic
  | some schema => schema.safeParse p.payload

/-- What the producer is given. -/
def record (k : KafkaService) (p : KafkaService.Publication) : KafkaRecord :=
  ⟨p.topic, p.key.text?, (document k p).stringify⟩

/-- The handler of a subscriber, called with an object; a failure is logged. -/
def called (topic : String) (handler : σ → Json → σ × Except String Unit)
    (s : KafkaService.Subscriber σ) (parsed : Json) : KafkaService.Subscriber σ :=
  match handler s.state parsed with
  | (state, .ok ()) => { s with state := state }
  | (state, .error message) =>
    { state := state
      logged := s.logged ++ [s!"Kafka message processing error on {topic}: {message}"] }

/-- A consumer is handed messages of its topic, as the producer was given them. -/
def Documented (kafka : Kafka) : Prop :=
  ∀ topic records, ∀ r ∈ kafka.handed topic records, r ∈ records ∧ r.topic = topic

/-- The publications of `ps` that messages of the topic with this key may be of. -/
def keyed (topic key : String) (ps : List KafkaService.Publication) :
    List KafkaService.Publication :=
  ps.filter fun p => passes p = true ∧ p.topic = topic ∧ p.key.text? = some key

end ApiCenter.Proofs.Delivery
