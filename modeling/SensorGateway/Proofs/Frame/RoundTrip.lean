import SensorGateway.Proofs.Frame.Wire

namespace SensorGateway

theorem Subject.parts_of_ofTopic {type : FrameType} {topic : Topic} {subject : Subject}
    (fitted : Subject.ofTopic type topic = .ok subject) : subject.type = type ∧ subject.topic = topic := by
  cases type <;> cases topic <;> simp only [Subject.ofTopic, Subject.of?, Except.ok.injEq, reduceCtorEq] at fitted <;>
    exact fitted ▸ ⟨rfl, rfl⟩

theorem Subject.parts_of_ofCode {type : FrameType} {topic : Topic} {code : UInt8} {subject : Subject}
    (known : Topic.ofCode type code = .ok topic) (fitted : Subject.ofCode type code = .ok subject) :
    subject.type = type ∧ subject.topic = topic := by
  rw [Subject.ofCode, known] at fitted
  exact Subject.parts_of_ofTopic fitted

namespace Frame

/-- The type and the topic of an answer to a frame of this type about this topic. -/
def answerParts : FrameType → Topic → FrameType × Topic
  | .request, topic => (.set, topic)
  | .internal, .housekeeping .idRequest => (.internal, .housekeeping .idResponse)
  | type, topic => (type, topic)

/-- The frames that chains of operations make. The type and the topic are followed on their own, as they were
given to the operations, so that they can be compared with what the frame is about. -/
inductive Made : FrameType → Topic → Frame → Prop
  | ofNumbers {node sensor code : UInt8} {type : FrameType} {topic : Topic} {ack : Bool} {payload : String}
      {f : Frame} :
      Topic.ofCode type code = .ok topic → ofCode node sensor type ack code payload = .ok f → Made type topic f
  | ofWords {node sensor : UInt8} {type : FrameType} {topic : Topic} {payload : String} {f : Frame} :
      ofTopic node sensor type topic payload = .ok f → Made type topic f
  | presentation (node sensor : UInt8) (profile : Profile) (payload : String) :
      Made .presentation (.profile profile) (about node sensor (.presentation profile) payload)
  | set (node sensor : UInt8) (signal : Signal) (payload : String) :
      Made .set (.signal signal) (about node sensor (.set signal) payload)
  | request (node sensor : UInt8) (signal : Signal) (payload : String) :
      Made .request (.signal signal) (about node sensor (.request signal) payload)
  | internal (node sensor : UInt8) (word : Housekeeping) (payload : String) :
      Made .internal (.housekeeping word) (about node sensor (.internal word) payload)
  | stream (node sensor : UInt8) (bulk : Bulk) (payload : String) :
      Made .stream (.bulk bulk) (about node sensor (.stream bulk) payload)
  | decoded {line : String} {f : Frame} : decode line = .ok f → Made f.type f.topic f
  | answered {type : FrameType} {topic : Topic} {f : Frame} (payload : String) : Made type topic f →
      Made (answerParts type topic).1 (answerParts type topic).2 (f.reply payload)
  | echoed {type : FrameType} {topic : Topic} {f : Frame} : Made type topic f →
      Made type topic f.acknowledgement
  | toNode {type : FrameType} {topic : Topic} {f : Frame} (node : UInt8) : Made type topic f →
      Made type topic { f with node }
  | toSensor {type : FrameType} {topic : Topic} {f : Frame} (sensor : UInt8) : Made type topic f →
      Made type topic { f with sensor }
  | withAck {type : FrameType} {topic : Topic} {f : Frame} (ack : Bool) : Made type topic f →
      Made type topic { f with ack }
  | withPayload {type : FrameType} {topic : Topic} {f : Frame} (payload : String) : Made type topic f →
      Made type topic { f with payload }

theorem answer_parts (subject : Subject) :
    (subject.answer.type, subject.answer.topic) = answerParts subject.type subject.topic := by
  cases subject with
  | internal word => cases word <;> rfl
  | _ => rfl

/-- No operation loses or mixes up what a frame is about. -/
theorem Made.parts {type : FrameType} {topic : Topic} {f : Frame} (made : Made type topic f) :
    f.type = type ∧ f.topic = topic := by
  induction made with
  | @ofNumbers node sensor code type topic ack payload f known built =>
    unfold Frame.ofCode at built
    cases fitted : Subject.ofCode type code with
    | error cause =>
      rw [fitted] at built
      cases built
    | ok subject =>
      rw [fitted] at built
      obtain ⟨rfl, _⟩ := isEncodable_of_checked built
      exact Subject.parts_of_ofCode known fitted
  | @ofWords node sensor type topic payload f built =>
    unfold Frame.ofTopic at built
    cases fitted : Subject.ofTopic type topic with
    | error cause =>
      rw [fitted] at built
      cases built
    | ok subject =>
      rw [fitted] at built
      obtain ⟨rfl, _⟩ := isEncodable_of_checked built
      exact Subject.parts_of_ofTopic fitted
  | presentation | set | request | internal | stream | decoded => exact ⟨rfl, rfl⟩
  | @answered type topic f payload _ ih =>
    have parts := answer_parts f.subject
    rw [show f.subject.type = type from ih.1, show f.subject.topic = topic from ih.2] at parts
    exact ⟨congrArg Prod.fst parts, congrArg Prod.snd parts⟩
  | echoed _ ih | toNode _ _ ih | toSensor _ _ ih | withAck _ _ ih | withPayload _ _ ih => exact ih

theorem Made.fits {type : FrameType} {topic : Topic} {f : Frame} (made : Made type topic f) :
    topic.fits type = true := by
  obtain ⟨rfl, rfl⟩ := made.parts
  exact f.subject.topic_fits_type

/-- A frame's line is decoded to the frame exactly when the payload has no line break. A carriage return that
is the only line break and ends the payload is lost on the way; any other line break is refused. -/
theorem Made.wire_round_trip {type : FrameType} {topic : Topic} {f : Frame} (made : Made type topic f) :
    f.type = type ∧ f.topic = topic ∧ topic.fits type = true ∧
      (decode f.encode = .ok f ↔ f.isEncodable = true) ∧
      (∀ body : String, f.payload = body.push '\r' → Text.hasLineBreak body = false →
        decode f.encode = .ok { f with payload := body }) ∧
      (f.isEncodable = false → (∀ body : String, f.payload = body.push '\r' → Text.hasLineBreak body = true) →
        decode f.encode = .error (.rule .lineBreak)) := by
  refine ⟨made.parts.1, made.parts.2, made.fits, f.decode_encode_iff, ?_, ?_⟩
  · intro body ends free
    exact decode_encode_push ends free
  · intro broken other
    exact decode_encode_of_not_isEncodable broken other

/-- An answer to a request loses the carriage return at the end of its payload, and keeps its separators. -/
theorem wire_round_trip_answer :
    Made .set (.signal .position) ((about 5 3 (.request .position) "").reply "55.7;13.0;18\r") ∧
      decode ((about 5 3 (.request .position) "").reply "55.7;13.0;18\r").encode =
        .ok ((about 5 3 (.request .position) "").reply "55.7;13.0;18") := by
  have answer : Made .set (.signal .position) ((about 5 3 (.request .position) "").reply "55.7;13.0;18\r") :=
    (Made.request 5 3 .position "").answered "55.7;13.0;18\r"
  exact ⟨answer, answer.wire_round_trip.2.2.2.2.1 "55.7;13.0;18" rfl (by decide)⟩

end Frame

end SensorGateway
