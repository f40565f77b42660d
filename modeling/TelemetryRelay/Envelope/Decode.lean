import TelemetryRelay.Envelope
import TelemetryRelay.Json.Record

/-!
Envelopes from JSON. The text is read as a `Draft`, in which the payloads are still independent of
the declared type; completing the draft picks the payload of that type or finds it missing.
-/

namespace TelemetryRelay.Envelope

open Json

/-- Reads an event type: its name, or an object with that one key and the value `null`. -/
def readType : Reader EventType := fun text =>
  match skipBlank text with
  | [] => .error (.unfinished .value)
  | '"' :: rest => do
    let (name, rest) ← characters rest
    return (.ofName (String.ofList name), rest)
  | '\x7b' :: rest =>
    match skipBlank rest with
    | [] => .error (.unfinished .object)
    | '\x7d' :: _ => .error (.broken .value)
    | '"' :: rest => do
      let (name, rest) ← characters rest
      let rest ← colon rest
      let (_, rest) ← unit rest
      match skipBlank rest with
      | [] => .error (.unfinished .object)
      | '\x7d' :: rest => return (.ofName (String.ofList name), rest)
      | _ => .error (.broken .value)
    | _ => .error (.broken .key)
  | _ => .error (.broken .value)

def typeOf (value : Outline) : Except Json.Fault EventType :=
  match value.found, value.members with
  | .string name, _ => .ok (.ofName name)
  | .object, [(name, .null)] => .ok (.ofName name)
  | .object, [(_, other)] => .error (.wrongType other "unit")
  | .object, _ => .error (.wrongValue .object "map with a single key")
  | other, _ => .error (.wrongType other "string or map")

def valueMetricRecord : Record ValueMetric where
  name := "ValueMetric"
  initial := ⟨"", .zero, ""⟩
  fields :=
    [
      .of "name" .required string fun name metric => { metric with name },
      .of "value" .required float fun value metric => { metric with value },
      .of "unit" .defaulted string fun unit metric => { metric with unit }
    ]

def counterEventRecord : Record CounterEvent where
  name := "CounterEvent"
  initial := ⟨"", 0, 0⟩
  fields :=
    [
      .of "name" .required string fun name counter => { counter with name },
      .of "delta" .defaulted uint64 fun delta counter => { counter with delta },
      .of "total" .required uint64 fun total counter => { counter with total }
    ]

structure Draft where
  origin : Option String
  type : EventType
  timestamp : Int64
  deployment : Option String
  job : Option String
  index : Option String
  ip : Option String
  tags : List Tag
  valueMetric : Option ValueMetric
  counterEvent : Option CounterEvent
deriving DecidableEq, Repr

def readTags : Reader (List Tag) := fun text => do
  let (pairs, rest) ← texts text
  return (Tag.canonical (pairs.map fun (key, value) => ⟨key, value⟩), rest)

def draftRecord : Record Draft where
  name := "RawEnvelope"
  initial := ⟨none, .unknown, 0, none, none, none, none, [], none, none⟩
  fields :=
    [
      .of "origin" .nullable (optional string) fun origin draft => { draft with origin },
      .of "eventType" .required readType fun type draft => { draft with type },
      .of "timestamp" .defaulted int64 fun timestamp draft => { draft with timestamp },
      .of "deployment" .nullable (optional string) fun deployment draft =>
        { draft with deployment },
      .of "job" .nullable (optional string) fun job draft => { draft with job },
      .of "index" .nullable (optional string) fun index draft => { draft with index },
      .of "ip" .nullable (optional string) fun ip draft => { draft with ip },
      .of "tags" .defaulted readTags fun tags draft => { draft with tags },
      .of "valueMetric" .nullable (optional valueMetricRecord.read) fun valueMetric draft =>
        { draft with valueMetric },
      .of "counterEvent" .nullable (optional counterEventRecord.read) fun counterEvent draft =>
        { draft with counterEvent }
    ]

inductive Fault
  | json (fault : Json.Fault)
  | missingPayload (type : EventType)
deriving DecidableEq, Repr

def Fault.kind : Fault → Json.Kind
  | .json fault => fault.kind
  | .missingPayload _ => .data

def Fault.message : Fault → String
  | .json fault => fault.message
  | .missingPayload type => type.name ++ " envelope is missing its typed payload"

def Draft.event (draft : Draft) : Except Fault Event :=
  match draft.type with
  | .valueMetric =>
    match draft.valueMetric with
    | some metric => .ok (.valueMetric metric)
    | none => .error (.missingPayload .valueMetric)
  | .counterEvent =>
    match draft.counterEvent with
    | some counter => .ok (.counterEvent counter)
    | none => .error (.missingPayload .counterEvent)
  | other => .ok (.other other)

def Draft.complete (draft : Draft) : Except Fault Envelope := do
  let event ← draft.event
  return {
    origin := draft.origin
    timestamp := draft.timestamp
    deployment := draft.deployment
    job := draft.job
    index := draft.index
    ip := draft.ip
    tags := draft.tags
    event
  }

/-- Reads an envelope. A missing payload is found before anything that trails the value. -/
def decode (text : List Char) : Except Fault Envelope := do
  let (draft, rest) ← (draftRecord.read text).mapError .json
  let envelope ← draft.complete
  (finish rest).mapError .json
  return envelope

end TelemetryRelay.Envelope
