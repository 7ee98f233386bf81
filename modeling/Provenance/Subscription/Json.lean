import Provenance.Capture.Json
import Provenance.Subscription.Evaluation

/-!
# Queries and subscriptions in JSON

A schedule is written by the texts of its fields.  A schedule that was only read from JSON has no
ranges yet and covers every second; reading its texts again gives it its ranges.

## Main definitions

* `Parameter.ofJson`, `Poll.ofJson`, `Response.ofJson` — queries and their answers.
* `Schedule.ofJson`, `Subscription.ofJson` — subscriptions.
* `toJson` of each of them.
-/

namespace Provenance

open Json (ofOption ofList ofTime)

/-! ### Queries and answers -/

namespace Parameter

/-- The names of the members, in their order. -/
def memberNames : List String := ["name", "values"]

/-- Reads a parameter. -/
def ofJson (j : Json) : Option Parameter := do
  let j ← j.record? memberNames 0
  some ⟨← j.required "name" Json.text?, ← j.required "values" (Json.listOf Json.text?)⟩

/-- Writes a parameter. -/
def toJson (p : Parameter) : Json :=
  .object [("name", .string p.name), ("values", ofList .string p.values)]

end Parameter

namespace Poll

/-- The names of the members, in their order. -/
def memberNames : List String := ["query_name", "parameters"]

/-- Reads a poll. -/
def ofJson (j : Json) : Option Poll := do
  let j ← j.record? memberNames 1
  some ⟨← j.required "query_name" Json.text?, ← j.list "parameters" Parameter.ofJson⟩

/-- Writes a poll. -/
def toJson (p : Poll) : Json :=
  .object [("query_name", .string p.query), ("parameters", ofList Parameter.toJson p.parameters)]

end Poll

namespace Results

/-- Reads results: an object with one member, named for what they are. -/
def ofJson (j : Json) : Option Results :=
  match j.sole? with
  | some ("Events", v) => (Json.listOf Event.ofJson v).map events
  | some ("MasterData", v) => (Json.listOf MasterData.ofJson v).map masterData
  | _ => none

/-- Writes results. -/
def toJson : Results → Json
  | events es => .object [("Events", ofList Event.toJson es)]
  | masterData ms => .object [("MasterData", ofList MasterData.toJson ms)]

end Results

namespace Response

/-- The names of the members, in their order. -/
def memberNames : List String := ["query_name", "subscription_id", "results"]

/-- Reads an answer. -/
def ofJson (j : Json) : Option Response := do
  let j ← j.record? memberNames 0
  some ⟨← j.required "query_name" Json.text?, ← j.optional "subscription_id" Json.text?,
    ← j.required "results" Results.ofJson⟩

/-- Writes an answer. -/
def toJson (r : Response) : Json :=
  .object [
    ("query_name", .string r.query),
    ("subscription_id", ofOption .string r.subscription),
    ("results", r.results.toJson)]

end Response

/-! ### Subscriptions -/

namespace ScheduleField

/-- The names of the members, in their order. -/
def memberNames : List String := ["source"]

/-- Reads the text of a field. -/
def ofJson (j : Json) : Option ScheduleField := do
  let j ← j.record? memberNames 0
  some ⟨← j.optional "source" Json.text?, []⟩

/-- Writes the text of a field. -/
def toJson (f : ScheduleField) : Json := .object [("source", ofOption .string f.source)]

end ScheduleField

namespace Schedule

/-- The names of the members, in their order. -/
def memberNames : List String :=
  ["second", "minute", "hour", "day_of_month", "month", "day_of_week"]

/-- Reads the texts of a schedule. -/
def ofJson (j : Json) : Option Schedule := do
  let j ← j.record? memberNames 0
  some {
    second := ← j.required "second" ScheduleField.ofJson
    minute := ← j.required "minute" ScheduleField.ofJson
    hour := ← j.required "hour" ScheduleField.ofJson
    dayOfMonth := ← j.required "day_of_month" ScheduleField.ofJson
    month := ← j.required "month" ScheduleField.ofJson
    dayOfWeek := ← j.required "day_of_week" ScheduleField.ofJson }

/-- Writes the texts of a schedule. -/
def toJson (s : Schedule) : Json :=
  .object [
    ("second", s.second.toJson),
    ("minute", s.minute.toJson),
    ("hour", s.hour.toJson),
    ("day_of_month", s.dayOfMonth.toJson),
    ("month", s.month.toJson),
    ("day_of_week", s.dayOfWeek.toJson)]

end Schedule

namespace Trigger

/-- Reads a trigger: an object with one member, named for its kind. -/
def ofJson (j : Json) : Option Trigger :=
  match j.sole? with
  | some ("Schedule", v) => (Schedule.ofJson v).map schedule
  | some ("DataInsert", v) => v.text?.map capture
  | _ => none

/-- Writes a trigger. -/
def toJson : Trigger → Json
  | schedule s => .object [("Schedule", s.toJson)]
  | capture uri => .object [("DataInsert", .string uri)]

end Trigger

namespace Subscription

/-- The names of the members, in their order. -/
def memberNames : List String :=
  ["id", "subscription_id", "query_name", "parameters", "destination", "active", "report_if_empty",
    "initial_record_time", "trigger"]

/-- Reads a subscription. -/
def ofJson (j : Json) : Option Subscription := do
  let j ← j.record? memberNames 0
  some {
    id := ← j.optional "id" Json.word?
    name := ← j.required "subscription_id" Json.text?
    query := ← j.required "query_name" Json.text?
    parameters := ← j.list "parameters" Parameter.ofJson
    destination := ← j.required "destination" Json.text?
    active := ← j.required "active" Json.flag?
    reportIfEmpty := ← j.required "report_if_empty" Json.flag?
    initialRecordTime := ← j.optional "initial_record_time" Json.time?
    trigger := ← j.required "trigger" Trigger.ofJson }

/-- Writes a subscription. -/
def toJson (s : Subscription) : Json :=
  .object [
    ("id", ofOption .integer s.id),
    ("subscription_id", .string s.name),
    ("query_name", .string s.query),
    ("parameters", ofList Parameter.toJson s.parameters),
    ("destination", .string s.destination),
    ("active", .bool s.active),
    ("report_if_empty", .bool s.reportIfEmpty),
    ("initial_record_time", ofOption ofTime s.initialRecordTime),
    ("trigger", s.trigger.toJson)]

end Subscription

end Provenance
