import Mathlib.Data.Rat.Defs
import Lakehouse.Compactor.LeaseText
import Lakehouse.Foundation.FloatRounding
import Lakehouse.Foundation.JsonLines
import Lakehouse.Foundation.Loop
import Lakehouse.Foundation.Rounding

/-!
# The event producer

The events and the bad payloads which the producer makes of its draws, and its loop as a program
over the draws, the clock and the messages which it sends.
-/

namespace Lakehouse

open Foundation
open Foundation.Binary64 (ofDecimal)
open Foundation.Calendar (DateTime InRange)
open Foundation.Json (entry)
open Foundation.Json.Value (ofText ofFloat)

/-- `datetime.now(UTC)`. -/
abbrev Instant := { instant : Int // InRange instant }

/-- `now.isoformat()` -/
def Instant.isoformat (now : Instant) : String :=
  String.ofList (Iso.isoformat (DateTime.ofInstant now) (some 0))

/-! ## Bad payloads -/

def missingEventId (now : Instant) : String :=
  String.ofList
    (Json.Value.object
      [entry "user_id" (ofText "user_00001"),
        entry "account_id" (ofText "acct_00001"),
        entry "event_type" (ofText "purchase"),
        entry "amount" (ofFloat (ofDecimal false 100 (-1))),
        entry "event_timestamp" (ofText now.isoformat)]).write

def nullEventTimestamp : String :=
  String.ofList
    (Json.Value.object
      [entry "event_id" (ofText "evt-bad-null-ts"),
        entry "user_id" (ofText "user_00002"),
        entry "account_id" (ofText "acct_00002"),
        entry "event_type" (ofText "purchase"),
        entry "amount" (ofFloat (ofDecimal false 100 (-1))),
        entry "event_timestamp" .null]).write

def invalidAmount (now : Instant) : String :=
  String.ofList
    (Json.Value.object
      [entry "event_id" (ofText "evt-bad-amount"),
        entry "user_id" (ofText "user_00003"),
        entry "account_id" (ofText "acct_00003"),
        entry "event_type" (ofText "refund"),
        entry "amount" (ofText "not-a-number"),
        entry "event_timestamp" (ofText now.isoformat)]).write

def malformedJson : String := "\x7b\"event_id\": \"evt-bad-json\", \"user_id\": "

/-! ## Events -/

def eventTypes : List String :=
  ["purchase", "refund", "login", "logout", "click", "view", "signup"]

def regions : List String := ["us-east", "us-west", "eu-central", "ap-south", "ap-northeast"]

def deviceTypes : List String := ["mobile", "desktop", "tablet", "tv", "wearable"]

/-- A draw of `random.uniform(0.5, 999.99)`; both ends may be drawn. -/
structure UniformAmount where
  number : Binary64.Finite
  positive : number.negative = false
  least : ∃ low, ofDecimal false 50 (-2) = .finite low ∧ low.units ≤ number.units
  most : ∃ high, ofDecimal false 99999 (-2) = .finite high ∧ number.units ≤ high.units

/-- `round(value, 2)` -/
def UniformAmount.rounded (amount : UniformAmount) : Binary64.Value :=
  (Binary64.Value.finite amount.number).roundTo 2

/-- What `generate_event` makes its dictionary of. -/
structure GeneratedEvent where
  sequence : Nat
  now : Instant
  /-- `uuid.uuid4().hex[:8]` -/
  hex : String
  user : Nat
  account : Nat
  eventType : String
  amount : UniformAmount
  region : String
  deviceType : String
  eventType_mem : eventType ∈ eventTypes

/-- A number with at least so many digits. -/
def paddedText (width number : Nat) : String := String.ofList (Iso.padded width number)

namespace GeneratedEvent

variable (event : GeneratedEvent)

def eventId : String := "evt-" ++ paddedText 10 event.sequence ++ "-" ++ event.hex

def userId : String := "user_" ++ paddedText 5 event.user

def accountId : String := "acct_" ++ paddedText 5 event.account

/-- The dictionary which `generate_event` returns. -/
def toDict : List (List Char × Json.Value) :=
  [entry "event_id" (ofText event.eventId),
    entry "user_id" (ofText event.userId),
    entry "account_id" (ofText event.accountId),
    entry "event_type" (ofText event.eventType),
    entry "amount" (ofFloat event.amount.rounded),
    entry "event_timestamp" (ofText (utcNowIso event.now)),
    entry "ingest_timestamp" (ofText (utcNowIso event.now)),
    entry "region" (ofText event.region),
    entry "device_type" (ofText event.deviceType)]

end GeneratedEvent

/-! ## Messages -/

/-- A message for Kafka; its texts are encoded when it is sent. -/
structure Message where
  key : Option String
  value : String
  deriving DecidableEq

def GeneratedEvent.message (event : GeneratedEvent) : Message where
  key := event.eventId
  value := String.ofList (Json.Value.object event.toDict).write

/-! ## Calls -/

/-- The calls of the producer to its environment. -/
inductive ProducerCall
  /-- The value of `_running`. -/
  | running
  /-- `time.monotonic()`. -/
  | monotonic
  /-- `random.random()`. -/
  | random
  /-- `random.choice` of so many items, by the position of the item. -/
  | choice (count : Nat)
  | randint (low high : Nat)
  | uniform
  | uuidHex
  | now
  | produce (message : Message)
  | poll
  | sleep (duration : ℚ)
  /-- The log line about the events published so far. -/
  | published (sequence : Nat)
  | flush
  /-- The last log line. -/
  | stopped (sequence : Nat)

abbrev ProducerReply : ProducerCall → Type
  | .running => Bool
  | .monotonic => ℚ
  | .random => ℚ
  | .choice count => Fin count
  | .randint low high => { number : Nat // low ≤ number ∧ number ≤ high }
  | .uniform => UniformAmount
  | .uuidHex => String
  | .now => Instant
  | .produce _ => Except PyException Unit
  | .poll => Unit
  | .sleep _ => Unit
  | .published _ => Unit
  | .flush => Unit
  | .stopped _ => Unit

abbrev ProducerProgram := Program ProducerCall ProducerReply PyException

/-- `BAD_EVENT_GENERATORS` -/
def badEventGenerators : List (ProducerProgram String) :=
  [do
      let now ← Program.perform ProducerCall.now
      return missingEventId now,
    return nullEventTimestamp,
    do
      let now ← Program.perform ProducerCall.now
      return invalidAmount now,
    return malformedJson]

def generateEvent (sequence : Nat) : ProducerProgram GeneratedEvent := do
  let now ← Program.perform ProducerCall.now
  let hex ← Program.perform ProducerCall.uuidHex
  let user ← Program.perform (ProducerCall.randint 1 50000)
  let account ← Program.perform (ProducerCall.randint 1 10000)
  let eventType ← Program.perform (ProducerCall.choice eventTypes.length)
  let amount ← Program.perform ProducerCall.uniform
  let region ← Program.perform (ProducerCall.choice regions.length)
  let deviceType ← Program.perform (ProducerCall.choice deviceTypes.length)
  return {
    sequence, now, hex, amount
    user := user.val
    account := account.val
    eventType := eventTypes.get eventType
    region := regions.get region
    deviceType := deviceTypes.get deviceType
    eventType_mem := List.get_mem _ _ }

/-! ## The loop -/

/-- The settings of `main`; both integers are small enough for a float. -/
structure ProducerSettings where
  eventsPerSecond : Int := 50
  batchSize : Int := 100
  badEventRate : ℚ := 2 / 100

namespace ProducerSettings

variable (settings : ProducerSettings)

/-- `max(eps, 1)` -/
def rate : ℚ := (max settings.eventsPerSecond 1 : Int)

/-- `1.0 / max(eps, 1)` -/
def interval : ℚ := nearestFloat (1 / nearestFloat settings.rate)

/-- The time which a batch is to take. -/
def target : ℚ := nearestFloat (nearestFloat settings.batchSize * settings.interval)

/-- `bad_event_rate > 0 and random.random() < bad_event_rate` -/
def drawBad : ProducerProgram Bool :=
  if settings.badEventRate > 0 then do
    let draw ← Program.perform ProducerCall.random
    return draw < settings.badEventRate
  else
    return false

/-- Hand a message to the client, which may raise. -/
def produce (message : Message) : ProducerProgram Unit := do
  let reply ← Program.perform (ProducerCall.produce message)
  Program.ofExcept reply

def publishOne (sequence : Nat) : ProducerProgram Unit := do
  if ← settings.drawBad then
    let index ← Program.perform (ProducerCall.choice badEventGenerators.length)
    let rawPayload ← badEventGenerators.get index
    produce { key := none, value := rawPayload }
  else
    let event ← generateEvent sequence
    produce event.message

/-- The rest of a batch, from the number of events so far to the number after it. -/
def publishBatch : Nat → Nat → ProducerProgram Nat
  | 0, sequence => return sequence
  | remaining + 1, sequence => do
      if ← Program.perform ProducerCall.running then
        settings.publishOne (sequence + 1)
        publishBatch remaining (sequence + 1)
      else
        return sequence

/-- Sleep for what is left of the time of a batch. -/
def sleepRest (elapsed : ℚ) : ProducerProgram Unit :=
  if elapsed < settings.target then
    Program.perform (ProducerCall.sleep (nearestFloat (settings.target - elapsed)))
  else
    return ()

/-- Every 1000 events are logged. -/
def logPublished (sequence : Nat) : ProducerProgram Unit :=
  if sequence % 1000 = 0 then
    Program.perform (ProducerCall.published sequence)
  else
    return ()

/-- What comes behind a batch. -/
def finishBatch (batchStart : ℚ) (sequence : Nat) : ProducerProgram Unit := do
  Program.perform ProducerCall.poll
  let batchEnd ← Program.perform ProducerCall.monotonic
  settings.sleepRest (nearestFloat (batchEnd - batchStart))
  logPublished sequence

/-- One round of the loop; whether it goes on. -/
def round (sequence : Nat) : ProducerProgram (Nat × Bool) := do
  if ← Program.perform ProducerCall.running then
    let batchStart ← Program.perform ProducerCall.monotonic
    let sequence ← settings.publishBatch settings.batchSize.toNat sequence
    settings.finishBatch batchStart sequence
    return (sequence, true)
  else
    return (sequence, false)

/-- What comes behind the loop. -/
def shutDown : Nat × Bool → ProducerProgram Unit
  | (_, true) => return ()
  | (sequence, false) => do
      Program.perform ProducerCall.flush
      Program.perform (ProducerCall.stopped sequence)

/-- `main`, cut off after a number of rounds. -/
def main (count : Nat) : ProducerProgram Unit := do
  let last ← Program.roundsFrom settings.round count 0
  shutDown last

end ProducerSettings

end Lakehouse
