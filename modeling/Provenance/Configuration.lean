import Provenance.Subscription.Backoff
import Provenance.Text.Blank

/-!
# Configuration

The repository is configured by a handful of named settings.  A number that cannot be read counts as
not given, and intervals and sizes are at least one.

## Main definitions

* `Configuration` — the settings.
* `Configuration.ofSettings` — reads them.
* `SchedulerSettings` — what the scheduler needs of them.
-/

namespace Provenance

/-- The settings of a repository; times are in milliseconds. -/
structure Configuration where
  databasePath : String
  schemaDirectory : String
  tickInterval : Nat
  maxConcurrency : Nat
  channelBuffer : Nat
  deliveryTimeout : Nat
  retry : RetryPolicy
  deriving DecidableEq, Repr

/-- The settings of the scheduler. -/
structure SchedulerSettings where
  tickInterval : Nat
  maxConcurrency : Nat
  channelBuffer : Nat
  retry : RetryPolicy
  deriving DecidableEq, Repr

namespace Configuration

/-- Reads a number up to a bound without the blanks around it. -/
def readSetting (bound : Nat) (value : Option String) : Option Nat :=
  value.bind fun s => Text.readNat bound (Text.trim s.toList)

/-- Reads the settings from a look-up by name. -/
def ofSettings (lookup : String → Option String) : Configuration :=
  let number (key : String) (default : Nat) :=
    (readSetting Text.maxWord64 (lookup key)).getD default
  { databasePath := (lookup "EPCIS_DB_PATH").getD "traceflow.db"
    schemaDirectory := (lookup "EPCIS_SCHEMA_DIR").getD "sql"
    tickInterval := max (number "SUBSCRIPTION_TICK_INTERVAL_MS" 1000) 1
    maxConcurrency := max (number "SUBSCRIPTION_MAX_CONCURRENCY" 8) 1
    channelBuffer := max (number "SUBSCRIPTION_CHANNEL_BUFFER" 256) 1
    deliveryTimeout := number "DELIVERY_TIMEOUT_MS" 10000
    retry :=
      { initialDelay := number "DELIVERY_RETRY_INITIAL_MS" 1000
        maxDelay := number "DELIVERY_RETRY_MAX_MS" 60000
        limit := readSetting Text.maxWord32 (lookup "DELIVERY_RETRY_LIMIT") } }

/-- What the scheduler needs. -/
def scheduler (c : Configuration) : SchedulerSettings :=
  ⟨c.tickInterval, c.maxConcurrency, c.channelBuffer, c.retry⟩

end Configuration

end Provenance
