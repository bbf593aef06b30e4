import NoteMuse.Files
import NoteMuse.Format.Ron.Reader

/-!
The settings of an engine. Each may be left out of a configuration file; three of them have a
smallest value.
-/

namespace NoteMuse

open Format

/-- The settings of an engine. -/
structure Config where
  /-- How long a geist may take, in thousandths of a second. -/
  timeoutMs : Nat
  /-- After so many failures in a row a geist is disabled. -/
  failureThreshold : UInt32
  maxDepth : Nat
  clusterDelimiter : String
  /-- How many suggestions a grammar geist makes when its file does not say. -/
  defaultCount : Nat
  deriving DecidableEq, Repr

/-- Why there are no settings. -/
inductive ConfigError where
  | unreadable (cause : FileError)
  | ron (cause : FormatError)
  | noThreshold
  | noDelimiter
  | noTime
  deriving DecidableEq, Repr

def ConfigError.message : ConfigError → String
  | unreadable e => "IO error: " ++ e.message
  | ron e => "RON deserialization error: " ++ e.reason
  | noThreshold => "invalid config: failure_threshold must be at least 1"
  | noDelimiter => "invalid config: cluster_delimiter must not be empty"
  | noTime => "invalid config: timeout_ms must be positive"

namespace Config

/-- The settings of an engine that is given none. -/
def standard : Config where
  timeoutMs := 5000
  failureThreshold := 3
  maxDepth := 10
  clusterDelimiter := "|||"
  defaultCount := 1

/-- The settings, when an engine can work with them. -/
def check (c : Config) : Except ConfigError Config :=
  if c.failureThreshold = 0 then .error .noThreshold
  else if c.clusterDelimiter.isEmpty then .error .noDelimiter
  else if c.timeoutMs = 0 then .error .noTime
  else .ok c

def decoder : Decoder Config := fun d =>
  d.structured "EngineConfig" standard [
    .optional "timeout_ms" (d.natural wordLimit) fun timeoutMs c => { c with timeoutMs },
    .optional "failure_threshold" (d.natural UInt32.size)
      fun n c => { c with failureThreshold := n.toUInt32 },
    .optional "max_depth" (d.natural wordLimit) fun maxDepth c => { c with maxDepth },
    .optional "cluster_delimiter" d.text fun clusterDelimiter c => { c with clusterDelimiter },
    .optional "default_count" (d.natural wordLimit) fun defaultCount c => { c with defaultCount }]

def ofRon (text : String) : Except ConfigError Config := do
  (← (Ron.decode decoder text).mapError .ron).check

def load (content : Except FileError String) : Except ConfigError Config := do
  ofRon (← content.mapError .unreadable)

/-- The settings with another time limit, in millionths of a second; it is at least one thousandth. -/
def withTimeout (micros : Nat) (c : Config) : Config := { c with timeoutMs := max (micros / 1000) 1 }

end Config

end NoteMuse
