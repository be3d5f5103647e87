import ExclusiveAudio.Configuration.Files
import ExclusiveAudio.Format.Stream
import ExclusiveAudio.Hardware.Status

/-!
How operations fail.

An `AudioError` is an answer: the caller learns the cause and everything it owns is still in its
hands. An overflow is no answer; it ends the operation where it stands. `Failure` is either.
-/

namespace ExclusiveAudio

/-- A process, by its number. -/
structure ProcessId where
  number : Int
  deriving DecidableEq

/-- How far the acquisition of a device has come. -/
inductive Stage where
  | idle
  | selecting
  | locking
  | streamSelecting
  | negotiating
  | switching
  | channelMapping
  | latencyComputing
  | watcherArming
  | callbackRegistering
  | running
  | stopped
  | failed
  deriving DecidableEq

def Stage.text : Stage → String
  | .idle => "idle"
  | .selecting => "device selection"
  | .locking => "device locking"
  | .streamSelecting => "stream selection"
  | .negotiating => "format negotiation"
  | .switching => "format switch"
  | .channelMapping => "channel mapping"
  | .latencyComputing => "latency computation"
  | .watcherArming => "format change listener installation"
  | .callbackRegistering => "render callback registration"
  | .running => "running"
  | .stopped => "stopped"
  | .failed => "failed"

/-- What is wrong with a configuration. -/
inductive ConfigProblem where
  /-- A setting that has to be a number is something else. -/
  | notANumber (setting value : String)
  | zeroPoll
  | timeoutBelowPoll
  /-- The file at a path cannot be read, for a reason. -/
  | unreadable (path : String) (reason : FileFailure)
  /-- The text of the file is no document, or not one of settings. -/
  | document
  | other (text : String)
  deriving DecidableEq

def ConfigProblem.text : ConfigProblem → String
  | .notANumber setting value => setting ++ "=" ++ value ++ " is not a number"
  | .zeroPoll => "format_switch_poll_ms must be greater than zero"
  | .timeoutBelowPoll => "format_switch_timeout_ms must be at least one poll interval"
  | .unreadable path reason => path ++ ": " ++ reason.text
  | .document => "not a document of settings"
  | .other text => text

/-- The cause of a refused request. -/
inductive AudioError where
  | hardware (operation : String) (status : Status)
  | deviceNotFound (name : String)
  | alreadyHeld (owner : ProcessId)
  | noUsableStream
  | noMatchingFormat (desired : StreamFormat)
  | switchTimeout (target : StreamFormat)
  | channelMap (reason : String)
  | channelCountChanged (requested found : UInt32)
  | unsupportedFormat (format : StreamFormat)
  | alreadyInitialized
  | acquisition (stage : Stage) (cause : AudioError)
  | config (problem : ConfigProblem)
  deriving DecidableEq

namespace AudioError

def text : AudioError → String
  | .hardware operation status => "CoreAudio " ++ operation ++ " failed: " ++ status.text
  | .deviceNotFound name => "audio device not found: " ++ name
  | .alreadyHeld owner => "device is exclusively held by process " ++ toString owner.number
  | .noUsableStream => "no usable output substream found"
  | .noMatchingFormat desired => "no physical format found for " ++ desired.text
  | .switchTimeout target => "timed out waiting for the stream to switch to " ++ target.text
  | .channelMap reason => "channel map initialization failed: " ++ reason
  | .channelCountChanged requested found =>
    "number of channels changed (" ++ toString requested.toNat ++ " -> " ++
      toString found.toNat ++ ") and layout is unknown"
  | .unsupportedFormat format => "hardware format not supported: " ++ format.text
  | .alreadyInitialized => "driver is already initialized"
  | .acquisition stage cause => stage.text ++ " failed: " ++ cause.text
  | .config problem => "invalid configuration: " ++ problem.text

/-- The stage that a failed acquisition had come to. -/
def stage? : AudioError → Option Stage
  | .acquisition stage _ => some stage
  | _ => none

end AudioError

/-- What keeps an operation from answering with a value. -/
inductive Failure where
  | error (cause : AudioError)
  | overflow (kind : Overflow)
  deriving DecidableEq

end ExclusiveAudio
