import ExclusiveAudio.System.Host

/-!
The reports that sessions and players make of what they do, and their texts.
-/

namespace ExclusiveAudio

/-- How much a report matters, least first. -/
inductive Level where
  | trace
  | debug
  | info
  | warn
  | error
  deriving DecidableEq

def Level.text : Level → String
  | .trace => "TRACE"
  | .debug => "DEBUG"
  | .info => "INFO"
  | .warn => "WARN"
  | .error => "ERROR"

inductive Report where
  -- the lease of a device
  | alreadyLeased (device : DeviceId)
  | ownerUnreadable (cause : AudioError)
  | leaseTaken (device : DeviceId) (owner : ProcessId)
  | leaseNotHeld (device : DeviceId)
  | leaseForeign (device : DeviceId) (owner : ProcessId)
  | leaseReleased (device : DeviceId)
  -- software mixing
  | mixingFixed (device : DeviceId)
  | mixingDisabled (device : DeviceId)
  | mixingRestored (device : DeviceId) (enabled : Bool)
  -- the choice of a stream
  | streamIsInput (index : Nat)
  | directionUnreadable (index : Nat) (cause : AudioError)
  | streamChosen (index total : Nat)
  | noStream (device : DeviceId)
  | formatsUnreadable (stream : StreamId) (cause : AudioError)
  -- negotiation and switching
  | candidate (format : StreamFormat)
  | desired (format : StreamFormat)
  | bestFormat (format : StreamFormat)
  | alreadyRuns (stream : StreamId) (format : StreamFormat)
  | requesting (stream : StreamId) (format : StreamFormat)
  | switchedTo (stream : StreamId) (format : StreamFormat)
  | stillAt (stream : StreamId) (format : StreamFormat)
  | formatUnreadable (stream : StreamId) (cause : AudioError)
  | alreadyAt (stream : StreamId) (format : StreamFormat)
  | virtualFormat (format : StreamFormat)
  -- latency
  | latency (property : LatencyProperty) (frames : UInt32)
  | latencyUnreadable (property : LatencyProperty) (cause : AudioError)
  | baseLatency (micros : Nat)
  -- the watch for changes
  | notified (source : NotificationSource)
  | liveUnreadable (cause : AudioError)
  | formatChanged
  | unwatchFailed (source : NotificationSource) (cause : AudioError)
  | watchUndoFailed (cause : AudioError)
  | requestDropped (reason : DroppedRequest)
  -- rendering
  | unalignedRead (bytes : Nat)
  -- sessions
  | entering (stage : Stage)
  | selected (device : DeviceId)
  | notAlive
  | aliveUnreadable (cause : AudioError)
  | selectionFailed (cause : AudioError)
  | leaseFailed (cause : AudioError)
  | mixingFailed (cause : AudioError)
  | stageFailed (stage : Stage) (cause : AudioError)
  | running (device : DeviceId) (params : OutputParams) (latencyMicros : Nat)
  | noSession
  | released (device : DeviceId)
  | watchRemains (cause : AudioError)
  | stopFailed (cause : AudioError)
  | removalFailed (cause : AudioError)
  | formatRemains (cause : AudioError)
  | mixingRemains (cause : AudioError)
  | leaseRemains (cause : AudioError)
  | pauseFailed (cause : AudioError)
  | resumeFailed (cause : AudioError)
  -- players
  | simulated
  | openedWith (name description : String)
  | playing (params : OutputParams)
  | reloading
  | interrupted
  | reloadFailed (cause : AudioError)
  -- commands
  | commandFailed (cause : AudioError)
  deriving DecidableEq

namespace Report

def level : Report → Level
  | entering _ => .trace
  | running .. | released _ | formatChanged | openedWith .. | playing _ | reloading
  | interrupted => .info
  | directionUnreadable .. | formatsUnreadable .. | latencyUnreadable .. | liveUnreadable _
  | watchUndoFailed _ | requestDropped _ | notAlive | aliveUnreadable _ | leaseFailed _
  | mixingFailed _ | watchRemains _ | stopFailed _ | removalFailed _ | formatRemains _
  | mixingRemains _ | leaseRemains _ | pauseFailed _ | resumeFailed _ | simulated => .warn
  | noStream _ | unalignedRead _ | selectionFailed _ | stageFailed .. | reloadFailed _
  | commandFailed _ => .error
  | _ => .debug

/-- What is played, without the device. -/
def played (params : OutputParams) : String :=
  toString params.rate.toNat ++ "Hz " ++ toString params.channels.toNat ++ "ch"

/-- The text of a report, given a way to write processes. -/
def text (process : ProcessId → String) : Report → String
  | alreadyLeased device => device.text ++ " is already hogged by this process"
  | ownerUnreadable cause => "could not read hog mode owner: " ++ cause.text
  | leaseTaken device owner =>
    "hog mode taken on " ++ device.text ++ " by pid " ++ process owner
  | leaseNotHeld device => "hog mode on " ++ device.text ++ " not held, nothing to release"
  | leaseForeign device owner =>
    "hog mode on " ++ device.text ++ " belongs to pid " ++ process owner ++ ", not releasing"
  | leaseReleased device => "hog mode released on " ++ device.text
  | mixingFixed device => device.text ++ " does not support changing mixing"
  | mixingDisabled device => "disabled mixing on " ++ device.text
  | mixingRestored device enabled =>
    "restored mixing on " ++ device.text ++ " to " ++ (if enabled then "true" else "false")
  | streamIsInput index => "substream " ++ toString index ++ " is not an output stream"
  | directionUnreadable index cause =>
    "could not get direction of substream " ++ toString index ++ ": " ++ cause.text
  | streamChosen index total => "using substream " ++ toString index ++ "/" ++ toString total
  | noStream device => "no usable substream found on " ++ device.text
  | formatsUnreadable stream cause =>
    "could not get formats of " ++ stream.text ++ ": " ++ cause.text
  | candidate format => "- " ++ format.text
  | desired format => "our format: " ++ format.text
  | bestFormat format => "best hardware format: " ++ format.text
  | alreadyRuns stream format => stream.text ++ " already runs " ++ format.text
  | requesting stream format =>
    "setting " ++ stream.text ++ " physical format to " ++ format.text
  | switchedTo stream format => stream.text ++ " switched to " ++ format.text
  | stillAt stream format => stream.text ++ " still at " ++ format.text
  | formatUnreadable stream cause =>
    "could not read " ++ stream.text ++ " physical format: " ++ cause.text
  | alreadyAt stream format => stream.text ++ " already at " ++ format.text
  | virtualFormat format => "virtual format: " ++ format.text
  | latency property frames => "latency " ++ property.code ++ ": " ++ toString frames.toNat
  | latencyUnreadable property cause =>
    "cannot get device latency " ++ property.code ++ ": " ++ cause.text
  | baseLatency micros => "base latency: " ++ toString micros ++ " microseconds"
  | notified source => "property notification from " ++ source.text
  | liveUnreadable cause => "could not get stream format: " ++ cause.text
  | formatChanged => "stream format changed, reloading"
  | unwatchFailed source cause =>
    "removing listener for " ++ source.text ++ " failed: " ++ cause.text
  | watchUndoFailed cause => "can't remove format change listener: " ++ cause.text
  | requestDropped reason => "dropping reload request: " ++ reason.text
  | unalignedRead bytes => "unsupported unaligned read of " ++ toString bytes ++ " bytes"
  | entering stage => "entering " ++ stage.text
  | selected device => "selected " ++ device.text
  | notAlive => "device is not alive"
  | aliveUnreadable cause => "could not check whether device is alive: " ++ cause.text
  | selectionFailed cause => "failed to select device: " ++ cause.text
  | leaseFailed cause => "failed to set hogmode: " ++ cause.text
  | mixingFailed cause => "failed to disable mixing: " ++ cause.text
  | stageFailed stage cause => stage.text ++ " failed: " ++ cause.text
  | running device params latencyMicros =>
    device.text ++ " running at " ++ played params ++ " " ++ params.format.label ++
      ", base latency " ++ toString latencyMicros ++ "us"
  | noSession => "uninit without an active session"
  | released device => device.text ++ " released"
  | watchRemains cause =>
    "can't remove device listener, this may cause a crash: " ++ cause.text
  | stopFailed cause => "failed to stop audio device: " ++ cause.text
  | removalFailed cause => "failed to remove device render callback: " ++ cause.text
  | formatRemains cause => "can't revert to original device format: " ++ cause.text
  | mixingRemains cause => "can't re-enable mixing: " ++ cause.text
  | leaseRemains cause => "can't release hog mode: " ++ cause.text
  | pauseFailed cause => "can't stop audio device: " ++ cause.text
  | resumeFailed cause => "can't start audio device: " ++ cause.text
  | simulated => "no CoreAudio on this platform, using the simulated device"
  | openedWith name description => "using " ++ name ++ " (" ++ description ++ ")"
  | playing params => "playing " ++ params.format.label ++ " " ++ played params
  | reloading => "reloading audio output"
  | interrupted => "interrupted"
  | reloadFailed cause => "reload failed: " ++ cause.text
  | commandFailed cause => cause.text

/-- A report with its level, on one line. -/
def line (process : ProcessId → String) (r : Report) : String :=
  r.level.text ++ " " ++ r.text process

end Report

end ExclusiveAudio
