import ExclusiveAudio.Configuration.Environment
import ExclusiveAudio.Configuration.Record

/-!
The settings of a player: the options of its sessions and what it plays. They come from a file
that the environment names, and from the environment itself, which wins.

What a document says is up to whoever reads it (`DocumentReader`). The reader for TOML is taken
where no other one is given.
-/

namespace ExclusiveAudio

structure PlayerSettings where
  format : SampleFormat := .s16
  rate : UInt32 := 48000
  channels : UInt32 := 2
  /-- The frequency of the tone. -/
  hz : Binary64 := .ofNat 440
  /-- How long to play; until interrupted without it. -/
  seconds : Option Nat := none
  deriving DecidableEq

structure Settings where
  options : Options := {}
  player : PlayerSettings := {}
  deriving DecidableEq

/-- What a document says, if it can be read. What it does not mention has its default. -/
structure DocumentReader where
  /-- The options at its top, before they are validated. -/
  options? : String → Option Options
  /-- The settings under its key `player`. -/
  player? : String → Option PlayerSettings

namespace Options

/-- The options that a record gives, before they are validated. -/
def ofRecord? (r : Toml.Record) : Option Options := do
  let defaults : Options := {}
  return {
    device := ← r.field? "device" 0 (fun v => v.text?.map some) defaults.device
    exclusive := ← r.field? "exclusive" 1 Toml.Value.boolean? defaults.exclusive
    disableMixing := ← r.field? "disable_mixing" 2 Toml.Value.boolean? defaults.disableMixing
    timeoutMillis :=
      ← r.field? "format_switch_timeout_ms" 3 (Toml.Value.count? UInt64.size) defaults.timeoutMillis
    pollMillis :=
      ← r.field? "format_switch_poll_ms" 4 (Toml.Value.count? UInt64.size) defaults.pollMillis }

end Options

namespace PlayerSettings

def ofRecord? (r : Toml.Record) : Option PlayerSettings := do
  let defaults : PlayerSettings := {}
  return {
    format := ← r.field? "format" 0 Toml.Value.sampleFormat? defaults.format
    rate := ← r.field? "sample_rate" 1 Toml.Value.word32? defaults.rate
    channels := ← r.field? "channels" 2 Toml.Value.word32? defaults.channels
    hz := ← r.field? "tone_hz" 3 Toml.Value.number? defaults.hz
    seconds := ← r.field? "seconds" 4 (fun v => (v.count? UInt64.size).map some) defaults.seconds }

end PlayerSettings

/-- Reads TOML. -/
def DocumentReader.toml : DocumentReader where
  options? text := (Toml.document? text).bind (Options.ofRecord? <| .named ·)
  player? text :=
    let read (value : Toml.Value) : Option PlayerSettings :=
      (Toml.Record.ofValue? value).bind PlayerSettings.ofRecord?
    (Toml.document? text).bind fun entries =>
      (Toml.Record.named entries).field? "player" 0 read {}

/-- The options of a document. -/
def Options.ofDocument (text : String) (reader : DocumentReader := .toml) :
    Except AudioError Options :=
  match reader.options? text with
  | some options => options.validate
  | none => .error (.config .document)

/-- The settings of a player in a document. -/
def PlayerSettings.ofDocument (text : String) (reader : DocumentReader := .toml) :
    Except AudioError PlayerSettings :=
  match reader.player? text with
  | some settings => .ok settings
  | none => .error (.config .document)

namespace Settings

def fileKey : String := "HOGOUT_CONFIG"
def listKey : String := "HOGOUT_LIST_DEVICES"
def secondsKey : String := "HOGOUT_SECONDS"
def hzKey : String := "HOGOUT_TONE_HZ"

/-- What the file says that the environment names, given a way to read files that answers the
text or the reason why there is none. -/
def ofFile (readFile : String → Except FileFailure String) (env : Environment)
    (reader : DocumentReader := .toml) : Except AudioError Settings :=
  match env.value? fileKey with
  | none => .ok {}
  | some path =>
    match readFile path with
    | .error reason => .error (.config (.unreadable path reason))
    | .ok text => do
      let player ← PlayerSettings.ofDocument text reader
      let options ← Options.ofDocument text reader
      return { options, player }

/-- The settings of the file, with those that the environment sets put in their place. -/
def load (readFile : String → Except FileFailure String) (env : Environment)
    (reader : DocumentReader := .toml) : Except AudioError Settings := do
  let file ← ofFile readFile env reader
  let seconds ← env.number? Environment.count? secondsKey
  let hz ← env.number? Binary64.ofText? hzKey
  let options ← file.options.withEnvironment env
  let player :=
    { file.player with seconds := seconds <|> file.player.seconds, hz := hz.getD file.player.hz }
  return { options, player }

/-- Whether the environment asks for a list of devices. -/
def wantsList (env : Environment) : Bool := env.flag listKey

end Settings

end ExclusiveAudio
