import ExclusiveAudio.Format.Stream
import ExclusiveAudio.Json.Quoted
import ExclusiveAudio.Json.Tree

/-!
Stream formats as JSON documents.

A format is an object with all of its eight fields, once each and among others that mean nothing,
or a list of their values in order. The keys of the object have to be texts; those of objects
within it do not matter.
-/

namespace ExclusiveAudio.StreamFormat

open Json (Tree)

/-- The names of the fields, in order. -/
def fieldNames : List String := [
  "sample_rate", "format_id", "format_flags", "bytes_per_packet", "frames_per_packet",
  "bytes_per_frame", "channels_per_frame", "bits_per_channel"]

def rateOf? : Tree → Option Binary64
  | .number n => n.value?
  | _ => none

def wordOf? : Tree → Option UInt32
  | .number n => n.word32?
  | _ => none

/-- The format with given values of its fields, in order. -/
def ofValues? : List Tree → Option StreamFormat
  | rate :: words => do
    let rate ← rateOf? rate
    match ← words.mapM wordOf? with
    | [id, flags, bytesPerPacket, framesPerPacket, bytesPerFrame, channels, bitsPerChannel] =>
      return {
        rate, id, flags, bytesPerPacket, framesPerPacket, bytesPerFrame, channels,
        bitsPerChannel }
    | _ => none
  | [] => none

/-- The one value of a key; `none` if there is none or several. -/
def only? (entries : List (Option String × Tree)) (key : String) : Option Tree :=
  match entries.filter (·.1 = some key) with
  | [(_, value)] => some value
  | _ => none

def ofTree? : Tree → Option StreamFormat
  | .object entries =>
    if entries.any (·.1.isNone) then none
    else do ofValues? (← fieldNames.mapM (only? entries))
  | .list items => ofValues? items
  | _ => none

/-- Reads a format. -/
def ofJson? (text : String) : Option StreamFormat := do ofTree? (← Json.document? text)

/-- Rates have plain digits up to 16 before the point, or with up to four zeros after it, and
whole ones end in a zero after the point. -/
def rateLayout : Binary64.Layout := ⟨16, 4, ".0"⟩

/-- Writes a format with a finite rate. -/
def json (f : StreamFormat) : String :=
  let words := [
    f.id, f.flags, f.bytesPerPacket, f.framesPerPacket, f.bytesPerFrame, f.channels,
    f.bitsPerChannel]
  let values := f.rate.shortestText rateLayout :: words.map fun w => toString w.toNat
  let field (name value : String) : String := Json.quote name ++ ":" ++ value
  "\x7b" ++ ",".intercalate (List.zipWith field fieldNames values) ++ "\x7d"

end ExclusiveAudio.StreamFormat
