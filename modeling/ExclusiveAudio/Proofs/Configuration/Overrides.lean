import ExclusiveAudio.Configuration.Settings
import Mathlib.Data.List.TakeWhile
import Mathlib.Data.Nat.Digits.Defs
import Mathlib.Tactic.Ring

/-!
Options from the environment, as a merge.

A variable sets a text, its value without the white space around it, unless there is nothing else in
it (`Environment.Sets`). What it sets takes the place of what the option was before, and all that is
not set stays (`Environment.Merges`). The merge is validated as a whole; so it can be repeated
without any effect, and whatever options come from a document or from the settings have a poll
interval that is no longer than their timeout.
-/

namespace ExclusiveAudio

/-! ## White space -/

namespace Text

/-- There is nothing but white space in a text. -/
def AllBlank (s : String) : Prop := ∀ c ∈ s.toList, isBlank c

instance : DecidablePred AllBlank := fun s => List.decidableBAll (isBlank ·) s.toList

theorem dropBlankEnd_append {after : List Char} (h : ∀ c ∈ after, isBlank c) (cs : List Char) :
    dropBlankEnd (cs ++ after) = dropBlankEnd cs := by
  unfold dropBlankEnd
  rw [List.reverse_append, List.dropWhile_append_of_pos fun c hc => h c (List.mem_reverse.mp hc)]

theorem trimChars_append {after : List Char} (h : ∀ c ∈ after, isBlank c) (cs : List Char) :
    trimChars (cs ++ after) = trimChars cs := by
  unfold trimChars
  rw [List.dropWhile_append]
  split
  · next hempty =>
    rw [List.isEmpty_iff.mp hempty, List.dropWhile_eq_nil_iff.mpr h]
  · exact dropBlankEnd_append h _

theorem trimChars_eq_nil_iff {cs : List Char} : trimChars cs = [] ↔ ∀ c ∈ cs, isBlank c := by
  have hend (ds : List Char) : dropBlankEnd ds = [] ↔ ∀ c ∈ ds, isBlank c := by
    simp [dropBlankEnd, List.dropWhile_eq_nil_iff]
  unfold trimChars
  rw [hend]
  constructor
  · intro h
    cases hrest : cs.dropWhile isBlank with
    | nil => exact List.dropWhile_eq_nil_iff.mp hrest
    | cons c rest =>
      have hkept := List.head_dropWhile_not isBlank (l := cs) (by simp [hrest])
      have hblank := h c (by simp [hrest])
      simp [hrest, hblank] at hkept
  · exact fun h c hc => h c ((List.dropWhile_suffix isBlank).subset hc)

theorem trim_eq_empty_iff {s : String} : trim s = "" ↔ AllBlank s := by
  rw [AllBlank, ← trimChars_eq_nil_iff, ← toList_trim, String.toList_eq_nil_iff]

/-- White space around a text makes no difference. -/
theorem trim_pad {before after : String} (hbefore : AllBlank before) (hafter : AllBlank after)
    (s : String) : trim (before ++ s ++ after) = trim s := by
  have hchars : trimChars (before ++ s ++ after).toList = trimChars s.toList := by
    rw [String.toList_append, String.toList_append, trimChars_append hafter, trimChars, trimChars,
      List.dropWhile_append_of_pos hbefore]
  rw [trim, hchars, trim]

end Text

/-! ## Counts -/

namespace Numeral

/-- The number that characters stand for: one or more decimal digits, most significant first, with
at most a plus sign before them. -/
def Denotes (text : List Char) (n : Nat) : Prop :=
  ∃ digits, (text = digits ∨ text = '+' :: digits) ∧ digits ≠ [] ∧
    (∀ c ∈ digits, '0' ≤ c ∧ c ≤ '9') ∧
    n = Nat.ofDigits 10 (digits.map fun c => c.toNat - '0'.toNat).reverse

theorem foldlM_digit?_eq_some_iff (cs : List Char) (total n : Nat) :
    cs.foldlM (fun total c => (digit? c).map (total * 10 + ·)) total = some n ↔
      (∀ c ∈ cs, '0' ≤ c ∧ c ≤ '9') ∧
        n = total * 10 ^ cs.length +
          Nat.ofDigits 10 (cs.map fun c => c.toNat - '0'.toNat).reverse := by
  induction cs generalizing total with
  | nil => simp [eq_comm]
  | cons c cs ih =>
    rw [List.foldlM_cons]
    by_cases hc : '0' ≤ c ∧ c ≤ '9'
    · have hdigit : digit? c = some (c.toNat - '0'.toNat) := if_pos hc
      rw [hdigit, Option.map_some, Option.bind_eq_bind, Option.bind_some, ih, List.forall_mem_cons,
        and_iff_right hc, List.map_cons, List.reverse_cons, Nat.ofDigits_append,
        Nat.ofDigits_singleton, List.length_reverse, List.length_map, List.length_cons]
      have hsum : (total * 10 + (c.toNat - '0'.toNat)) * 10 ^ cs.length +
          Nat.ofDigits 10 (cs.map fun c => c.toNat - '0'.toNat).reverse =
          total * 10 ^ (cs.length + 1) +
          (Nat.ofDigits 10 (cs.map fun c => c.toNat - '0'.toNat).reverse +
            10 ^ cs.length * (c.toNat - '0'.toNat)) := by ring
      rw [hsum]
    · have hdigit : digit? c = none := if_neg hc
      simp [hdigit, hc]

theorem value?_eq_some_iff {digits : List Char} {n : Nat} : value? digit? 10 digits = some n ↔
    (∀ c ∈ digits, '0' ≤ c ∧ c ≤ '9') ∧
      n = Nat.ofDigits 10 (digits.map fun c => c.toNat - '0'.toNat).reverse := by
  rw [value?, foldlM_digit?_eq_some_iff, Nat.zero_mul, Nat.zero_add]

theorem count?_eq_some_iff {limit n : Nat} {text : List Char} :
    count? limit text = some n ↔ Denotes text n ∧ n < limit := by
  have hread (digits : List Char) :
      (if digits.isEmpty then none else (value? digit? 10 digits).filter (· < limit)) = some n ↔
        (digits ≠ [] ∧ (∀ c ∈ digits, '0' ≤ c ∧ c ≤ '9') ∧
          n = Nat.ofDigits 10 (digits.map fun c => c.toNat - '0'.toNat).reverse) ∧ n < limit := by
    cases digits with
    | nil => simp
    | cons c cs =>
      rw [List.isEmpty_cons, if_neg Bool.false_ne_true, Option.filter_eq_some_iff,
        value?_eq_some_iff]
      simp
  unfold count?
  dsimp only
  split
  · next rest =>
    rw [hread]
    refine and_congr_left' ⟨fun h => ⟨rest, .inr rfl, h⟩, ?_⟩
    rintro ⟨digits, rfl | h, hdigits⟩
    · exact absurd (hdigits.2.1 '+' (by simp)) (by decide)
    · cases h
      exact hdigits
  · next hsign =>
    rw [hread]
    refine and_congr_left' ⟨fun h => ⟨text, .inl rfl, h⟩, ?_⟩
    rintro ⟨digits, rfl | rfl, hdigits⟩
    · exact hdigits
    · exact absurd rfl (hsign digits)

end Numeral

/-! ## Variables -/

namespace Environment

variable {env : Environment} {key text : String}

/-- A variable sets a text: its value without the white space around it, if that leaves anything. -/
def Sets (env : Environment) (key text : String) : Prop :=
  ∃ raw, env key = some raw ∧ ¬Text.AllBlank raw ∧ text = Text.trim raw

/-- A variable sets nothing: there is none, or nothing but white space in it. -/
def SetsNothing (env : Environment) (key : String) : Prop :=
  ∀ raw, env key = some raw → Text.AllBlank raw

theorem value?_eq_some_iff : env.value? key = some text ↔ env.Sets key text := by
  simp only [value?, Sets, Option.filter_eq_some_iff, Option.map_eq_some_iff, decide_eq_true_eq,
    ← Text.trim_eq_empty_iff]
  constructor
  · rintro ⟨⟨raw, hraw, rfl⟩, hne⟩
    exact ⟨raw, hraw, hne, rfl⟩
  · rintro ⟨raw, hraw, hne, rfl⟩
    exact ⟨⟨raw, hraw, rfl⟩, hne⟩

theorem value?_eq_none_iff : env.value? key = none ↔ env.SetsNothing key := by
  simp [value?, SetsNothing, ← Text.trim_eq_empty_iff]

/-- What a variable sets has no white space around it. -/
theorem Sets.trim_eq (h : env.Sets key text) : Text.trim text = text := by
  obtain ⟨raw, -, -, rfl⟩ := h
  exact Text.trim_trim raw

/-- Blank variables are as good as none. -/
theorem value?_drop_blank (env : Environment) (key : String) :
    value? (fun key => (env key).filter fun raw => ¬Text.AllBlank raw) key = env.value? key := by
  cases hraw : env key with
  | none => simp [value?, hraw]
  | some raw =>
    by_cases hblank : Text.AllBlank raw
    · have hempty := Text.trim_eq_empty_iff.mpr hblank
      simp [value?, hraw, hblank, hempty, Option.filter_some]
    · simp [value?, hraw, hblank, Option.filter_some]

/-- White space around values makes no difference. -/
theorem value?_pad {before after : String → String} (hbefore : ∀ key, Text.AllBlank (before key))
    (hafter : ∀ key, Text.AllBlank (after key)) (env : Environment) (key : String) :
    value? (fun key => (env key).map fun raw => before key ++ raw ++ after key) key =
      env.value? key := by
  simp only [value?, Option.map_map]
  cases env key with
  | none => rfl
  | some raw => simp [Text.trim_pad (hbefore key) (hafter key)]

/-! ## The merge -/

/-- What becomes of a setting: what the text of its variable means takes its place, if that sets
one, and otherwise it stays as it was. -/
def Puts {α : Type} (env : Environment) (key : String) (means : String → α → Prop)
    (before after : α) : Prop :=
  (∃ text, env.Sets key text ∧ means text after) ∨ (env.SetsNothing key ∧ after = before)

/-- The texts that mean yes, in letters of either case, are known; all others mean no. -/
def MeansFlag (text : String) (yes : Bool) : Prop :=
  yes = true ↔ Text.asciiLower text ∈ ["1", "true", "yes", "on"]

/-- A count of 64 bits in decimal notation. -/
def MeansCount (text : String) (n : Nat) : Prop :=
  Numeral.Denotes text.toList n ∧ n < UInt64.size

/-- Options with what an environment sets in the place of what they were. -/
structure Merges (env : Environment) (o o' : Options) : Prop where
  device : env.Puts Options.deviceKey (fun text device => device = some text) o.device o'.device
  exclusive : env.Puts Options.exclusiveKey MeansFlag o.exclusive o'.exclusive
  disableMixing : env.Puts Options.disableMixingKey MeansFlag o.disableMixing o'.disableMixing
  timeout : env.Puts Options.timeoutKey MeansCount o.timeoutMillis o'.timeoutMillis
  poll : o'.pollMillis = o.pollMillis

section Puts

variable {α : Type} {means : String → α → Prop} {before after : α}

theorem puts_of_sets (h : env.value? key = some text) :
    env.Puts key means before after ↔ means text after := by
  have hnot : ¬env.SetsNothing key := by
    rw [← value?_eq_none_iff, h]
    exact Option.some_ne_none text
  have hsame (text' : String) : env.Sets key text' ↔ text' = text := by
    rw [← value?_eq_some_iff, h, Option.some.injEq, eq_comm]
  simp [Puts, hnot, hsame]

theorem puts_of_setsNothing (h : env.value? key = none) :
    env.Puts key means before after ↔ after = before := by
  have hnot (text : String) : ¬env.Sets key text := by rw [← value?_eq_some_iff, h]; simp
  simp [Puts, hnot, value?_eq_none_iff.mp h]

/-- What is put in place is there when it is put in place once more. -/
theorem Puts.again (h : env.Puts key means before after) : env.Puts key means after after :=
  h.imp_right fun ⟨hnothing, _⟩ => ⟨hnothing, rfl⟩

end Puts

theorem Merges.again {o o' : Options} (h : env.Merges o o') : env.Merges o' o' :=
  ⟨h.device.again, h.exclusive.again, h.disableMixing.again, h.timeout.again, rfl⟩

theorem meansFlag_iff {yes : Bool} (htrim : Text.trim text = text) :
    MeansFlag text yes ↔ yes = parseFlag text := by
  rw [MeansFlag, parseFlag, htrim, ← List.contains_iff_mem, ← Bool.eq_iff_iff]

theorem puts_flag_iff {before after : Bool} :
    env.Puts key MeansFlag before after ↔ after = Options.flagOr env key before := by
  unfold Options.flagOr flag
  cases hvalue : env.value? key with
  | none => simp [puts_of_setsNothing hvalue]
  | some text =>
    rw [puts_of_sets hvalue, meansFlag_iff (value?_eq_some_iff.mp hvalue).trim_eq]
    simp

theorem puts_text_iff {before after : Option String} :
    env.Puts key (fun text set => set = some text) before after ↔
      after = (env.value? key <|> before) := by
  cases hvalue : env.value? key with
  | none => simp [puts_of_setsNothing hvalue]
  | some text => simp [puts_of_sets hvalue]

theorem meansCount_iff {n : Nat} : MeansCount text n ↔ count? text = some n :=
  Numeral.count?_eq_some_iff.symm

/-- A count is put in place exactly if the variable can be read. -/
theorem puts_count_iff {before after : Nat} :
    env.Puts key MeansCount before after ↔
      ∃ set, env.number? count? key = .ok set ∧ after = set.getD before := by
  unfold number?
  cases hvalue : env.value? key with
  | none => simp [puts_of_setsNothing hvalue]
  | some text =>
    rw [puts_of_sets hvalue, meansCount_iff]
    cases hcount : count? text with
    | none => simp [hcount]
    | some n => simpa [hcount] using eq_comm

theorem number?_eq_error_iff {cause : AudioError} : env.number? count? key = .error cause ↔
    ∃ text, env.Sets key text ∧ (∀ n, ¬MeansCount text n) ∧
      cause = .config (.notANumber key text) := by
  simp only [← value?_eq_some_iff, meansCount_iff, ← Option.eq_none_iff_forall_ne_some, number?]
  cases hvalue : env.value? key with
  | none => simp
  | some text => cases hcount : count? text <;> simp [hcount, eq_comm]

/-- The merge as it is computed. -/
theorem merges_iff {o o' : Options} : env.Merges o o' ↔
    ∃ timeout, env.number? count? Options.timeoutKey = .ok timeout ∧ o' =
      { device := env.value? Options.deviceKey <|> o.device
        exclusive := Options.flagOr env Options.exclusiveKey o.exclusive
        disableMixing := Options.flagOr env Options.disableMixingKey o.disableMixing
        timeoutMillis := timeout.getD o.timeoutMillis
        pollMillis := o.pollMillis } := by
  constructor
  · intro h
    obtain ⟨timeout, hread, htimeout⟩ := puts_count_iff.mp h.timeout
    refine ⟨timeout, hread, ?_⟩
    obtain ⟨device, exclusive, disableMixing, timeoutMillis, pollMillis⟩ := o'
    rw [Options.mk.injEq]
    exact ⟨puts_text_iff.mp h.device, puts_flag_iff.mp h.exclusive,
      puts_flag_iff.mp h.disableMixing, htimeout, h.poll⟩
  · rintro ⟨timeout, hread, rfl⟩
    exact ⟨puts_text_iff.mpr rfl, puts_flag_iff.mpr rfl, puts_flag_iff.mpr rfl,
      puts_count_iff.mpr ⟨timeout, hread, rfl⟩, rfl⟩

end Environment

namespace Options

variable {env : Environment} {o o' : Options}

theorem validate_eq_error_iff {cause : AudioError} : o.validate = .error cause ↔
    o.pollMillis = 0 ∧ cause = .config .zeroPoll ∨
      o.pollMillis ≠ 0 ∧ o.timeoutMillis < o.pollMillis ∧ cause = .config .timeoutBelowPoll := by
  unfold validate
  split
  · next hzero => simp [hzero, eq_comm]
  · next hzero =>
    split
    · next hbelow => simp [hzero, hbelow, eq_comm]
    · next hbelow => simp [hzero, hbelow]

/-- Options depend on the environment only through what its variables set. -/
theorem withEnvironment_congr {env' : Environment} (h : ∀ key, env'.value? key = env.value? key)
    (o : Options) : o.withEnvironment env' = o.withEnvironment env := by
  simp only [withEnvironment, flagOr, Environment.number?, Environment.flag, h]

/-- The options are merged and then validated, if they can be merged at all. -/
theorem withEnvironment_of_merges (h : env.Merges o o') : o.withEnvironment env = o'.validate := by
  obtain ⟨timeout, hread, rfl⟩ := Environment.merges_iff.mp h
  rw [withEnvironment, hread]
  rfl

theorem withEnvironment_of_unread {cause : AudioError}
    (h : env.number? Environment.count? timeoutKey = .error cause) (o : Options) :
    o.withEnvironment env = .error cause := by
  rw [withEnvironment, h]
  rfl

/-- Either the timeout can be read, and there is one merge, or there is none. -/
theorem merges_or_unread (env : Environment) (o : Options) :
    (∃ o', env.Merges o o' ∧ ∀ other, env.Merges o other ↔ other = o') ∧
        (∀ cause, env.number? Environment.count? timeoutKey ≠ .error cause) ∨
      (∀ o', ¬env.Merges o o') ∧
        ∃ cause, env.number? Environment.count? timeoutKey = .error cause := by
  simp only [Environment.merges_iff]
  cases env.number? Environment.count? timeoutKey with
  | ok timeout => exact .inl ⟨⟨_, ⟨timeout, rfl, rfl⟩, by simp⟩, by simp⟩
  | error cause => exact .inr ⟨by simp, cause, rfl⟩

theorem withEnvironment_eq_ok_iff : o.withEnvironment env = .ok o' ↔
    env.Merges o o' ∧ 1 ≤ o'.pollMillis ∧ o'.pollMillis ≤ o'.timeoutMillis := by
  rcases merges_or_unread env o with ⟨⟨merged, hmerged, honly⟩, -⟩ | ⟨hnone, cause, hunread⟩
  · rw [withEnvironment_of_merges hmerged, validate_eq_ok_iff, honly]
    constructor
    · rintro ⟨rfl, hvalid⟩
      exact ⟨rfl, hvalid⟩
    · rintro ⟨rfl, hvalid⟩
      exact ⟨rfl, hvalid⟩
  · simp [withEnvironment_of_unread hunread, hnone]

/-- The two ways in which options are refused: the text of the timeout is no count, or the merge is
not valid. -/
theorem withEnvironment_eq_error_iff {cause : AudioError} : o.withEnvironment env = .error cause ↔
    (∃ text, env.Sets timeoutKey text ∧ (∀ n, ¬Environment.MeansCount text n) ∧
      cause = .config (.notANumber timeoutKey text)) ∨
    ∃ merged, env.Merges o merged ∧
      (merged.pollMillis = 0 ∧ cause = .config .zeroPoll ∨
        merged.pollMillis ≠ 0 ∧ merged.timeoutMillis < merged.pollMillis ∧
          cause = .config .timeoutBelowPoll) := by
  simp only [← Environment.number?_eq_error_iff, ← validate_eq_error_iff]
  rcases merges_or_unread env o with ⟨⟨merged, hmerged, honly⟩, hread⟩ | ⟨hnone, reason, hunread⟩
  · simp [withEnvironment_of_merges hmerged, honly, hread]
  · simp [withEnvironment_of_unread hunread, hunread, hnone]

/-- Options that come from a document are valid, whoever reads it. -/
theorem valid_of_ofDocument {text : String} {reader : DocumentReader}
    (h : ofDocument text reader = .ok o) :
    1 ≤ o.pollMillis ∧ o.pollMillis ≤ o.timeoutMillis := by
  unfold ofDocument at h
  split at h
  · obtain ⟨rfl, hvalid⟩ := validate_eq_ok_iff.mp h
    exact hvalid
  · cases h

/-- The environment has the last word on the options of the settings. -/
theorem valid_of_load {readFile : String → Except FileFailure String} {reader : DocumentReader}
    {settings : Settings} (h : Settings.load readFile env reader = .ok settings) :
    1 ≤ settings.options.pollMillis ∧
      settings.options.pollMillis ≤ settings.options.timeoutMillis := by
  unfold Settings.load at h
  simp only [bind, Except.bind] at h
  split at h
  · cases h
  split at h
  · cases h
  split at h
  · cases h
  split at h
  · cases h
  · next hoptions =>
    cases h
    exact (withEnvironment_eq_ok_iff.mp hoptions).2

/-- The environment is merged into options or they are refused, because the text of the timeout is
no count or because the merge has no poll interval or a timeout that is shorter than one. Blank
variables count as none, white space around values makes no difference, and merging once more
changes nothing. So whatever options come from a document, whoever reads it, or from the settings
of a file and the environment, have a poll interval that is no longer than their timeout. -/
theorem environment_merges (env : Environment) (o : Options) :
    (∀ o', o.withEnvironment env = .ok o' ↔
      env.Merges o o' ∧ 1 ≤ o'.pollMillis ∧ o'.pollMillis ≤ o'.timeoutMillis) ∧
    (∀ cause, o.withEnvironment env = .error cause ↔
      (∃ text, env.Sets timeoutKey text ∧ (∀ n, ¬Environment.MeansCount text n) ∧
        cause = .config (.notANumber timeoutKey text)) ∨
      ∃ merged, env.Merges o merged ∧
        (merged.pollMillis = 0 ∧ cause = .config .zeroPoll ∨
          merged.pollMillis ≠ 0 ∧ merged.timeoutMillis < merged.pollMillis ∧
            cause = .config .timeoutBelowPoll)) ∧
    o.withEnvironment (fun key => (env key).filter fun raw => ¬Text.AllBlank raw) =
      o.withEnvironment env ∧
    (∀ before after : String → String, (∀ key, Text.AllBlank (before key)) →
      (∀ key, Text.AllBlank (after key)) →
      o.withEnvironment (fun key => (env key).map fun raw => before key ++ raw ++ after key) =
        o.withEnvironment env) ∧
    (do (← o.withEnvironment env).withEnvironment env) = o.withEnvironment env ∧
    (∀ reader text o', ofDocument text reader = .ok o' →
      1 ≤ o'.pollMillis ∧ o'.pollMillis ≤ o'.timeoutMillis) ∧
    ∀ reader readFile settings, Settings.load readFile env reader = .ok settings →
      1 ≤ settings.options.pollMillis ∧
        settings.options.pollMillis ≤ settings.options.timeoutMillis := by
  refine ⟨fun _ => withEnvironment_eq_ok_iff, fun _ => withEnvironment_eq_error_iff, ?_, ?_, ?_,
    fun _ _ _ => valid_of_ofDocument, fun _ _ _ => valid_of_load⟩
  · exact withEnvironment_congr (Environment.value?_drop_blank env) o
  · intro before after hbefore hafter
    exact withEnvironment_congr (Environment.value?_pad hbefore hafter env) o
  · cases hmerged : o.withEnvironment env with
    | error cause => rfl
    | ok merged =>
      obtain ⟨hmerges, hvalid⟩ := withEnvironment_eq_ok_iff.mp hmerged
      exact withEnvironment_eq_ok_iff.mpr ⟨hmerges.again, hvalid⟩

/-- A device and a timeout in white space, a no in capitals, a variable with nothing but white
space in it, and a file with a document that sets the poll interval, for a reader of such. -/
theorem environment_merges_padded :
    let env : Environment := fun key =>
      if key = deviceKey then some "USB Dac"
      else if key = exclusiveKey then some "OFF"
      else if key = disableMixingKey then some "\t "
      else if key = timeoutKey then some "+0300"
      else if key = Settings.fileKey then some "settings.toml"
      else none
    let padded : Environment := fun key => (env key).map fun raw => " \u00a0" ++ raw ++ "\n"
    let merged : Options := { device := some "USB Dac", exclusive := false, timeoutMillis := 300 }
    let document := "format_switch_poll_ms = 200"
    let reader : DocumentReader := {
      options? := fun text => if text = document then some { pollMillis := 200 } else none
      player? := fun text => if text = document then some {} else none }
    withEnvironment padded {} = .ok merged ∧ env.Merges {} merged ∧
      merged.withEnvironment env = .ok merged ∧
      1 ≤ merged.pollMillis ∧ merged.pollMillis ≤ merged.timeoutMillis ∧
      (∃ o, ofDocument document reader = .ok o ∧
        1 ≤ o.pollMillis ∧ o.pollMillis ≤ o.timeoutMillis) ∧
      ∃ settings, Settings.load (fun _ => .ok document) padded reader = .ok settings ∧
        settings.options = { merged with pollMillis := 200 } ∧
        1 ≤ settings.options.pollMillis ∧
          settings.options.pollMillis ≤ settings.options.timeoutMillis := by
  intro env padded merged document reader
  obtain ⟨hok, -, -, hpad, hagain, hdocument, -⟩ := environment_merges env {}
  obtain ⟨-, -, -, -, -, -, hload⟩ := environment_merges padded {}
  have hmerged : withEnvironment env {} = .ok merged := by decide +kernel
  obtain ⟨hmerges, hlow, hhigh⟩ := (hok merged).mp hmerged
  have htext : ofDocument document reader = .ok { pollMillis := 200 } := by decide +kernel
  have hsettings : Settings.load (fun _ => .ok document) padded reader =
      .ok { options := { merged with pollMillis := 200 } } := by decide +kernel
  refine ⟨?_, hmerges, ?_, hlow, hhigh, ⟨_, htext, hdocument _ _ _ htext⟩,
    _, hsettings, rfl, hload _ _ _ hsettings⟩
  · rw [← hmerged]
    exact hpad (fun _ => " \u00a0") (fun _ => "\n") (fun _ => by decide +kernel)
      fun _ => by decide +kernel
  · rw [hmerged] at hagain
    exact hagain

end Options

end ExclusiveAudio
