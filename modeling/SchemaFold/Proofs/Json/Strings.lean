import SchemaFold.Json.Quoted
import SchemaFold.Json.Scan
/-!
Strings are read as they are written.

* `Json.Scan.bind_of_ok`: one reader after another;
* `Json.Scan.stringRest_escape`: a character comes back from its escape;
* `Json.Scan.string_quoted`: a string comes back from its quoted form, whatever follows.
-/

namespace SchemaFold.Json

namespace Scan

variable {α β : Type} {cs cs' : List Char}

/-- The second reader goes on where the first ends. -/
theorem bind_of_ok {scan : Scan α} {a : α} (h : scan cs = .ok (a, cs')) (next : α → Scan β) :
    (scan >>= next) cs = next a cs' := by
  show (scan cs).bind (fun found => next found.1 found.2) = _
  rw [h]
  rfl

/-- A result that does not depend on the text. -/
theorem lift_of_ok {result : Except Fault α} {a : α} (h : result = .ok a) (cs : List Char) :
    (liftM result : Scan α) cs = .ok (a, cs) := by
  rw [h]
  rfl

/-! ### Escapes -/

theorem hexValue?_hexDigit : ∀ n, n < 16 → hexValue? (hexDigit n) = some n := by decide

/-- Four digits that begin with two zeros are the number of the last two. -/
theorem fourDigits_hexDigit {high low : Nat} (hhigh : high < 16) (hlow : low < 16)
    (rest : List Char) :
    fourDigits ('0' :: '0' :: hexDigit high :: hexDigit low :: rest) = .ok (high * 16 + low) := by
  have hzero : hexValue? '0' = some 0 := rfl
  simp [fourDigits, hzero, hexValue?_hexDigit high hhigh, hexValue?_hexDigit low hlow]

/-- A control character comes back from its number. -/
theorem unicodeEscape_control {c : Char} (hc : c.toNat < 0x20) (rest : List Char) :
    unicodeEscape ('0' :: '0' :: hexDigit (c.toNat / 16) :: hexDigit (c.toNat % 16) :: rest) =
      .ok (c, 4) := by
  have hnumber : c.toNat / 16 * 16 + c.toNat % 16 = c.toNat := by omega
  have hhigh : c.toNat / 16 < 16 := by omega
  have hlow : c.toNat % 16 < 16 := by omega
  have hdigits := fourDigits_hexDigit hhigh hlow rest
  rw [hnumber] at hdigits
  -- the number is far below those that come in pairs
  have halone : (decide (0xDC00 ≤ c.toNat) && decide (c.toNat ≤ 0xDFFF)) = false := by
    simp only [Bool.and_eq_false_iff, decide_eq_false_iff_not]
    omega
  have hfirst : (decide (c.toNat < 0xD800) || decide (0xDBFF < c.toNat)) = true := by
    simp only [Bool.or_eq_true, decide_eq_true_eq]
    omega
  rw [unicodeEscape, hdigits]
  simp [bind, Except.bind, pure, Except.pure, halone, hfirst, Char.ofNat_toNat]

/-! ### Inside quotes -/

theorem stringRest_quote (taken rest : List Char) :
    stringRest taken ('"' :: rest) = .ok (taken.reverse, rest) := by
  rw [stringRest.eq_def]
  rfl

theorem stringRest_letter {letter found : Char} (h : letterEscape? letter = some found)
    (taken rest : List Char) :
    stringRest taken ('\\' :: letter :: rest) = stringRest (found :: taken) rest := by
  -- the letter `u` begins a number and has no meaning of its own
  have hu : letter ≠ 'u' := by
    intro heq
    rw [heq, show letterEscape? 'u' = none from rfl] at h
    cases h
  simp [stringRest, h]

theorem stringRest_unicode {found : Char} {n : Nat} {cs : List Char}
    (h : unicodeEscape cs = .ok (found, n)) (taken : List Char) :
    stringRest taken ('\\' :: 'u' :: cs) = stringRest (found :: taken) (cs.drop n) := by
  simp [stringRest, h]

theorem stringRest_plain {c : Char} (hquote : c ≠ '"') (hslash : c ≠ '\\')
    (hcontrol : ¬ c.toNat < 0x20) (taken rest : List Char) :
    stringRest taken (c :: rest) = stringRest (c :: taken) rest := by
  rw [stringRest.eq_def]
  simp only [if_neg hquote, if_neg hslash, if_neg hcontrol]

/-- **A character comes back from its escape.** -/
theorem stringRest_escape (c : Char) (taken rest : List Char) :
    stringRest taken (escape c ++ rest) = stringRest (c :: taken) rest := by
  rw [escape]
  -- the seven characters that a letter stands for come first
  iterate 7
    split
    · subst_vars
      exact stringRest_letter rfl taken rest
  by_cases hcontrol : c.toNat < 0x20
  · rw [if_pos hcontrol]
    exact stringRest_unicode (unicodeEscape_control hcontrol rest) taken
  · rw [if_neg hcontrol]
    exact stringRest_plain (by assumption) (by assumption) hcontrol taken rest

/-- What stands between quotes is read up to the closing one. -/
theorem stringRest_flatMap_escape (cs taken rest : List Char) :
    stringRest taken (cs.flatMap escape ++ '"' :: rest) = .ok (taken.reverse ++ cs, rest) := by
  induction cs generalizing taken with
  | nil =>
    rw [List.append_nil]
    exact stringRest_quote taken rest
  | cons c cs ih =>
    rw [List.flatMap_cons, List.append_assoc, stringRest_escape, ih, List.reverse_cons,
      List.append_assoc]
    rfl

/-- **A string comes back from its quoted form, whatever follows.** -/
theorem string_quoted (s : String) (rest : List Char) :
    string (quoted s ++ rest) = .ok (s, rest) := by
  have hchars : quoted s ++ rest = '"' :: (s.toList.flatMap escape ++ '"' :: rest) := by
    simp [quoted, quotedChars]
  have hrest := stringRest_flatMap_escape s.toList [] rest
  rw [List.reverse_nil, List.nil_append] at hrest
  rw [hchars, string, bind_of_ok rfl, List.drop_one, List.tail_cons,
    bind_of_ok (lift_of_ok hrest _)]
  show Except.ok (String.ofList s.toList, rest) = _
  rw [String.ofList_toList]

end Scan

end SchemaFold.Json
