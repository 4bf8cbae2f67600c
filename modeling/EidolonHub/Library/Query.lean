import EidolonHub.Library.Python

/-!
# EidolonHub.Library.Query

**Texts made of named fields**, `k=v&k=v`, of which the last with a name counts, and percent quoting, which
keeps the separators out of a value.
-/

namespace EidolonHub.Library.Query

open EidolonHub.Library.Python

/-! ### Parts of a text -/

/-- `text.partition(sep)`, for one character: what stands before it, whether it occurs, and what follows. -/
def partition (sep : Char) (s : String) : String × Bool × String :=
  match s.toList.dropWhile (· ≠ sep) with
  | [] => (s, false, "")
  | _ :: rest => (String.ofList (s.toList.takeWhile (· ≠ sep)), true, String.ofList rest)

theorem partition_eq {sep : Char} {s before after : String} (h : partition sep s = (before, true, after)) :
    s = before ++ String.singleton sep ++ after := by
  unfold partition at h
  split at h
  · cases h
  next c rest hdrop =>
  cases h
  have hsep : c = sep := by
    have hhead := List.head?_dropWhile_not (· ≠ sep) s.toList
    rw [hdrop] at hhead
    simpa using hhead
  have hparts := List.takeWhile_append_dropWhile (p := (· ≠ sep)) (l := s.toList)
  rw [hdrop, hsep] at hparts
  refine String.ext ?_
  rw [String.toList_append, String.toList_append, String.toList_ofList, String.toList_ofList]
  simpa [List.append_assoc] using hparts.symm

theorem dropWhile_append_sep {sep : Char} {before after : List Char} (h : sep ∉ before) :
    (before ++ sep :: after).dropWhile (· ≠ sep) = sep :: after := by
  have hbefore : ∀ c ∈ before, decide (c ≠ sep) = true := by
    intro c hc
    exact decide_eq_true fun heq => h (heq ▸ hc)
  rw [List.dropWhile_append_of_pos hbefore, List.dropWhile_cons, if_neg (by simp)]

theorem takeWhile_append_sep {sep : Char} {before after : List Char} (h : sep ∉ before) :
    (before ++ sep :: after).takeWhile (· ≠ sep) = before := by
  have hbefore : ∀ c ∈ before, decide (c ≠ sep) = true := by
    intro c hc
    exact decide_eq_true fun heq => h (heq ▸ hc)
  rw [List.takeWhile_append_of_pos hbefore, List.takeWhile_cons, if_neg (by simp), List.append_nil]

/-- A text is taken apart where it was put together. -/
theorem partition_append {sep : Char} {before after : String} (h : sep ∉ before.toList) :
    partition sep (before ++ String.singleton sep ++ after) = (before, true, after) := by
  have htext : (before ++ String.singleton sep ++ after).toList =
      before.toList ++ sep :: after.toList := by
    rw [String.toList_append, String.toList_append]
    simp [List.append_assoc]
  unfold partition
  rw [htext, dropWhile_append_sep h, takeWhile_append_sep h]
  simp

theorem splitChars_ne_nil (sep : Char) (s : List Char) : splitChars sep s ≠ [] := by
  cases s with
  | nil => simp [splitChars]
  | cons c s =>
    unfold splitChars
    split
    · simp
    · split <;> simp

/-- `text.split(sep)` of a text with one part more. -/
theorem splitChars_append {sep : Char} (s part : List Char) (h : sep ∉ part) :
    splitChars sep (s ++ sep :: part) = splitChars sep s ++ [part] := by
  induction s with
  | nil => simp [splitChars, splitChars_of_not_mem h]
  | cons c s ih =>
    rw [List.cons_append]
    unfold splitChars
    by_cases hc : c = sep
    · rw [if_pos hc, if_pos hc, ih, List.cons_append]
    · rw [if_neg hc, if_neg hc, ih]
      cases hparts : splitChars sep s with
      | nil => exact absurd hparts (splitChars_ne_nil sep s)
      | cons first rest => rfl

/-! ### Named fields -/

/-- The name and the value of a part with `=` in it. -/
def nameAndValue (part : String) : Option (String × String) :=
  match partition '=' part with
  | (name, true, value) => some (name, value)
  | (_, false, _) => none

/-- `fields[name]`, for the dictionary of the parts of `text.split("&")` with `=` in them. -/
def field (name text : String) : Option String :=
  (split '&' text).reverse.findSome? fun part =>
    (nameAndValue part).bind fun found => if found.1 = name then some found.2 else none

/-- A text with one field more. -/
def withField (text name value : String) : String := text ++ "&" ++ (name ++ "=" ++ value)

/-- The last field counts. -/
theorem field_withField {text name value : String} (wanted : String) (hname : '=' ∉ name.toList)
    (hpart : '&' ∉ (name ++ "=" ++ value).toList) :
    field wanted (withField text name value) = if name = wanted then some value else field wanted text := by
  have hsplit : split '&' (withField text name value) = split '&' text ++ [name ++ "=" ++ value] := by
    have htext : (withField text name value).toList = text.toList ++ '&' :: (name ++ "=" ++ value).toList := by
      unfold withField
      rw [String.toList_append, String.toList_append]
      simp [List.append_assoc]
    unfold split
    rw [htext, splitChars_append _ _ hpart, List.map_append, List.map_singleton, String.ofList_toList]
  have hvalue : nameAndValue (name ++ "=" ++ value) = some (name, value) := by
    have hparts : partition '=' (name ++ "=" ++ value) = (name, true, value) := partition_append hname
    unfold nameAndValue
    rw [hparts]
  unfold field
  rw [hsplit, List.reverse_append, List.reverse_singleton, List.singleton_append, List.findSome?_cons, hvalue]
  dsimp only [Option.bind_some]
  by_cases heq : name = wanted
  · rw [if_pos heq, if_pos heq]
  · rw [if_neg heq, if_neg heq]

/-! ### Numbers -/

/-- Where nothing of the kind is in a text, nothing is stripped. -/
theorem stripBy_eq {space : Char → Bool} {s : String} (h : ∀ c ∈ s.toList, space c = false) :
    stripBy space s = s := by
  have hdrop (cs : List Char) (hcs : ∀ c ∈ cs, space c = false) : cs.dropWhile space = cs := by
    cases cs with
    | nil => rfl
    | cons c cs => rw [List.dropWhile_cons, hcs c List.mem_cons_self, if_neg Bool.false_ne_true]
  unfold stripBy
  rw [hdrop _ h, hdrop _ fun c hc => h c (List.mem_reverse.mp hc), List.reverse_reverse, String.ofList_toList]

/-- A text without whitespace is its own `strip()`. -/
theorem strip_eq {s : String} (h : ∀ c ∈ s.toList, isSpace c = false) : strip s = s := stripBy_eq h

theorem isDigit_iff {c : Char} : c.isDigit = true ↔ 48 ≤ c.toNat ∧ c.toNat ≤ 57 := by
  unfold Char.isDigit
  simp [UInt32.le_iff_toNat_le]

theorem digit_of_isDigit (unicode : Unicode) {c : Char} (h : c.isDigit = true) :
    digit unicode c = some (c.toNat - 48) := by
  have hrange := isDigit_iff.mp h
  unfold digit
  rw [if_pos (by omega), if_pos hrange]

/-- Digits are read as the number they write. -/
theorem digits_eq {unicode : Unicode} {cs : List Char} (h : ∀ c ∈ cs, c.isDigit = true) (n : Nat) :
    digits unicode n cs = some (Nat.ofDigitChars 10 cs n) := by
  induction cs generalizing n with
  | nil => rfl
  | cons c cs ih =>
    have hdigit := digit_of_isDigit unicode (h c List.mem_cons_self)
    have hne : c ≠ '_' := by
      rintro rfl
      exact absurd (h '_' List.mem_cons_self) (by decide)
    have hrest := ih (fun d hd => h d (List.mem_cons_of_mem _ hd)) (n * 10 + (c.toNat - 48))
    rw [Nat.ofDigitChars_cons, Nat.mul_comm 10 n]
    cases cs with
    | nil =>
      unfold digits
      rw [hdigit]
      rfl
    | cons d ds =>
      rw [digits.eq_4 _ _ _ _ (by nofun) (by rintro _ _ rfl; exact absurd rfl hne), hdigit]
      exact hrest

/-- `int(str(n))`, for a number of no more digits than `int()` reads. -/
theorem intOfText_toString {unicode : Unicode} {n : Nat} (hlength : (Nat.toDigits 10 n).length ≤ 4300) :
    intOfText unicode (toString (n : Int)) = some (n : Int) := by
  have hdigits : ∀ c ∈ Nat.toDigits 10 n, c.isDigit = true := fun c hc =>
    Nat.isDigit_of_mem_toDigits (by decide) (by decide) hc
  have hchars : (toString (n : Int)).toList = Nat.toDigits 10 n := Nat.toList_repr
  -- a decimal numeral has no space to strip and no sign to read
  have hspace : ∀ c ∈ (toString (n : Int)).toList, isIntSpace c = false := by
    intro c hc
    have hrange := isDigit_iff.mp (hdigits c (hchars ▸ hc))
    simp [isIntSpace, isSpace]
    omega
  unfold intOfText
  rw [stripBy_eq hspace, hchars]
  have hvalue := Nat.ofDigitChars_ten_toDigits (n := n)
  have hne : Nat.toDigits 10 n ≠ [] := Nat.toDigits_ne_nil
  clear hchars hspace
  generalize Nat.toDigits 10 n = cs at hdigits hlength hvalue hne
  cases cs with
  | nil => exact absurd rfl hne
  | cons c cs =>
    have hc := hdigits c List.mem_cons_self
    have hcount : (c :: cs).countP (· ≠ '_') ≤ 4300 := List.countP_le_length.trans hlength
    have hnat : natOfChars unicode (c :: cs) = some n := by
      unfold natOfChars
      dsimp only
      rw [if_pos hcount, digit_of_isDigit unicode hc]
      show digits unicode (c.toNat - 48) cs = some n
      rw [digits_eq fun d hd => hdigits d (List.mem_cons_of_mem _ hd)]
      rw [Nat.ofDigitChars_cons] at hvalue
      simpa using hvalue
    split
    · next heq =>
      cases heq
      exact absurd hc (by decide)
    · next heq =>
      cases heq
      exact absurd hc (by decide)
    · rw [hnat]
      rfl

/-! ### Percent quoting -/

/-- What `quote(text, safe="")` keeps. -/
def isUnreserved (c : Char) : Bool := c.isAlphanum || c ∈ ['_', '.', '-', '~']

/-- A digit in base 16. -/
def hexDigit (n : Nat) : Char := "0123456789ABCDEF".toList.getD n '0'

/-- A byte as `quote` writes it. -/
def percent (byte : UInt8) : List Char := ['%', hexDigit (byte.toNat / 16), hexDigit (byte.toNat % 16)]

/-- A character as `quote` writes it: as it is, or its bytes in UTF-8. -/
def quoteChar (c : Char) : List Char :=
  if isUnreserved c then [c] else (String.utf8EncodeChar c).flatMap percent

/-- `quote(text, safe="")` -/
def quote (s : String) : String := String.ofList (s.toList.flatMap quoteChar)

/-- The value of a hexadecimal digit. -/
def hexValue (c : Char) : Option Nat :=
  if '0' ≤ c ∧ c ≤ '9' then some (c.toNat - 48)
  else if 'A' ≤ c ∧ c ≤ 'F' then some (c.toNat - 55)
  else if 'a' ≤ c ∧ c ≤ 'f' then some (c.toNat - 87)
  else none

/-- The byte that two hexadecimal digits stand for. -/
def byteOf (high low : Char) : Option Nat := do
  let x ← hexValue high
  let y ← hexValue low
  return 16 * x + y

/-- `unquote(text)`, as far as the result is ASCII; none where it has another character. -/
def unquoteChars : List Char → Option (List Char)
  | [] => some []
  | '%' :: high :: low :: rest =>
    match byteOf high low with
    | some n => if n < 128 then (unquoteChars rest).map (Char.ofNat n :: ·) else none
    | none => (unquoteChars (high :: low :: rest)).map ('%' :: ·)
  | c :: rest => if c.toNat < 128 then (unquoteChars rest).map (c :: ·) else none

/-- `unquote(text)`, where the result is ASCII. -/
def unquote (s : String) : Option String := (unquoteChars s.toList).map String.ofList

/-- An ASCII character is quoted as itself, or as the two digits of its code. -/
def quotesBack (c : Char) : Bool :=
  match quoteChar c with
  | [d] => d = c && c ≠ '%'
  | [p, high, low] => p = '%' && byteOf high low = some c.toNat
  | _ => false

theorem quotesBack_of_ascii {c : Char} (hc : c.toNat < 128) : quotesBack c = true := by
  have hall : ∀ n < 128, quotesBack (Char.ofNat n) = true := by decide +kernel
  simpa using hall c.toNat hc

/-- **Reading a quoted text gives the text back.** -/
theorem unquote_quote {s : String} (hascii : ∀ c ∈ s.toList, c.toNat < 128) : unquote (quote s) = some s := by
  have hchars : ∀ cs : List Char, (∀ c ∈ cs, c.toNat < 128) → unquoteChars (cs.flatMap quoteChar) = some cs := by
    intro cs hcs
    induction cs with
    | nil => rfl
    | cons c cs ih =>
      have hc := hcs c List.mem_cons_self
      have hrest := ih fun d hd => hcs d (List.mem_cons_of_mem _ hd)
      have hback := quotesBack_of_ascii hc
      rw [List.flatMap_cons]
      unfold quotesBack at hback
      split at hback
      · next d hquote =>
        -- kept as it is
        obtain ⟨rfl, hne⟩ : d = c ∧ c ≠ '%' := by simpa using hback
        rw [hquote, List.singleton_append, unquoteChars.eq_3 _ _ (by rintro _ _ _ rfl; exact absurd rfl hne),
          if_pos hc, hrest]
        rfl
      · next p high low hquote =>
        obtain ⟨rfl, hbyte⟩ : p = '%' ∧ byteOf high low = some c.toNat := by simpa using hback
        rw [hquote]
        show unquoteChars ('%' :: high :: low :: cs.flatMap quoteChar) = _
        rw [unquoteChars, hbyte]
        dsimp only
        rw [if_pos hc, hrest]
        simp
      · cases hback
  unfold unquote quote
  rw [String.toList_ofList, hchars _ hascii, Option.map_some, String.ofList_toList]

/-- A quoted text has no separator in it. -/
theorem not_mem_quote {c : Char} (hc : isUnreserved c = false) (hpercent : c ≠ '%')
    (hhex : ∀ n < 16, hexDigit n ≠ c) (s : String) : c ∉ (quote s).toList := by
  unfold quote
  rw [String.toList_ofList, List.mem_flatMap]
  rintro ⟨d, -, hd⟩
  unfold quoteChar at hd
  split at hd
  · next hunreserved =>
    rw [List.mem_singleton] at hd
    rw [hd, hunreserved] at hc
    cases hc
  · obtain ⟨byte, -, hbyte⟩ := List.mem_flatMap.mp hd
    have hlt : byte.toNat < 256 := UInt8.toNat_lt byte
    simp only [percent, List.mem_cons, List.not_mem_nil, or_false] at hbyte
    rcases hbyte with h | h | h
    · exact hpercent h
    · exact hhex _ (by omega) h.symm
    · exact hhex _ (by omega) h.symm

end EidolonHub.Library.Query
