import Mathlib.Data.List.Basic
import Mathlib.Data.List.DropRight
import Mathlib.Data.List.Infix

/-!
# EidolonHub.Library.Python

**Python's text operations and JSON values**, as far as a program that handles
identifiers and signed documents uses them.

Text is handled as its list of code points, so the operations are structural
recursions that evaluate in the kernel. What the Unicode standard tabulates for
code points outside ASCII (`Unicode`) stays a parameter.
-/

namespace EidolonHub.Library.Python

/-! ### Whitespace and case -/

/-- `str.isspace` of a single code point. -/
def isSpace (c : Char) : Bool :=
  let n := c.toNat
  (9 ≤ n && n ≤ 13) || (28 ≤ n && n ≤ 32) || n == 0x85 || n == 0xa0 || n == 0x1680 ||
    (0x2000 ≤ n && n ≤ 0x200a) || n == 0x2028 || n == 0x2029 || n == 0x202f || n == 0x205f ||
    n == 0x3000

/-- What the Unicode standard says of the code points outside ASCII. -/
structure Unicode where
  /-- the full case folding -/
  caseFolding : Char → List Char
  /-- the value of a decimal digit -/
  decimal : Char → Option Nat

/-- `str.casefold` of a single code point. -/
def foldChar (unicode : Unicode) (c : Char) : List Char :=
  if c.toNat < 128 then [c.toLower] else unicode.caseFolding c

/-- `str.casefold`. -/
def casefold (unicode : Unicode) (s : String) : String :=
  String.ofList (s.toList.flatMap (foldChar unicode))

/-- The text without the characters of this kind at its ends. -/
def stripBy (space : Char → Bool) (s : String) : String :=
  String.ofList (((s.toList.dropWhile space).reverse.dropWhile space).reverse)

/-- `str.strip()`. -/
def strip (s : String) : String := stripBy isSpace s

/-- A text that is blank has nothing but whitespace in it. -/
theorem strip_ne_empty {s : String} {c : Char} (hc : c ∈ s.toList) (hspace : isSpace c = false) :
    strip s ≠ "" := by
  intro hblank
  have hnil : ((s.toList.dropWhile isSpace).reverse.dropWhile isSpace).reverse = [] :=
    String.ofList_injective hblank
  rw [List.reverse_eq_nil_iff, List.dropWhile_eq_nil_iff] at hnil
  have hrest : s.toList.dropWhile isSpace = [] := by
    rw [← List.dropWhile_idempotent, List.dropWhile_eq_nil_iff]
    exact fun x hx => hnil x (List.mem_reverse.mpr hx)
  rw [List.dropWhile_eq_nil_iff] at hrest
  rw [hrest c hc] at hspace
  cases hspace

/-- `text[:n]`. -/
def sliceTo (n : Nat) (s : String) : String := String.ofList (s.toList.take n)

/-- `re.sub` of every run of the characters in `p` by the one character `fill`; `inRun` after
one of them. -/
def subRunsFrom (p : Char → Bool) (fill : Char) : Bool → List Char → List Char
  | _, [] => []
  | inRun, c :: cs =>
    if p c then if inRun then subRunsFrom p fill true cs else fill :: subRunsFrom p fill true cs
    else c :: subRunsFrom p fill false cs

/-- `re.sub` of each longest run of such characters by one other. -/
def subRuns (p : Char → Bool) (fill : Char) (s : String) : String :=
  String.ofList (subRunsFrom p fill false s.toList)

/-- `text.strip(c)` for one character. -/
def stripChar (c : Char) (s : String) : String :=
  String.ofList (((s.toList.dropWhile (· = c)).reverse.dropWhile (· = c)).reverse)

/-- `text.rstrip(c)` for one character. -/
def rstripChar (c : Char) (s : String) : String :=
  String.ofList (s.toList.reverse.dropWhile (· = c)).reverse

/-! ### `repr` -/

/-- A number in so many hexadecimal digits. -/
def hex : Nat → Nat → List Char
  | 0, _ => []
  | width + 1, n => hex width (n / 16) ++ [Nat.digitChar (n % 16)]

/-- One character between the quotes of `repr(text)`. -/
def reprChar (printable : Char → Bool) (quote c : Char) : List Char :=
  let n := c.toNat
  if c = quote ∨ n = 92 then [.ofNat 92, c]
  else if n = 9 then [.ofNat 92, 't']
  else if n = 10 then [.ofNat 92, 'n']
  else if n = 13 then [.ofNat 92, 'r']
  else if (if n < 128 then 32 ≤ n ∧ n < 127 else printable c) then [c]
  else if n < 0x100 then .ofNat 92 :: 'x' :: hex 2 n
  else if n < 0x10000 then .ofNat 92 :: 'u' :: hex 4 n
  else .ofNat 92 :: 'U' :: hex 8 n

/-- `repr(text)`, for what is printable outside ASCII. -/
def repr (printable : Char → Bool) (s : String) : String :=
  let single := Char.ofNat 39
  let double := Char.ofNat 34
  let quote := if single ∈ s.toList ∧ double ∉ s.toList then double else single
  String.ofList (quote :: s.toList.flatMap (reprChar printable quote) ++ [quote])

/-! ### Base64 -/

/-- A digit of the standard alphabet. -/
def isBase64Char (c : Char) : Bool :=
  ('A' ≤ c && c ≤ 'Z') || ('a' ≤ c && c ≤ 'z') || ('0' ≤ c && c ≤ '9') || c = '+' || c = '/'

/-- `base64.b64decode(text, validate=True)` returns. -/
def isBase64 (s : String) : Bool :=
  let data := s.toList.takeWhile isBase64Char
  let padding := s.toList.dropWhile isBase64Char
  padding.all (· = '=') && padding.length ≤ 2 && (data.length + padding.length) % 4 = 0

/-! ### Splitting -/

/-- `str.split(sep)` for a one-character separator. -/
def splitChars (sep : Char) : List Char → List (List Char)
  | [] => [[]]
  | c :: cs =>
    if c = sep then [] :: splitChars sep cs
    else
      match splitChars sep cs with
      | [] => [[c]]
      | part :: parts => (c :: part) :: parts

/-- `str.split(sep)` for a one-character separator. -/
def split (sep : Char) (s : String) : List String :=
  (splitChars sep s.toList).map String.ofList

theorem mem_splitChars {sep : Char} {cs part : List Char} (h : part ∈ splitChars sep cs) : sep ∉ part := by
  induction cs generalizing part with
  | nil => simp_all [splitChars]
  | cons c cs ih =>
    unfold splitChars at h
    split at h
    · rcases List.mem_cons.mp h with rfl | h
      · exact List.not_mem_nil
      · exact ih h
    · next hc =>
      split at h
      · next hnil => simpa [List.mem_singleton.mp h] using Ne.symm hc
      · next first rest hparts =>
        have hfirst := ih (hparts ▸ List.mem_cons_self)
        rcases List.mem_cons.mp h with rfl | h
        · simpa [Ne.symm hc] using hfirst
        · exact ih (hparts ▸ List.mem_cons_of_mem _ h)

theorem splitChars_of_not_mem {sep : Char} {cs : List Char} (h : sep ∉ cs) : splitChars sep cs = [cs] := by
  induction cs with
  | nil => rfl
  | cons c cs ih =>
    rw [List.mem_cons, not_or] at h
    unfold splitChars
    rw [if_neg (Ne.symm h.1), ih h.2]

/-- A text is a part of itself where there is nothing to split at. -/
theorem mem_split_self {sep : Char} {s : String} : s ∈ split sep s ↔ sep ∉ s.toList := by
  constructor
  · intro h
    obtain ⟨part, hpart, rfl⟩ := List.mem_map.mp h
    rw [String.toList_ofList]
    exact mem_splitChars hpart
  · intro h
    simp [split, splitChars_of_not_mem h]

/-- `str.rsplit(sep, 1)` where the separator occurs; absent where it does not. -/
def rsplitOnce (sep : Char) (s : String) : Option (String × String) :=
  let after := s.toList.reverse.takeWhile (· ≠ sep)
  match s.toList.reverse.dropWhile (· ≠ sep) with
  | [] => none
  | _ :: before => some (String.ofList before.reverse, String.ofList after.reverse)

/-- `str.startswith`. -/
def startsWith (pre s : String) : Bool := pre.toList.isPrefixOf s.toList

/-- `text in s`. -/
def isIn (text s : String) : Bool := decide (text.toList <:+: s.toList)

/-- `str.replace` on code points, after so many that an occurrence has taken up. -/
def replaceFrom (old new : List Char) : Nat → List Char → List Char
  | _, [] => []
  | taken + 1, _ :: cs => replaceFrom old new taken cs
  | 0, c :: cs =>
    if old.isPrefixOf (c :: cs) then new ++ replaceFrom old new (old.length - 1) cs
    else c :: replaceFrom old new 0 cs

/-- `s.replace(old, new)`, for an `old` that is not empty. -/
def replace (old new s : String) : String := String.ofList (replaceFrom old.toList new.toList 0 s.toList)

/-- `str.removeprefix`. -/
def removePrefix (pre s : String) : String :=
  if startsWith pre s then String.ofList (s.toList.drop pre.toList.length) else s

/-! ### JSON values and `int()` -/

/-- A value `json.loads` can return. A number with a fraction or an exponent is
kept as its binary64 bits. -/
inductive Json where
  | null
  | bool (b : Bool)
  | int (n : Int)
  | float (bits : UInt64)
  | str (s : String)
  | arr (items : List Json)
  | obj (fields : List (String × Json))
  /-- A text in which a surrogate stands alone, as JSON escapes it: no encoding holds it. -/
  | loneText (escaped : String)
  /-- A `dict` with such a text for a key: its other fields, and the rest as JSON escapes it. -/
  | loneKeys (fields : List (String × Json)) (escaped : String)

namespace Json

/-- The value of a `dict` under a key. -/
def field (key : String) : Json → Option Json
  | obj fields | loneKeys fields _ => (fields.find? fun f => f.1 = key).map (·.2)
  | _ => none

/-- The value is a `dict` with exactly these keys. -/
def hasKeys (keys : List String) : Json → Bool
  | obj fields => fields.all (fun f => keys.contains f.1) &&
      keys.all fun k => fields.any fun f => f.1 = k
  | _ => false

/-- The value is a `dict`. -/
def isObject : Json → Bool
  | obj _ | loneKeys _ _ => true
  | _ => false

/-- The value has a hash. -/
def isHashable : Json → Bool
  | arr _ | obj _ | loneKeys _ _ => false
  | _ => true

/-- The value is this text. -/
def isText (text : String) : Json → Bool
  | str s => s = text
  | _ => false

/-- The field is present and is this text. -/
def fieldIs (key text : String) (j : Json) : Bool :=
  match j.field key with
  | some v => v.isText text
  | none => false

theorem fieldIs_iff {key text : String} {j : Json} :
    j.fieldIs key text = true ↔ j.field key = some (.str text) := by
  unfold fieldIs
  cases j.field key with
  | none => simp
  | some v => cases v <;> simp [isText]

theorem isText_iff {j : Json} {text : String} : j.isText text = true ↔ j = .str text := by
  cases j <;> simp [isText]

end Json

/-- How `int(x)` ends. -/
inductive IntResult where
  | ok (n : Int)
  /-- a `TypeError` or a `ValueError` -/
  | refused
  /-- an `OverflowError` -/
  | overflow

/-- The value of a decimal digit. -/
def digit (unicode : Unicode) (c : Char) : Option Nat :=
  if c.toNat < 128 then
    if 48 ≤ c.toNat ∧ c.toNat ≤ 57 then some (c.toNat - 48) else none
  else unicode.decimal c

/-- Digits, with single underscores between them, read onto what was read so far. -/
def digits (unicode : Unicode) : Nat → List Char → Option Nat
  | n, [] => some n
  | n, [c] => (digit unicode c).map (n * 10 + ·)
  | n, '_' :: c :: cs => (digit unicode c).bind fun d => digits unicode (n * 10 + d) cs
  | n, c :: cs => (digit unicode c).bind fun d => digits unicode (n * 10 + d) cs

/-- A nonempty digit string no longer than `sys.get_int_max_str_digits()`. -/
def natOfChars (unicode : Unicode) : List Char → Option Nat
  | [] => none
  | c :: cs =>
    if (c :: cs).countP (· ≠ '_') ≤ 4300 then
      (digit unicode c).bind fun d => digits unicode d cs
    else none

/-- What `int()` leaves out at the ends of a text: whitespace, without the separators U+001C to
U+001F, which `str.strip()` leaves out too. -/
def isIntSpace (c : Char) : Bool := isSpace c && !(28 ≤ c.toNat && c.toNat ≤ 31)

/-- `int(text)`. -/
def intOfText (unicode : Unicode) (text : String) : Option Int :=
  match (stripBy isIntSpace text).toList with
  | '-' :: cs => (natOfChars unicode cs).map fun n => -(n : Int)
  | '+' :: cs => (natOfChars unicode cs).map fun n => (n : Int)
  | cs => (natOfChars unicode cs).map fun n => (n : Int)

/-- `int(x)` for a binary64: the integer part, towards zero. -/
def intOfFloat (bits : UInt64) : IntResult :=
  let exponent := (bits.toNat >>> 52) % 2048
  let fraction := bits.toNat % (1 <<< 52)
  if exponent = 2047 then
    if fraction = 0 then .overflow else .refused
  else
    let mantissa := if exponent = 0 then fraction else fraction + (1 <<< 52)
    let magnitude : Nat :=
      if 1075 ≤ exponent then mantissa <<< (exponent - 1075)
      else mantissa >>> (1075 - Nat.max exponent 1)
    .ok (if bits.toNat >>> 63 = 0 then magnitude else -(magnitude : Int))

/-- `int(value)` for a JSON value. -/
def intOf (unicode : Unicode) : Json → IntResult
  | .int n => .ok n
  | .bool b => .ok (if b then 1 else 0)
  | .float bits => intOfFloat bits
  | .str text =>
    match intOfText unicode text with
    | some n => .ok n
    | none => .refused
  | _ => .refused

/-! ### Equality -/

/-- A finite binary64 without a fraction. -/
def isIntegral (bits : UInt64) : Bool :=
  let exponent := (bits.toNat >>> 52) % 2048
  let fraction := bits.toNat % (1 <<< 52)
  let mantissa := if exponent = 0 then fraction else fraction + (1 <<< 52)
  exponent ≠ 2047 && (1075 ≤ exponent || mantissa % (1 <<< (1075 - Nat.max exponent 1)) = 0)

namespace Json

/-- `value == n`. -/
def equalsInt (n : Int) : Json → Bool
  | int m => m = n
  | bool b => (if b then 1 else 0) = n
  | float bits =>
    match intOfFloat bits with
    | .ok m => isIntegral bits && m = n
    | _ => false
  | _ => false

/-- `value == expected`, for an expected text or integer. -/
def equalsScalar : Json → Json → Bool
  | int n, value => value.equalsInt n
  | str text, value => value.isText text
  | _, _ => false

/-- `value.get(key) == expected` for each of these fields. -/
def hasFields (expected : List (String × Json)) (value : Json) : Bool :=
  expected.all fun f => (value.field f.1).any f.2.equalsScalar

/-- `value == expected`, for an expected `dict` of texts and integers. -/
def equalsDict (expected : List (String × Json)) (value : Json) : Bool :=
  value.hasKeys (expected.map (·.1)) && value.hasFields expected

end Json

end EidolonHub.Library.Python
