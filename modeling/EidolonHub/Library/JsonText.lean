import EidolonHub.Library.Decimal
import EidolonHub.Library.Python
import Mathlib.Data.List.Lex
import Mathlib.Data.List.Pairwise
import Mathlib.Data.List.Sort

/-!
# EidolonHub.Library.JsonText

**Two canonical texts of one JSON value**: `json.dumps` with sorted keys and without
spaces, and RFC 8785. Both quote text alike and differ in how a binary64 is laid out and
in which order keys stand: by code points there, by UTF-16 code units here.

A text ends where its value ends, so two texts that agree agree value by value
(`dumps_eq_jcs_iff`): the layouts of every number and the orders of every two keys of
an object have to agree, and that is enough.
-/

namespace EidolonHub.Library.Python

/-! ### Quoted text -/

/-- What stands behind a backslash for a character with an escape of its own. -/
def shortEscape (c : Char) : Option Char :=
  match c.toNat with
  | 0x22 => some c
  | 0x5c => some c
  | 0x08 => some 'b'
  | 0x09 => some 't'
  | 0x0a => some 'n'
  | 0x0c => some 'f'
  | 0x0d => some 'r'
  | _ => none

/-- The character that begins an escape. -/
def backslash : Char := Char.ofNat 0x5c

/-- The character that begins and ends a text. -/
def quotation : Char := Char.ofNat 0x22

/-- A character inside a quoted text. -/
def escapeChar (c : Char) : List Char :=
  match shortEscape c with
  | some e => [backslash, e]
  | none =>
    if c.toNat < 0x20 then
      [backslash, 'u', '0', '0', Nat.digitChar (c.toNat / 16), Nat.digitChar (c.toNat % 16)]
    else [c]

/-- A text between quotation marks, with its escapes. -/
def quoted (text : List Char) : List Char :=
  quotation :: (text.flatMap escapeChar ++ [quotation])

/-! ### The order of keys -/

/-- A `str` as it is compared. -/
def codePoints (text : String) : List Nat := text.toList.map Char.toNat

/-- The UTF-16 code units of a character. -/
def utf16 (c : Char) : List Nat :=
  if c.toNat < 0x10000 then [c.toNat]
  else [0xd800 + (c.toNat - 0x10000) / 0x400, 0xdc00 + (c.toNat - 0x10000) % 0x400]

/-- A key as RFC 8785 compares it. -/
def codeUnits (text : String) : List Nat := text.toList.flatMap utf16

/-! ### Rendering -/

/-- What two renderings of JSON can differ in. -/
structure Style where
  float : UInt64 → List Char
  units : String → List Nat

/-- The binary64 is a number. -/
def isFinite (bits : UInt64) : Bool := (bits.toNat >>> 52) % 2048 ≠ 2047

/-- `float.__repr__`, and what `json.dumps` writes for the rest. -/
def reprFloat (bits : UInt64) : List Char :=
  if isFinite bits then reprDecimal (shortest bits)
  else if bits.toNat % (1 <<< 52) ≠ 0 then "NaN".toList
  else sign (bits.toNat >>> 63 = 1) ++ "Infinity".toList

/-- A float as ECMAScript writes it. -/
def esFloat (bits : UInt64) : List Char := esDecimal (shortest bits)

/-- An integer in decimal. -/
def intText (n : Int) : List Char := sign (n < 0) ++ Nat.toDigits 10 n.natAbs

/-- Texts with a comma between them. -/
def joined : List (List Char) → List Char
  | [] => []
  | [text] => text
  | text :: texts => text ++ ',' :: joined texts

/-- A member of an object: its key, and its value as it is written. -/
def member (field : String × List Char) : List Char := quoted field.1.toList ++ ':' :: field.2

namespace Style

variable (style : Style)

/-- One field may stand before another. -/
def Before {α : Type} (f g : String × α) : Prop := style.units f.1 ≤ style.units g.1

instance {α : Type} : DecidableRel (style.Before (α := α)) :=
  fun f g => inferInstanceAs (Decidable (style.units f.1 ≤ style.units g.1))

mutual

/-- The text of a JSON value. -/
def render : Json → List Char
  | .null => "null".toList
  | .bool b => if b then "true".toList else "false".toList
  | .int n => intText n
  | .float bits => style.float bits
  | .str s => quoted s.toList
  | .arr items => '[' :: (joined (renderItems items) ++ [']'])
  | .obj fields =>
    Char.ofNat 0x7b :: (joined (((renderFields fields).insertionSort style.Before).map member) ++
      [Char.ofNat 0x7d])
  -- what no encoding holds stands as it is escaped
  | .loneText escaped | .loneKeys _ escaped => escaped.toList

/-- The items of an array, each as it is written. -/
def renderItems : List Json → List (List Char)
  | [] => []
  | item :: items => render item :: renderItems items

/-- The members of an object, each value as it is written. -/
def renderFields : List (String × Json) → List (String × List Char)
  | [] => []
  | (key, value) :: fields => (key, render value) :: renderFields fields

end

end Style

/-- `json.dumps(value, ensure_ascii=False, sort_keys=True, separators=(",", ":"))`. -/
def python : Style := ⟨reprFloat, codePoints⟩

/-- RFC 8785. -/
def rfc8785 : Style := ⟨esFloat, codeUnits⟩

/-- The text that `json.dumps` gives a value. -/
def dumps (value : Json) : String := String.ofList (python.render value)

/-- The text that RFC 8785 gives a value. -/
def jcs (value : Json) : String := String.ofList (rfc8785.render value)

/-- A UTF-16 code unit, escaped. -/
def escapeUnit (n : Nat) : List Char :=
  [backslash, 'u', Nat.digitChar (n / 0x1000), Nat.digitChar (n / 0x100 % 0x10),
    Nat.digitChar (n / 0x10 % 0x10), Nat.digitChar (n % 0x10)]

/-- The character, escaped outside printable ASCII. -/
def asciiChar (c : Char) : List Char :=
  if 0x20 ≤ c.toNat ∧ c.toNat ≤ 0x7e then [c] else (utf16 c).flatMap escapeUnit

/-- `json.dumps(value, sort_keys=True, separators=(",", ":"))`. -/
def dumpsAscii (value : Json) : String :=
  String.ofList ((python.render value).flatMap asciiChar)

/-! ### Values all through -/

namespace Json

variable (onFloat : UInt64 → Prop) (onKeys : List String → Prop)

mutual

/-- Every binary64 and the keys of every object, at any depth, are as asked, and every text can be
encoded. -/
def Every : Json → Prop
  | .float bits => onFloat bits
  | .arr items => EveryItem items
  | .obj fields => onKeys (fields.map (·.1)) ∧ EveryField fields
  | .loneText _ | .loneKeys _ _ => False
  | _ => True

/-- Every item is one where it holds throughout. -/
def EveryItem : List Json → Prop
  | [] => True
  | item :: items => Every item ∧ EveryItem items

/-- Every value of an object is one where it holds throughout. -/
def EveryField : List (String × Json) → Prop
  | [] => True
  | (_, value) :: fields => Every value ∧ EveryField fields

end

mutual

/-- RFC 8785 can represent every number in the value, and every text can be encoded. -/
def representable : Json → Bool
  | .int n => n.natAbs < 2 ^ 53
  | .float bits => isFinite bits
  | .arr items => representableItems items
  | .obj fields => representableFields fields
  | .loneText _ | .loneKeys _ _ => false
  | _ => true

/-- Every item can be represented. -/
def representableItems : List Json → Bool
  | [] => true
  | item :: items => representable item && representableItems items

/-- Every value of an object can be represented. -/
def representableFields : List (String × Json) → Bool
  | [] => true
  | (_, value) :: fields => representable value && representableFields fields

end

/-- A value that Python can hold and RFC 8785 can write: keys differ, numbers are finite, and every text
can be encoded. -/
def WellFormed : Json → Prop := Every (fun bits => isFinite bits = true) List.Nodup

/-- No two keys stand one way by code points and the other way by UTF-16 code units. -/
def Orderly (keys : List String) : Prop :=
  ∀ k ∈ keys, ∀ l ∈ keys, ¬ (codePoints k < codePoints l ∧ codeUnits l < codeUnits k)

/-- Every number is laid out alike in both texts, and every two keys stand in one order. -/
def Plain : Json → Prop := Every (fun bits => (shortest bits).Plain) Orderly

variable {onFloat onKeys}

theorem everyItem_iff {items : List Json} :
    EveryItem onFloat onKeys items ↔ ∀ item ∈ items, Every onFloat onKeys item := by
  induction items with
  | nil => simp [EveryItem]
  | cons item items ih => simp [EveryItem, ih]

theorem everyField_iff {fields : List (String × Json)} :
    EveryField onFloat onKeys fields ↔ ∀ f ∈ fields, Every onFloat onKeys f.2 := by
  induction fields with
  | nil => simp [EveryField]
  | cons f fields ih =>
    obtain ⟨key, value⟩ := f
    simp only [EveryField, ih, List.forall_mem_cons]

@[simp] theorem every_arr {items : List Json} :
    Every onFloat onKeys (.arr items) ↔ ∀ item ∈ items, Every onFloat onKeys item := by
  rw [Every, everyItem_iff]

@[simp] theorem every_obj {fields : List (String × Json)} :
    Every onFloat onKeys (.obj fields) ↔
      onKeys (fields.map (·.1)) ∧ ∀ f ∈ fields, Every onFloat onKeys f.2 := by
  rw [Every, everyField_iff]

/-- Induction over a value and the values in it. -/
theorem induct {motive : Json → Prop} (null : motive .null) (bool : ∀ b, motive (.bool b))
    (int : ∀ n, motive (.int n)) (float : ∀ bits, motive (.float bits)) (str : ∀ s, motive (.str s))
    (arr : ∀ items, (∀ item ∈ items, motive item) → motive (.arr items))
    (obj : ∀ fields, (∀ f ∈ fields, motive f.2) → motive (.obj fields))
    (loneText : ∀ escaped, motive (.loneText escaped))
    (loneKeys : ∀ fields escaped, motive (.loneKeys fields escaped)) (value : Json) : motive value := by
  match value with
  | .null => exact null
  | .bool b => exact bool b
  | .int n => exact int n
  | .float bits => exact float bits
  | .str s => exact str s
  | .arr items =>
    refine arr items fun item hitem => ?_
    exact induct null bool int float str arr obj loneText loneKeys item
  | .obj fields =>
    refine obj fields fun f hf => ?_
    exact induct null bool int float str arr obj loneText loneKeys f.2
  | .loneText escaped => exact loneText escaped
  | .loneKeys fields escaped => exact loneKeys fields escaped
termination_by sizeOf value
decreasing_by
  · have := List.sizeOf_lt_of_mem hitem
    simp only [Json.arr.sizeOf_spec]
    omega
  · have := List.sizeOf_lt_of_mem hf
    obtain ⟨key, value⟩ := f
    simp only [Json.obj.sizeOf_spec, Prod.mk.sizeOf_spec] at this ⊢
    omega

end Json

namespace Style

variable {style : Style}

theorem renderItems_eq {items : List Json} : style.renderItems items = items.map style.render := by
  induction items with
  | nil => rfl
  | cons item items ih => rw [renderItems, ih, List.map_cons]

theorem renderFields_eq {fields : List (String × Json)} :
    style.renderFields fields = fields.map fun f => (f.1, style.render f.2) := by
  induction fields with
  | nil => rfl
  | cons f fields ih =>
    obtain ⟨key, value⟩ := f
    rw [renderFields, ih, List.map_cons]

/-- A field of an object, as it is written. -/
def field (style : Style) (f : String × Json) : List Char := member (f.1, style.render f.2)

theorem render_arr {items : List Json} :
    style.render (.arr items) = '[' :: (joined (items.map style.render) ++ [']']) := by
  rw [render, renderItems_eq]

/-- The fields of an object are sorted and then written. -/
theorem render_obj {fields : List (String × Json)} :
    style.render (.obj fields) = Char.ofNat 0x7b ::
      (joined ((fields.insertionSort style.Before).map style.field) ++ [Char.ofNat 0x7d]) := by
  have hsort : (style.renderFields fields).insertionSort style.Before =
      (fields.insertionSort style.Before).map fun f => (f.1, style.render f.2) := by
    rw [renderFields_eq]
    exact (List.map_insertionSort style.Before style.Before (fun f => (f.1, style.render f.2)) fields
      fun _ _ _ _ => Iff.rfl).symm
  rw [render, hsort, List.map_map]
  rfl

end Style

/-! ### Where a text ends -/

/-- What follows a text does not go on with a number. -/
def Ends (s : List Char) : Prop := ∀ c rest, s = c :: rest → isNumeric c = false

theorem ends_nil : Ends [] := by
  intro c rest h
  cases h

theorem ends_cons {c : Char} {rest : List Char} (h : isNumeric c = false) : Ends (c :: rest) := by
  rintro c' rest' ⟨⟩
  exact h

/-- A number ends where its characters do. -/
theorem numeric_append_inj {a b s t : List Char} (ha : ∀ c ∈ a, isNumeric c = true)
    (hb : ∀ c ∈ b, isNumeric c = true) (hs : Ends s) (ht : Ends t) (h : a ++ s = b ++ t) : a = b := by
  have hspan : ∀ {x y : List Char}, (∀ c ∈ x, isNumeric c = true) → Ends y →
      (x ++ y).takeWhile isNumeric = x := by
    intro x y hx hy
    rw [List.takeWhile_append_of_pos hx]
    cases y with
    | nil => simp
    | cons c rest => simp [hy c rest rfl]
  rw [← hspan ha hs, h, hspan hb ht]

/-- The code point an escape of one character stands for. -/
def escapedCode (e : Char) : Nat :=
  match e with
  | 'b' => 0x08
  | 't' => 0x09
  | 'n' => 0x0a
  | 'f' => 0x0c
  | 'r' => 0x0d
  | _ => e.toNat

theorem toNat_of_shortEscape {c e : Char} (h : shortEscape c = some e) : c.toNat = escapedCode e := by
  have hself : ∀ d ∈ [quotation, backslash], c.toNat = d.toNat → c.toNat = escapedCode c := by
    intro d hd hc
    have hcode : ∀ d ∈ [quotation, backslash], d.toNat = escapedCode d := by
      intro d hd
      rcases List.mem_pair.mp hd with rfl | rfl <;> rfl
    rw [Char.toNat_inj.mp hc]
    exact hcode d hd
  unfold shortEscape at h
  split at h <;> cases h
  · exact hself quotation (by decide) ‹_›
  · exact hself backslash (by decide) ‹_›
  all_goals assumption

theorem shortEscape_inj {c d e : Char} (hc : shortEscape c = some e) (hd : shortEscape d = some e) :
    c = d :=
  Char.toNat_inj.mp ((toNat_of_shortEscape hc).trans (toNat_of_shortEscape hd).symm)

theorem shortEscape_ne_u {c e : Char} (h : shortEscape c = some e) : e ≠ 'u' := by
  rintro rfl
  have hc := toNat_of_shortEscape h
  rw [show c = 'u' from Char.toNat_inj.mp hc] at h
  cases h

/-- A character that is written as itself is no backslash and no quotation mark. -/
theorem plain_of_shortEscape {c : Char} (h : shortEscape c = none) : c ≠ backslash ∧ c ≠ quotation := by
  constructor
  · rintro rfl
    cases h
  · rintro rfl
    cases h

theorem control_inj : ∀ m < 0x20, ∀ n < 0x20, Nat.digitChar (m / 16) = Nat.digitChar (n / 16) →
    Nat.digitChar (m % 16) = Nat.digitChar (n % 16) → m = n := by
  decide

/-- The escapes of characters can be told apart, whatever follows them. -/
theorem escapeChar_append_inj {c d : Char} {s t : List Char}
    (h : escapeChar c ++ s = escapeChar d ++ t) : c = d ∧ s = t := by
  unfold escapeChar at h
  -- each escape shows its kind in its first characters: a backslash and a letter, `\u00`, or the
  -- character itself
  cases hc : shortEscape c with
  | some e =>
    cases hd : shortEscape d with
    | some e' =>
      simp only [hc, hd, List.cons_append, List.nil_append, List.cons.injEq, true_and] at h
      obtain ⟨rfl, hs⟩ := h
      exact ⟨shortEscape_inj hc hd, hs⟩
    | none =>
      simp only [hc, hd] at h
      split at h
      · simp only [List.cons_append, List.nil_append, List.cons.injEq, true_and] at h
        exact absurd h.1 (shortEscape_ne_u hc)
      · simp only [List.cons_append, List.nil_append, List.cons.injEq] at h
        exact absurd h.1.symm (plain_of_shortEscape hd).1
  | none =>
    cases hd : shortEscape d with
    | some e' =>
      simp only [hc, hd] at h
      split at h
      · simp only [List.cons_append, List.nil_append, List.cons.injEq, true_and] at h
        exact absurd h.1.symm (shortEscape_ne_u hd)
      · simp only [List.cons_append, List.nil_append, List.cons.injEq] at h
        exact absurd h.1 (plain_of_shortEscape hc).1
    | none =>
      simp only [hc, hd] at h
      by_cases hcl : c.toNat < 0x20
      · by_cases hdl : d.toNat < 0x20
        · simp only [hcl, hdl, if_true, List.cons_append, List.nil_append, List.cons.injEq,
            true_and] at h
          exact ⟨Char.toNat_inj.mp (control_inj _ hcl _ hdl h.1 h.2.1), h.2.2⟩
        · simp only [hcl, hdl, if_true, if_false, List.cons_append, List.nil_append,
            List.cons.injEq] at h
          exact absurd h.1.symm (plain_of_shortEscape hd).1
      · by_cases hdl : d.toNat < 0x20
        · simp only [hcl, hdl, if_true, if_false, List.cons_append, List.nil_append,
            List.cons.injEq] at h
          exact absurd h.1 (plain_of_shortEscape hc).1
        · simpa [hcl, hdl] using h

/-- No escape starts with a quotation mark. -/
theorem escapeChar_ne_quotation {c : Char} {s t : List Char} : escapeChar c ++ s ≠ quotation :: t := by
  intro h
  unfold escapeChar at h
  cases hc : shortEscape c with
  | some e =>
    simp only [hc, List.cons_append, List.cons.injEq] at h
    exact absurd h.1 (by decide)
  | none =>
    simp only [hc] at h
    split at h
    · simp only [List.cons_append, List.cons.injEq] at h
      exact absurd h.1 (by decide)
    · simp only [List.cons_append, List.cons.injEq] at h
      exact (plain_of_shortEscape hc).2 h.1

/-- A quoted text ends at its quotation mark. -/
theorem quoted_append_inj {a b s t : List Char} (h : quoted a ++ s = quoted b ++ t) : a = b ∧ s = t := by
  simp only [quoted, List.cons_append, List.append_assoc, List.nil_append, List.cons.injEq,
    true_and] at h
  induction a generalizing b with
  | nil =>
    cases b with
    | nil => simpa using h
    | cons d b =>
      simp only [List.flatMap_nil, List.nil_append, List.flatMap_cons, List.append_assoc] at h
      exact absurd h.symm escapeChar_ne_quotation
  | cons c a ih =>
    cases b with
    | nil =>
      simp only [List.flatMap_nil, List.nil_append, List.flatMap_cons, List.append_assoc] at h
      exact absurd h escapeChar_ne_quotation
    | cons d b =>
      simp only [List.flatMap_cons, List.append_assoc] at h
      obtain ⟨rfl, hrest⟩ := escapeChar_append_inj h
      obtain ⟨rfl, hs⟩ := ih hrest
      exact ⟨rfl, hs⟩

/-! ### Lists of texts -/

/-- What follows the first of some texts: the others, or what closes the list. -/
def behind (texts : List (List Char)) (close : List Char) : List Char :=
  match texts with
  | [] => close
  | _ => ',' :: (joined texts ++ close)

theorem joined_cons_append {text : List Char} {texts : List (List Char)} {close : List Char} :
    joined (text :: texts) ++ close = text ++ behind texts close := by
  cases texts with
  | nil => rfl
  | cons _ _ => simp [joined, behind]

theorem ends_behind {texts : List (List Char)} {close : List Char} (h : Ends close) :
    Ends (behind texts close) := by
  cases texts with
  | nil => exact h
  | cons _ _ => exact ends_cons (by decide)

/-- Lists that go on alike both stop or both go on. -/
theorem behind_eq {texts texts' : List (List Char)} {c : Char} {s t : List Char} (hc : c ≠ ',')
    (h : behind texts (c :: s) = behind texts' (c :: t)) :
    (texts = [] ↔ texts' = []) ∧ joined texts ++ c :: s = joined texts' ++ c :: t := by
  cases texts with
  | nil =>
    cases texts' with
    | nil => exact ⟨Iff.rfl, h⟩
    | cons _ _ => exact absurd (List.cons.inj h).1 hc
  | cons _ _ =>
    cases texts' with
    | nil => exact absurd (List.cons.inj h).1.symm hc
    | cons _ _ => exact ⟨by simp, (List.cons.inj h).2⟩

/-! ### The order of keys -/

theorem codePoints_inj {k l : String} (h : codePoints k = codePoints l) : k = l := by
  apply String.toList_inj.mp
  exact (List.map_injective_iff.mpr fun _ _ => Char.toNat_inj.mp) h

theorem utf16_append_inj {c d : Char} {s t : List Nat} (h : utf16 c ++ s = utf16 d ++ t) :
    c = d ∧ s = t := by
  have hvalid : ∀ e : Char, e.toNat < 0xd800 ∨ 0xe000 ≤ e.toNat ∧ e.toNat < 0x110000 := by
    intro e
    rcases e.valid with h | h
    · exact .inl h
    · exact .inr ⟨by have := h.1; show 0xe000 ≤ e.val.toNat; omega, h.2⟩
  have hc := hvalid c
  have hd := hvalid d
  unfold utf16 at h
  split at h <;> split at h <;> simp only [List.cons_append, List.nil_append, List.cons.injEq] at h
  · exact ⟨Char.toNat_inj.mp h.1, h.2⟩
  · omega
  · omega
  · refine ⟨Char.toNat_inj.mp ?_, h.2.2⟩
    omega

theorem codeUnits_inj {k l : String} (h : codeUnits k = codeUnits l) : k = l := by
  apply String.toList_inj.mp
  unfold codeUnits at h
  generalize k.toList = a at h
  generalize l.toList = b at h
  have hne : ∀ {c : Char} {s : List Nat}, utf16 c ++ s ≠ [] := by
    intro c s
    unfold utf16
    split <;> simp
  induction a generalizing b with
  | nil =>
    cases b with
    | nil => rfl
    | cons d b => exact absurd h.symm hne
  | cons c a ih =>
    cases b with
    | nil => exact absurd h hne
    | cons d b =>
      obtain ⟨rfl, hrest⟩ := utf16_append_inj (by simpa using h)
      rw [ih b hrest]

namespace Style

variable {style : Style} {α : Type}

instance : Std.Total (style.Before (α := α)) := ⟨fun f g => le_total (style.units f.1) (style.units g.1)⟩

instance : IsTrans (String × α) style.Before := ⟨fun _ _ _ h h' => le_trans h h'⟩

/-- Sorted by one order and by the other, fields with different keys stand alike exactly
when the two orders agree on every two keys. -/
theorem insertionSort_eq_iff {fields : List (String × α)} (hkeys : (fields.map (·.1)).Nodup) :
    fields.insertionSort python.Before = fields.insertionSort rfc8785.Before ↔
      Json.Orderly (fields.map (·.1)) := by
  have hsame : ∀ f ∈ fields, ∀ g ∈ fields, f.1 = g.1 → f = g :=
    fun _ hf _ hg => List.inj_on_of_nodup_map hkeys hf hg
  constructor
  · intro heq
    have hpoints := List.pairwise_insertionSort python.Before fields
    have hunits := List.pairwise_insertionSort rfc8785.Before fields
    rw [← heq] at hunits
    intro k hk l hl hcross
    obtain ⟨f, hf, rfl⟩ := List.mem_map.mp hk
    obtain ⟨g, hg, rfl⟩ := List.mem_map.mp hl
    have hne : f ≠ g := by
      rintro rfl
      exact lt_irrefl _ hcross.1
    -- in the common order one of the two stands first by either reckoning
    let Cross (f g : String × α) : Prop := codePoints f.1 < codePoints g.1 ∧ codeUnits g.1 < codeUnits f.1
    have hsymm : Std.Symm fun f g : String × α => ¬ Cross f g ∧ ¬ Cross g f := ⟨fun _ _ h => ⟨h.2, h.1⟩⟩
    have hnone : (fields.insertionSort python.Before).Pairwise fun f g => ¬ Cross f g ∧ ¬ Cross g f := by
      refine (hpoints.and hunits).imp fun h => ⟨?_, ?_⟩
      · intro hcross
        exact not_lt_of_ge h.2 hcross.2
      · intro hcross
        exact not_lt_of_ge h.1 hcross.1
    have hf' := (List.mem_insertionSort (r := python.Before)).mpr hf
    have hg' := (List.mem_insertionSort (r := python.Before)).mpr hg
    exact (hnone.forall hf' hg' hne).1 hcross
  · intro horderly
    have hunits : (fields.insertionSort python.Before).Pairwise rfc8785.Before := by
      refine (List.pairwise_insertionSort python.Before fields).imp_of_mem ?_
      intro f g hf hg hfg
      by_cases hcross : codeUnits g.1 < codeUnits f.1
      · rcases Classical.em (codePoints f.1 < codePoints g.1) with hlt | hnot
        · exact absurd ⟨hlt, hcross⟩ (horderly _ (List.mem_map_of_mem ((List.mem_insertionSort _).mp hf))
            _ (List.mem_map_of_mem ((List.mem_insertionSort _).mp hg)))
        · rw [codePoints_inj (le_antisymm hfg (not_lt.mp hnot))] at hcross
          exact absurd hcross (lt_irrefl _)
      · exact not_lt.mp hcross
    refine List.Perm.eq_of_pairwise ?_ hunits (List.pairwise_insertionSort rfc8785.Before fields)
      ((List.perm_insertionSort _ _).trans (List.perm_insertionSort _ _).symm)
    intro f g hf hg hfg hgf
    exact hsame f ((List.mem_insertionSort _).mp hf) g ((List.mem_insertionSort _).mp hg)
      (codeUnits_inj (le_antisymm hfg hgf))

end Style

/-! ### Where the two texts agree -/

/-- Values that are plain are written alike. -/
theorem render_eq_of_plain {value : Json} (hwell : value.WellFormed) (hplain : value.Plain) :
    python.render value = rfc8785.render value := by
  induction value using Json.induct with
  | null => rfl
  | bool b => rfl
  | int n => rfl
  | float bits =>
    have hwell : isFinite bits = true := hwell
    show reprFloat bits = esFloat bits
    rw [reprFloat, if_pos hwell]
    exact reprDecimal_eq_esDecimal_iff.mpr hplain
  | str s => rfl
  | arr items ih =>
    have hwell := Json.every_arr.mp hwell
    have hplain := Json.every_arr.mp hplain
    rw [Style.render_arr, Style.render_arr]
    congr 3
    exact List.map_congr_left fun item hitem => ih item hitem (hwell item hitem) (hplain item hitem)
  | obj fields ih =>
    have hwell := Json.every_obj.mp hwell
    have hplain := Json.every_obj.mp hplain
    rw [Style.render_obj, Style.render_obj, (Style.insertionSort_eq_iff hwell.1).mpr hplain.1]
    congr 3
    refine List.map_congr_left fun f hf => ?_
    have hf := (List.mem_insertionSort _).mp hf
    rw [Style.field, Style.field, ih f hf (hwell.2 f hf) (hplain.2 f hf)]
  | loneText escaped => rfl
  | loneKeys fields escaped => rfl

/-- The two texts of a value, where one can be told from what follows it. -/
def Tells (value : Json) : Prop :=
  ∀ s t, Ends s → Ends t → python.render value ++ s = rfc8785.render value ++ t → value.Plain

theorem ends_bracket {s : List Char} : Ends (']' :: s) := ends_cons (by decide)

theorem ends_brace {s : List Char} : Ends (Char.ofNat 0x7d :: s) := ends_cons (by decide)

theorem plain_of_joined {items : List Json} (hwell : ∀ item ∈ items, item.WellFormed)
    (htells : ∀ item ∈ items, Tells item) {s t : List Char}
    (h : joined (items.map python.render) ++ ']' :: s = joined (items.map rfc8785.render) ++ ']' :: t) :
    ∀ item ∈ items, item.Plain := by
  induction items with
  | nil => simp
  | cons item items ih =>
    rw [List.map_cons, List.map_cons, joined_cons_append, joined_cons_append] at h
    have hplain := htells item (by simp) _ _ (ends_behind ends_bracket) (ends_behind ends_bracket) h
    rw [render_eq_of_plain (hwell item (by simp)) hplain, List.append_cancel_left_eq] at h
    have hrest := (behind_eq (by decide) h).2
    simp only [List.forall_mem_cons] at hwell htells ⊢
    exact ⟨hplain, ih hwell.2 htells.2 hrest⟩

/-- Two orders of the fields of an object that are written alike are one order. -/
theorem plain_of_fields {fields fields' : List (String × Json)} (hperm : fields.Perm fields')
    (hkeys : (fields.map (·.1)).Nodup) (hwell : ∀ f ∈ fields, f.2.WellFormed)
    (htells : ∀ f ∈ fields, Tells f.2) {s t : List Char}
    (h : joined (fields.map python.field) ++ Char.ofNat 0x7d :: s =
      joined (fields'.map rfc8785.field) ++ Char.ofNat 0x7d :: t) :
    fields = fields' ∧ ∀ f ∈ fields, f.2.Plain := by
  induction fields generalizing fields' with
  | nil => exact ⟨(List.nil_perm.mp hperm).symm, by simp⟩
  | cons f fields ih =>
    cases fields' with
    | nil => exact absurd hperm.symm (by simp)
    | cons g fields' =>
      rw [List.map_cons, List.map_cons, joined_cons_append, joined_cons_append] at h
      simp only [Style.field, member, List.append_assoc] at h
      obtain ⟨hkey, h⟩ := quoted_append_inj h
      have hg : g ∈ f :: fields := hperm.mem_iff.mpr (by simp)
      obtain rfl : f = g :=
        List.inj_on_of_nodup_map hkeys (by simp) hg (String.toList_inj.mp hkey)
      simp only [List.cons_append, List.cons.injEq, true_and] at h
      have hplain := htells f (by simp) _ _ (ends_behind ends_brace) (ends_behind ends_brace) h
      rw [render_eq_of_plain (hwell f (by simp)) hplain, List.append_cancel_left_eq] at h
      have hrest := (behind_eq (by decide) h).2
      simp only [List.forall_mem_cons, List.map_cons, List.nodup_cons] at hkeys hwell htells ⊢
      obtain ⟨hsame, hall⟩ := ih ((List.perm_cons f).mp hperm) hkeys.2 hwell.2 htells.2 hrest
      exact ⟨by rw [hsame], hplain, hall⟩

theorem tells {value : Json} (hwell : value.WellFormed) : Tells value := by
  intro s t hs ht h
  induction value using Json.induct generalizing s t with
  | null => trivial
  | bool b => trivial
  | int n => trivial
  | float bits =>
    have hwell : isFinite bits = true := hwell
    have h : reprFloat bits ++ s = esFloat bits ++ t := h
    rw [reprFloat, if_pos hwell] at h
    exact reprDecimal_eq_esDecimal_iff.mp (numeric_append_inj (fun _ => isNumeric_of_reprDecimal)
      (fun _ => isNumeric_of_esDecimal) hs ht h)
  | str s => trivial
  | arr items ih =>
    have hwell := Json.every_arr.mp hwell
    rw [Style.render_arr, Style.render_arr] at h
    simp only [List.cons_append, List.append_assoc, List.nil_append, List.cons.injEq, true_and] at h
    refine Json.every_arr.mpr (plain_of_joined hwell ?_ h)
    intro item hitem s t hs ht h
    exact ih item hitem (hwell item hitem) s t hs ht h
  | obj fields ih =>
    have hwell := Json.every_obj.mp hwell
    rw [Style.render_obj, Style.render_obj] at h
    simp only [List.cons_append, List.append_assoc, List.nil_append, List.cons.injEq, true_and] at h
    have hsorted := List.perm_insertionSort python.Before fields
    obtain ⟨hsame, hplain⟩ := plain_of_fields
      (hsorted.trans (List.perm_insertionSort rfc8785.Before fields).symm)
      ((hsorted.map _).nodup_iff.mpr hwell.1)
      (fun f hf => hwell.2 f (hsorted.mem_iff.mp hf))
      (fun f hf s t hs ht h => ih f (hsorted.mem_iff.mp hf) (hwell.2 f (hsorted.mem_iff.mp hf)) s t hs
        ht h) h
    exact Json.every_obj.mpr ⟨(Style.insertionSort_eq_iff hwell.1).mp hsame,
      fun f hf => hplain f (hsorted.mem_iff.mpr hf)⟩
  | loneText escaped => exact hwell.elim
  | loneKeys fields escaped => exact hwell.elim

/-- **The two canonical texts of a value are one text exactly when the value is plain.** -/
theorem dumps_eq_jcs_iff {value : Json} (hwell : value.WellFormed) :
    dumps value = jcs value ↔ value.Plain := by
  constructor
  · intro h
    refine tells hwell [] [] ends_nil ends_nil ?_
    have htext := congrArg String.toList h
    simpa [dumps, jcs] using htext
  · intro h
    rw [dumps, jcs, render_eq_of_plain hwell h]

end EidolonHub.Library.Python
