import EidolonHub.Library.Python

/-!
# EidolonHub.Library.Slug

**Texts that a short identifier cannot tell apart.** Two normal forms of a text, each of them cut
to a length: one fills in for every character of a set, one for every run of such characters.
When two texts come out alike is said here of the texts themselves, place by place for the first
form and mark by mark for the second.
-/

namespace EidolonHub.Library.Slug

open Python

variable {p : Char → Bool} {fill : Char} {n : Nat} {s t s' t' : List Char}

/-! ### Place by place -/

/-- One character of the first form. -/
def fillChar (p : Char → Bool) (fill c : Char) : Char := if p c then fill else c

/-- What is filled in for, or looks like it. -/
def Blank (p : Char → Bool) (fill c : Char) : Prop := p c ∨ c = fill

/-- Two places, either of them possibly past the end, that look the same in the first form. -/
def Blurred (p : Char → Bool) (fill : Char) (a b : Option Char) : Prop :=
  a = b ∨ ∃ c ∈ a, ∃ d ∈ b, Blank p fill c ∧ Blank p fill d

theorem fillChar_blank {c : Char} (h : Blank p fill c) : fillChar p fill c = fill := by
  unfold fillChar
  rcases h with h | rfl
  · rw [if_pos h]
  · exact ite_self c

theorem fillChar_eq_iff {c d : Char} :
    fillChar p fill c = fillChar p fill d ↔ c = d ∨ Blank p fill c ∧ Blank p fill d := by
  constructor
  · intro h
    by_cases hc : p c <;> by_cases hd : p d <;> simp only [fillChar, hc, hd] at h
    · exact .inr ⟨.inl hc, .inl hd⟩
    · exact .inr ⟨.inl hc, .inr (by simpa using h.symm)⟩
    · exact .inr ⟨.inr (by simpa using h), .inl hd⟩
    · exact .inl (by simpa using h)
  · rintro (rfl | ⟨hc, hd⟩)
    · rfl
    · rw [fillChar_blank hc, fillChar_blank hd]

theorem map_fillChar_eq_iff {a b : Option Char} :
    a.map (fillChar p fill) = b.map (fillChar p fill) ↔ Blurred p fill a b := by
  unfold Blurred
  cases a <;> cases b <;> simp [fillChar_eq_iff]

/-- Two texts share the first form where no place that is kept tells them apart. -/
theorem take_map_fillChar_eq_iff :
    (s.map (fillChar p fill)).take n = (t.map (fillChar p fill)).take n ↔
      ∀ i < n, Blurred p fill s[i]? t[i]? := by
  constructor
  · intro h i hi
    have hplace := congrArg (·[i]?) h
    simp only [List.getElem?_take_of_lt hi, List.getElem?_map] at hplace
    exact map_fillChar_eq_iff.mp hplace
  · intro h
    refine List.ext_getElem? fun i => ?_
    by_cases hi : i < n
    · simp only [List.getElem?_take_of_lt hi, List.getElem?_map]
      exact map_fillChar_eq_iff.mpr (h i hi)
    · rw [List.getElem?_take_eq_none (by omega), List.getElem?_take_eq_none (by omega)]

/-! ### Mark by mark -/

/-- A text that begins with a gap, and what is behind it: a `fill` of its own is a gap, and a
longest run of `p`. -/
inductive Gap (p : Char → Bool) (fill : Char) : List Char → List Char → Prop
  | own (s : List Char) : Gap p fill (fill :: s) s
  | run (c : Char) (s : List Char) : p c → Gap p fill (c :: s) (s.dropWhile p)

/-- Two texts whose first `n` marks agree; a mark is a gap or any other character. -/
inductive SameMarks (p : Char → Bool) (fill : Char) : Nat → List Char → List Char → Prop
  | cut (s t : List Char) : SameMarks p fill 0 s t
  | ended (n : Nat) : SameMarks p fill n [] []
  | char {n : Nat} {s t : List Char} (c : Char) : ¬Blank p fill c → SameMarks p fill n s t →
      SameMarks p fill (n + 1) (c :: s) (c :: t)
  | gap {n : Nat} {s s' t t' : List Char} : Gap p fill s s' → Gap p fill t t' →
      SameMarks p fill n s' t' → SameMarks p fill (n + 1) s t

theorem subRunsFrom_inRun : subRunsFrom p fill true s = subRunsFrom p fill false (s.dropWhile p) := by
  induction s with
  | nil => rfl
  | cons c s ih =>
    cases hc : p c with
    | true => rw [List.dropWhile_cons_of_pos hc, ← ih, subRunsFrom, if_pos hc, if_pos rfl]
    | false =>
      rw [List.dropWhile_cons_of_neg (by simp [hc])]
      simp [subRunsFrom, hc]

theorem subRunsFrom_nil (inRun : Bool) : subRunsFrom p fill inRun [] = [] := by
  cases inRun <;> rfl

theorem subRunsFrom_gap (hfill : p fill = false) (h : Gap p fill s s') :
    subRunsFrom p fill false s = fill :: subRunsFrom p fill false s' := by
  cases h with
  | own => simp [subRunsFrom, hfill]
  | run c s hc => simp [subRunsFrom, hc, subRunsFrom_inRun]

theorem subRunsFrom_char {c : Char} (hc : ¬Blank p fill c) :
    subRunsFrom p fill false (c :: s) = c :: subRunsFrom p fill false s := by
  have hnot : p c = false := Bool.eq_false_iff.mpr fun h => hc (.inl h)
  simp [subRunsFrom, hnot]

/-- How a text begins. -/
theorem begins (p : Char → Bool) (fill : Char) (s : List Char) :
    s = [] ∨ (∃ c s', s = c :: s' ∧ ¬Blank p fill c) ∨ ∃ s', Gap p fill s s' := by
  cases s with
  | nil => exact .inl rfl
  | cons c s =>
    by_cases hc : Blank p fill c
    · rcases hc with hc | rfl
      · exact .inr (.inr ⟨_, .run c s hc⟩)
      · exact .inr (.inr ⟨s, .own s⟩)
    · exact .inr (.inl ⟨c, s, rfl, hc⟩)

/-- Two texts share the second form where the marks that are kept agree. -/
theorem take_subRunsFrom_eq_iff (hfill : p fill = false) :
    (subRunsFrom p fill false s).take n = (subRunsFrom p fill false t).take n ↔
      SameMarks p fill n s t := by
  constructor
  · intro h
    induction n generalizing s t with
    | zero => exact .cut s t
    | succ n ih =>
      rcases begins p fill s with rfl | ⟨c, s', rfl, hc⟩ | ⟨s', hs⟩ <;>
        rcases begins p fill t with rfl | ⟨d, t', rfl, hd⟩ | ⟨t', ht⟩
      · exact .ended _
      · simp [subRunsFrom_char hd, subRunsFrom_nil] at h
      · simp [subRunsFrom_gap hfill ht, subRunsFrom_nil] at h
      · simp [subRunsFrom_char hc, subRunsFrom_nil] at h
      · simp only [subRunsFrom_char hc, subRunsFrom_char hd, List.take_succ_cons, List.cons.injEq] at h
        obtain ⟨rfl, hrest⟩ := h
        exact .char c hc (ih hrest)
      · simp only [subRunsFrom_char hc, subRunsFrom_gap hfill ht, List.take_succ_cons, List.cons.injEq] at h
        exact absurd (.inr h.1) hc
      · simp [subRunsFrom_gap hfill hs, subRunsFrom_nil] at h
      · simp only [subRunsFrom_gap hfill hs, subRunsFrom_char hd, List.take_succ_cons, List.cons.injEq] at h
        exact absurd (.inr h.1.symm) hd
      · simp only [subRunsFrom_gap hfill hs, subRunsFrom_gap hfill ht, List.take_succ_cons,
          List.cons.injEq, true_and] at h
        exact .gap hs ht (ih h)
  · intro h
    induction h with
    | cut => rfl
    | ended => rfl
    | char c hc _ ih => rw [subRunsFrom_char hc, subRunsFrom_char hc, List.take_succ_cons, ih, List.take_succ_cons]
    | gap hs ht _ ih =>
      rw [subRunsFrom_gap hfill hs, subRunsFrom_gap hfill ht, List.take_succ_cons, ih, List.take_succ_cons]

end EidolonHub.Library.Slug
