import Mathlib.Logic.Function.Basic

/-!
# EidolonHub.Library.ReadModel

**A copy that calls keep up to date.** A source gives each key a version and a value, and a copy
is meant to show the values. A call that changed the source refreshes the copy in two steps: it
reads the source, and later it stores what it read. Between these steps other calls take theirs.

The copy shows the source again whenever no call is at work, as long as every change that can be
seen has a read after it, every read succeeds, and nothing is stored over a later version.
-/

namespace EidolonHub.Library

/-- What a call still owes the copy. -/
inductive Duty (κ ν : Type) where
  | none
  | read (k : κ)
  | store (k : κ) (version : Nat) (value : ν)

/-- A source, its copy, and the calls at work on them. -/
@[ext] structure ReadModel (κ ν : Type) where
  version : κ → Nat
  /-- `none` where the source cannot be read -/
  value : κ → Option ν
  copy : κ → ν
  /-- the version that each copy was read at -/
  copied : κ → Nat
  duty : Nat → Duty κ ν

namespace ReadModel

variable {κ ν : Type} {s s' : ReadModel κ ν} {c n v : Nat} {k : κ} {x : ν}

/-- The call owes the copy something else from now on. -/
def withDuty (s : ReadModel κ ν) (c : Nat) (duty : Duty κ ν) : ReadModel κ ν :=
  { s with duty := Function.update s.duty c duty }

/-- This value was read at this version: the copy has it, or a call is about to store it. -/
def Known (s : ReadModel κ ν) (k : κ) (v : Nat) (x : ν) : Prop :=
  (s.copied k = v ∧ s.copy k = x) ∨ ∃ c, s.duty c = .store k v x

/-- **The value of the key dates from version `n`**: whatever was read at `n` or later is that
value, and something was stored that was read at `n` or later, or will be. -/
structure DatesFrom (s : ReadModel κ ν) (k : κ) (n : Nat) : Prop where
  bound : n ≤ s.version k
  current : ∀ v x, s.Known k v x → v ≤ s.version k ∧ (n ≤ v → s.value k = some x)
  covered : n ≤ s.copied k ∨ (∃ c, s.duty c = .read k) ∨
    ∃ c v x, s.duty c = .store k v x ∧ n ≤ v

/-- Each value dates from some version. -/
def Kept (s : ReadModel κ ν) : Prop := ∀ k, ∃ n, s.DatesFrom k n

/-- A copy that shows what was read at the present versions. -/
theorem kept_of_current (hcopied : s.copied = s.version) (hvalue : ∀ k, s.value k = some (s.copy k))
    (hduty : ∀ c, s.duty c = .none) : s.Kept := by
  intro k
  refine ⟨s.version k, Nat.le_refl _, ?_, .inl (Nat.le_of_eq (congrFun hcopied k).symm)⟩
  intro v x hknown
  rcases hknown with ⟨rfl, rfl⟩ | ⟨c, hc⟩
  · exact ⟨Nat.le_of_eq (congrFun hcopied k), fun _ => hvalue k⟩
  · rw [hduty c] at hc
    cases hc

/-- **Where no call owes anything, the copy shows the source.** -/
theorem Kept.agrees (h : s.Kept) (hrest : ∀ c, s.duty c = .none) (k : κ) :
    s.value k = some (s.copy k) := by
  obtain ⟨n, -, hcurrent, hcovered⟩ := h k
  rcases hcovered with hcopied | ⟨c, hc⟩ | ⟨c, v, x, hc, -⟩
  · exact (hcurrent _ _ (.inl ⟨rfl, rfl⟩)).2 hcopied
  · rw [hrest c] at hc
    cases hc
  · rw [hrest c] at hc
    cases hc

/-! ### One step -/

/-- A call that owed nothing changes the source: a value that is another afterwards has a higher
version, and some call has still to read it. -/
structure Writes (s s' : ReadModel κ ν) (c : Nat) : Prop where
  idle : s.duty c = .none
  copy : s'.copy = s.copy
  copied : s'.copied = s.copied
  others : ∀ b, b ≠ c → s'.duty b = s.duty b
  own : ∀ k v x, s'.duty c ≠ .store k v x
  source : ∀ k, (s'.version k = s.version k ∧ s'.value k = s.value k) ∨ s.version k < s'.version k ∧
    (s'.value k = s.value k ∨ ∃ b, s'.duty b = .read k)

theorem Writes.duty_of (h : s.Writes s' c) {b : Nat} (hb : s.duty b ≠ .none) : s'.duty b = s.duty b :=
  h.others b fun heq => hb (heq ▸ h.idle)

theorem Writes.known (h : s.Writes s' c) (hknown : s'.Known k v x) : s.Known k v x := by
  rcases hknown with hcopy | ⟨b, hb⟩
  · rw [h.copied, h.copy] at hcopy
    exact .inl hcopy
  · have hne : b ≠ c := by
      rintro rfl
      exact h.own _ _ _ hb
    exact .inr ⟨b, (h.others b hne).symm.trans hb⟩

theorem Kept.write (h : s.Kept) (hwrites : s.Writes s' c) : s'.Kept := by
  intro k
  obtain ⟨n, hbound, hcurrent, hcovered⟩ := h k
  -- a value that stays dates from where it did
  have hstays (hversion : s.version k ≤ s'.version k) (hvalue : s'.value k = s.value k) :
      s'.DatesFrom k n := by
    refine ⟨Nat.le_trans hbound hversion, ?_, ?_⟩
    · intro v x hknown
      obtain ⟨hv, hx⟩ := hcurrent v x (hwrites.known hknown)
      exact ⟨Nat.le_trans hv hversion, fun hn => hvalue.trans (hx hn)⟩
    · rcases hcovered with hcopied | ⟨b, hb⟩ | ⟨b, v, x, hb, hn⟩
      · exact .inl (hwrites.copied ▸ hcopied)
      · exact .inr (.inl ⟨b, (hwrites.duty_of (by simp [hb])).trans hb⟩)
      · exact .inr (.inr ⟨b, v, x, (hwrites.duty_of (by simp [hb])).trans hb, hn⟩)
  rcases hwrites.source k with ⟨hversion, hvalue⟩ | ⟨hversion, hvalue | hread⟩
  · exact ⟨n, hstays (Nat.le_of_eq hversion.symm) hvalue⟩
  · exact ⟨n, hstays (Nat.le_of_lt hversion) hvalue⟩
  · refine ⟨s'.version k, Nat.le_refl _, ?_, .inr (.inl hread)⟩
    intro v x hknown
    have hv := (hcurrent v x (hwrites.known hknown)).1
    exact ⟨by omega, fun hn => absurd hn (by omega)⟩

/-- A call that owes something else from now on: what it is about to store was read as it says, and
what only this call would have stored it still stores, or the copy has it. -/
theorem DatesFrom.withDuty {d : Duty κ ν} (h : s.DatesFrom k n)
    (hcurrent : ∀ v x, d = .store k v x → v ≤ s.version k ∧ (n ≤ v → s.value k = some x))
    (hcovered : (s.duty c = .read k ∨ ∃ v x, s.duty c = .store k v x ∧ n ≤ v) →
      n ≤ s.copied k ∨ ∃ v x, d = .store k v x ∧ n ≤ v) : (s.withDuty c d).DatesFrom k n := by
  have hself : (s.withDuty c d).duty c = d := Function.update_self ..
  have hother {b : Nat} (hb : b ≠ c) : (s.withDuty c d).duty b = s.duty b := Function.update_of_ne hb ..
  refine ⟨h.bound, ?_, ?_⟩
  · intro v x hknown
    rcases hknown with hcopy | ⟨b, hb⟩
    · exact h.current v x (.inl hcopy)
    · by_cases hc : b = c
      · subst hc
        exact hcurrent v x (hself.symm.trans hb)
      · exact h.current v x (.inr ⟨b, (hother hc).symm.trans hb⟩)
  · have hown (howed : s.duty c = .read k ∨ ∃ v x, s.duty c = .store k v x ∧ n ≤ v) :
        n ≤ (s.withDuty c d).copied k ∨ (∃ b, (s.withDuty c d).duty b = .read k) ∨
          ∃ b v x, (s.withDuty c d).duty b = .store k v x ∧ n ≤ v := by
      rcases hcovered howed with hcopied | ⟨v, x, hd, hn⟩
      · exact .inl hcopied
      · exact .inr (.inr ⟨c, v, x, hself.trans hd, hn⟩)
    rcases h.covered with hcopied | ⟨b, hb⟩ | ⟨b, v, x, hb, hn⟩
    · exact .inl hcopied
    · by_cases hc : b = c
      · exact hown (.inl (hc ▸ hb))
      · exact .inr (.inl ⟨b, (hother hc).trans hb⟩)
    · by_cases hc : b = c
      · exact hown (.inr ⟨v, x, hc ▸ hb, hn⟩)
      · exact .inr (.inr ⟨b, v, x, (hother hc).trans hb, hn⟩)

/-- A call that owes a read reads the present value. -/
theorem Kept.read (h : s.Kept) (hduty : s.duty c = .read k) (hvalue : s.value k = some x) :
    (s.withDuty c (.store k (s.version k) x)).Kept := by
  intro j
  obtain ⟨n, hdates⟩ := h j
  refine ⟨n, hdates.withDuty ?_ ?_⟩
  · intro v y heq
    cases heq
    exact ⟨Nat.le_refl _, fun _ => hvalue⟩
  · intro howed
    simp only [hduty, Duty.read.injEq, reduceCtorEq, false_and, exists_false, or_false] at howed
    subst howed
    exact .inr ⟨_, _, rfl, hdates.bound⟩

/-- A call that owes a read of a key at version zero may give it up. -/
theorem Kept.missing (h : s.Kept) (hduty : s.duty c = .read k) (hversion : s.version k = 0) :
    (s.withDuty c .none).Kept := by
  intro j
  obtain ⟨n, hdates⟩ := h j
  refine ⟨n, hdates.withDuty (by simp) ?_⟩
  intro howed
  simp only [hduty, Duty.read.injEq, reduceCtorEq, false_and, exists_false, or_false] at howed
  subst howed
  have hbound := hdates.bound
  omega

/-- What was read goes into the copy. -/
def stored [DecidableEq κ] (s : ReadModel κ ν) (k : κ) (v : Nat) (x : ν) : ReadModel κ ν :=
  { s with copy := Function.update s.copy k x, copied := Function.update s.copied k v }

theorem DatesFrom.stored [DecidableEq κ] {j : κ} (h : s.DatesFrom j n) (hduty : s.duty c = .store k v x)
    (hlater : s.copied k ≤ v) : (s.stored k v x).DatesFrom j n := by
  by_cases hj : j = k
  · subst hj
    have hcopied : (s.stored j v x).copied j = v := Function.update_self ..
    have hcopy : (s.stored j v x).copy j = x := Function.update_self ..
    refine ⟨h.bound, ?_, ?_⟩
    · intro w y hknown
      rcases hknown with ⟨hw, hy⟩ | hstore
      · rw [← hcopied.symm.trans hw, ← hcopy.symm.trans hy]
        exact h.current v x (.inr ⟨c, hduty⟩)
      · exact h.current w y (.inr hstore)
    · rw [hcopied]
      exact h.covered.imp (fun hn => Nat.le_trans hn hlater) id
  · have hcopied : (s.stored k v x).copied j = s.copied j := Function.update_of_ne hj ..
    have hcopy : (s.stored k v x).copy j = s.copy j := Function.update_of_ne hj ..
    refine ⟨h.bound, ?_, ?_⟩
    · intro w y hknown
      unfold Known at hknown
      rw [hcopied, hcopy] at hknown
      exact h.current w y hknown
    · rw [hcopied]
      exact h.covered

/-- A call stores what it read, over nothing that was read at a later version. -/
theorem Kept.store [DecidableEq κ] (h : s.Kept) (hduty : s.duty c = .store k v x)
    (hlater : s.copied k ≤ v) : ((s.stored k v x).withDuty c .none).Kept := by
  intro j
  obtain ⟨n, hdates⟩ := h j
  refine ⟨n, (hdates.stored hduty hlater).withDuty (by simp) ?_⟩
  intro howed
  have hstored : (s.stored k v x).duty c = .store k v x := hduty
  rw [hstored] at howed
  rcases howed with hread | ⟨w, y, hstore, hn⟩
  · cases hread
  · cases hstore
    left
    show n ≤ Function.update s.copied k v k
    rw [Function.update_self]
    exact hn

end ReadModel

end EidolonHub.Library
