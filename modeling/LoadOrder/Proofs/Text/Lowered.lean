/-
  LoadOrder/Proofs/Text/Lowered.lean
  ==================================
  **A text in lower case stays as it is.**

  A search puts its needle into lower case, and so does whoever asks for it, so the needle
  goes through the mapping twice.  That this is the same as once is no matter of course:
  it says that no lower-case form has a lower-case form of its own.

  Of the table it is enough to compare the runs in pairs.  The forms of a run are a run
  themselves (`CaseRun.forms`), and two runs that overlap may still have nothing in common
  if both go in steps of two and start on different sides (`CaseRun.apart`): so it is where
  large and small letters alternate.  What stands around a `Σ` does not matter here,
  because none is left.
-/
import LoadOrder.Proofs.Text.Lowercase
import Mathlib.Data.Nat.ModEq

namespace LoadOrder.Text

/-! ### Runs -/

namespace CaseRun

/-- The lower-case forms of a run. -/
def forms (r : CaseRun) : CaseRun where
  first := (r.first + r.shift).toNat
  last := (r.last + r.shift).toNat
  step := r.step
  shift := 0

/-- Whether two runs have nothing in common, judged by their ends and their steps. -/
def apart (r q : CaseRun) : Bool :=
  r.last.blt q.first || q.last.blt r.first
    || ((r.first == r.last || r.step % q.step == 0) && r.first % q.step != q.first % q.step)

variable {r q : CaseRun} {n : Nat}

theorem covers_iff :
    r.covers n = true ↔ r.first ≤ n ∧ n ≤ r.last ∧ r.first ≡ n [MOD r.step] := by
  simp only [covers, Bool.and_eq_true, decide_eq_true_eq, beq_iff_eq, and_assoc]
  constructor
  · rintro ⟨hfirst, hlast, hstep⟩
    exact ⟨hfirst, hlast, (Nat.modEq_iff_dvd' hfirst).mpr (Nat.dvd_of_mod_eq_zero hstep)⟩
  · rintro ⟨hfirst, hlast, hstep⟩
    exact ⟨hfirst, hlast, Nat.mod_eq_zero_of_dvd ((Nat.modEq_iff_dvd' hfirst).mp hstep)⟩

theorem not_covers_of_apart (h : r.apart q = true) (hr : r.covers n = true) :
    q.covers n = false := by
  rw [covers_iff] at hr
  obtain ⟨hfirst, hlast, hstep⟩ := hr
  by_contra hq
  rw [Bool.not_eq_false, covers_iff] at hq
  obtain ⟨hfirst', hlast', hstep'⟩ := hq
  simp only [apart, Bool.or_eq_true, Bool.and_eq_true, Nat.blt_eq, beq_iff_eq,
    bne_iff_ne] at h
  rcases h with (hbelow | habove) | ⟨hstraight, hsides⟩
  · omega
  · omega
  · -- both runs reach `n`, so they start on the same side
    have hside : r.first ≡ n [MOD q.step] := by
      rcases hstraight with hsingle | hdvd
      · have hn : n = r.first := by omega
        rw [hn]
      · exact hstep.of_dvd (Nat.dvd_of_mod_eq_zero hdvd)
    exact hsides (hside.trans hstep'.symm)

theorem covers_forms (hr : 0 ≤ (r.first : Int) + r.shift) (hn : r.covers n = true) :
    r.forms.covers (n + r.shift).toNat = true := by
  rw [covers_iff] at hn ⊢
  obtain ⟨hfirst, hlast, hstep⟩ := hn
  have hoffset : (n + r.shift).toNat - (r.first + r.shift).toNat = n - r.first := by omega
  refine ⟨?_, ?_, ?_⟩
  · show (r.first + r.shift).toNat ≤ (n + r.shift).toNat
    omega
  · show (n + r.shift).toNat ≤ (r.last + r.shift).toNat
    omega
  · show (r.first + r.shift).toNat ≡ (n + r.shift).toNat [MOD r.step]
    rw [Nat.modEq_iff_dvd' (by omega), hoffset]
    exact (Nat.modEq_iff_dvd' hfirst).mp hstep

end CaseRun

/-! ### Code points -/

/-- `İ`, which has a lower-case form of two characters and is in no run. -/
def dottedRun : CaseRun := ⟨0x130, 0x130, 1, 0⟩

/-- Whether a code point is that of a character without another lower-case form. -/
def isLoweredCode (n : Nat) : Bool := (dottedRun :: caseRuns).all fun r => !r.covers n

/-- The forms of every run are apart from all runs. -/
theorem forms_apart :
    (caseRuns.all fun r => decide (0 ≤ (r.first : Int) + r.shift) &&
      (dottedRun :: caseRuns).all fun q => r.forms.apart q) = true := by
  decide +kernel

theorem lowerCode_of_lowered {n : Nat} (h : isLoweredCode n = true) : lowerCode n = n := by
  have hnone : caseRuns.find? (fun r => r.covers n) = none := by
    rw [List.find?_eq_none]
    intro r hr hcovers
    have := List.all_eq_true.mp h r (List.mem_cons_of_mem _ hr)
    simp [hcovers] at this
  rw [lowerCode, hnone]

theorem isLoweredCode_lowerCode {n : Nat} (h : n ≠ 0x130) :
    isLoweredCode (lowerCode n) = true := by
  rw [lowerCode]
  cases hfind : caseRuns.find? fun r => r.covers n with
  | none =>
    simp only [isLoweredCode, List.all_eq_true, List.mem_cons, Bool.not_eq_true']
    rintro r (rfl | hr)
    · cases hcovers : dottedRun.covers n with
      | false => rfl
      | true =>
        obtain ⟨hfirst, hlast, -⟩ := CaseRun.covers_iff.mp hcovers
        exact absurd (Nat.le_antisymm hlast hfirst) h
    · simpa using List.find?_eq_none.mp hfind r hr
  | some r =>
    have hcovers : r.covers n = true := List.find?_some (p := fun q : CaseRun => q.covers n) hfind
    have hr := List.all_eq_true.mp forms_apart r (List.mem_of_find?_eq_some hfind)
    simp only [Bool.and_eq_true, decide_eq_true_eq, List.all_eq_true] at hr
    obtain ⟨hnonneg, hapart⟩ := hr
    simp only [isLoweredCode, List.all_eq_true, Bool.not_eq_true']
    intro q hq
    exact CaseRun.not_covers_of_apart (hapart q hq) (CaseRun.covers_forms hnonneg hcovers)

/-! ### Characters -/

/-- Whether a character has no other lower-case form. -/
def isLowered (c : Char) : Bool := isLoweredCode c.toNat

theorem lowerForm_of_lowered {c : Char} (h : isLowered c = true) : lowerForm c = [c] := by
  have hdotted : c ≠ 'İ' := by
    rintro rfl
    revert h
    decide +kernel
  rw [lowerForm, if_neg hdotted, lowerCode_of_lowered h, Char.ofNat_toNat]

theorem isLowered_of_mem_lowerForm {c d : Char} (h : d ∈ lowerForm c) : isLowered d = true := by
  rw [lowerForm] at h
  split at h
  · have hi : isLowered 'i' = true := by decide +kernel
    have hdot : isLowered '\u0307' = true := by decide +kernel
    simp only [List.mem_cons, List.not_mem_nil, or_false] at h
    rcases h with rfl | rfl
    · exact hi
    · exact hdot
  · rename_i hdotted
    have hcode : c.toNat ≠ 0x130 := fun hc => hdotted (Char.toNat_inj.mp hc)
    rw [List.mem_singleton.mp h]
    by_cases hvalid : (lowerCode c.toNat).isValidChar
    · rw [isLowered, Char.ofNat, dif_pos hvalid]
      exact isLoweredCode_lowerCode hcode
    · rw [isLowered, Char.ofNat, dif_neg hvalid]
      decide +kernel

theorem isLowered_lowerSigma (before after : List Char) :
    isLowered (lowerSigma before after) = true := by
  rw [lowerSigma]
  split <;> decide +kernel

/-! ### Texts -/

theorem isLowered_of_mem_lowerFrom {before cs : List Char} {d : Char}
    (h : d ∈ lowerFrom before cs) : isLowered d = true := by
  induction cs generalizing before with
  | nil => cases h
  | cons c rest ih =>
    rw [lowerFrom, List.mem_append] at h
    rcases h with hfirst | hrest
    · split at hfirst
      · rw [List.mem_singleton.mp hfirst]
        exact isLowered_lowerSigma before rest
      · exact isLowered_of_mem_lowerForm hfirst
    · exact ih hrest

theorem lowerFrom_of_lowered {cs : List Char} (h : ∀ c ∈ cs, isLowered c = true)
    (before : List Char) : lowerFrom before cs = cs := by
  induction cs generalizing before with
  | nil => rfl
  | cons c rest ih =>
    have hc : isLowered c = true := h c List.mem_cons_self
    have hsigma : c ≠ 'Σ' := by
      rintro rfl
      revert hc
      decide +kernel
    have hrest : ∀ d ∈ rest, isLowered d = true := fun d hd => h d (List.mem_cons_of_mem _ hd)
    rw [lowerFrom, if_neg hsigma, lowerForm_of_lowered hc, ih hrest, List.singleton_append]

/-- **The lower-case form of a text in lower case** is the text. -/
theorem lowercase_lowercase (s : String) : lowercase (lowercase s) = lowercase s := by
  apply String.toList_injective
  rw [toList_lowercase, toList_lowercase]
  exact lowerFrom_of_lowered (fun _ hc => isLowered_of_mem_lowerFrom hc) []

end LoadOrder.Text
