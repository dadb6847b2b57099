import Mathlib.Tactic.Lemma
import Sift.Text.Lowercase

/-!
# Lowercase is final

A text in lowercase is its own lowercase (`lowercaseString_idem`). No character that the table maps
to is one that it maps to another, which is looked up run by run (`isFinal_lowercaseRuns`); and no
capital sigma is left, whose form would depend on what stands around it.
-/

namespace Sift

open Unicode

namespace Unicode

namespace CaseRun

variable {run other : CaseRun} {n : Nat}

/-- Whether a run maps a code point. -/
def Maps (run : CaseRun) (n : Nat) : Prop :=
  run.first ≤ n ∧ n ≤ run.last ∧ (n - run.first) % run.step = 0

/-- The last code point that a run maps to. -/
def lastTarget (run : CaseRun) : Nat := run.target + (run.last - run.first)

/-- Whether what a run maps to is mapped by no code point of another run: they lie apart, or one has
the even code points and the other has the odd ones. -/
def leaves (run other : CaseRun) : Bool :=
  run.lastTarget.blt other.first || other.last.blt run.target ||
    ((run.step.beq 2 || run.first.beq run.last) && other.step.beq 2 &&
      ((run.target + other.first) % 2).beq 1)

/-- Whether a run maps to characters, and not to the dotted capital I. -/
def mapsToPlain (run : CaseRun) : Bool :=
  (run.lastTarget.blt 0xD800 || (Nat.blt 0xDFFF run.target && run.lastTarget.blt 0x110000)) &&
    (run.lastTarget.blt 0x130 || Nat.blt 0x130 run.target)

end CaseRun

/-- What the table maps to is final. -/
lemma isFinal_lowercaseRuns :
    (lowercaseRuns.all fun run => run.mapsToPlain && lowercaseRuns.all run.leaves) = true := by
  decide +kernel

/-- A code point that no run maps goes to itself. -/
lemma mapByRuns_of_not_maps {runs : List CaseRun} {n : Nat} (h : ∀ run ∈ runs, ¬run.Maps n) :
    mapByRuns runs n = n := by
  induction runs with
  | nil => rfl
  | cons run later ih =>
    obtain ⟨here, later⟩ := List.forall_mem_cons.1 h
    rw [mapByRuns]
    split
    · rfl
    · next first =>
      rw [if_neg fun within => here ⟨by omega, within⟩, ih later]

/-- A code point goes to itself, or to where a run maps it. -/
lemma mapByRuns_cases (runs : List CaseRun) (n : Nat) :
    mapByRuns runs n = n ∨ ∃ run ∈ runs, run.Maps n ∧
      mapByRuns runs n = run.target + (n - run.first) := by
  induction runs with
  | nil => exact .inl rfl
  | cons run later ih =>
    rw [mapByRuns]
    split
    · exact .inl rfl
    · next first =>
      split
      · next within => exact .inr ⟨run, List.mem_cons_self, ⟨by omega, within⟩, rfl⟩
      · refine ih.imp_right ?_
        rintro ⟨run', mem, found⟩
        exact ⟨run', List.mem_cons_of_mem run mem, found⟩

namespace CaseRun

variable {run other : CaseRun} {n : Nat}

/-- What a run maps a code point to is no code point of a run that it leaves. -/
lemma Maps.not_maps (h : run.Maps n) (leaves : run.leaves other = true) :
    ¬other.Maps (run.target + (n - run.first)) := by
  obtain ⟨first, last, steps⟩ := h
  simp only [CaseRun.leaves, lastTarget, Nat.blt_eq, Nat.beq_eq, Bool.or_eq_true,
    Bool.and_eq_true] at leaves
  rintro ⟨first', last', steps'⟩
  rcases leaves with (apart | apart) | ⟨⟨step | single, step'⟩, odd⟩
  · omega
  · omega
  · rw [step] at steps
    rw [step'] at steps'
    omega
  · rw [step'] at steps'
    omega

end CaseRun

/-- A character that stays in lowercase what it is, wherever it stands. -/
def IsFinal (c : Char) : Prop := c ≠ 'Σ' ∧ lowercaseChar c = [c]

/-- A code point that goes to itself is a character in lowercase. -/
lemma isFinal_ofNat {n : Nat} (valid : n.isValidChar) (dotted : n ≠ 0x130)
    (stays : mapByRuns lowercaseRuns n = n) : IsFinal (Char.ofNat n) := by
  have code : (Char.ofNat n).toNat = n := by
    rw [Char.ofNat, dif_pos valid]
    rfl
  constructor
  · intro sigma
    rw [sigma] at code
    subst code
    exact absurd stays (by decide +kernel)
  · rw [lowercaseChar, if_neg, code, stays]
    intro capital
    rw [capital] at code
    exact dotted code.symm

/-- What a character goes to goes nowhere else. -/
lemma isFinal_of_mem_lowercaseChar {c d : Char} (sigma : c ≠ 'Σ') (mem : d ∈ lowercaseChar c) :
    IsFinal d := by
  rw [lowercaseChar] at mem
  split at mem
  · have letter : IsFinal (Char.ofNat 0x69) := isFinal_ofNat (by decide) (by decide) rfl
    have dot : IsFinal (Char.ofNat 0x307) := isFinal_ofNat (by decide) (by decide) rfl
    rcases List.mem_cons.1 mem with rfl | mem
    · exact letter
    · rw [List.mem_singleton.1 mem]
      exact dot
  · next dotted =>
    obtain rfl := List.mem_singleton.1 mem
    rcases mapByRuns_cases lowercaseRuns c.toNat with same | ⟨run, found, maps, goes⟩
    · rw [same, Char.ofNat_toNat]
      refine ⟨sigma, ?_⟩
      rw [lowercaseChar, if_neg dotted, same, Char.ofNat_toNat]
    · have table := List.all_eq_true.1 isFinal_lowercaseRuns run found
      obtain ⟨plain, leaves⟩ := (Bool.and_eq_true _ _).mp table
      have stays := mapByRuns_of_not_maps fun other mem =>
        maps.not_maps (List.all_eq_true.1 leaves other mem)
      obtain ⟨_, last, _⟩ := maps
      simp only [CaseRun.mapsToPlain, CaseRun.lastTarget, Nat.blt_eq, Bool.or_eq_true,
        Bool.and_eq_true] at plain
      rw [goes]
      refine isFinal_ofNat ?_ (by omega) stays
      unfold Nat.isValidChar
      omega

end Unicode

namespace Text

/-- All characters of a lowercase are final. -/
lemma isFinal_of_mem_lowercaseBehind {before cs : List Char} :
    ∀ c ∈ lowercaseBehind before cs, IsFinal c := by
  induction cs generalizing before with
  | nil => nofun
  | cons c after ih =>
    rw [lowercaseBehind]
    refine List.forall_mem_append.2 ⟨?_, ih⟩
    split
    · have last : IsFinal (Char.ofNat 0x3C2) := isFinal_ofNat (by decide) (by decide) rfl
      have inner : IsFinal (Char.ofNat 0x3C3) := isFinal_ofNat (by decide) (by decide) rfl
      intro d mem
      obtain rfl := List.mem_singleton.1 mem
      split
      · exact last
      · exact inner
    · next sigma => exact fun d => isFinal_of_mem_lowercaseChar sigma

/-- A text of final characters is its own lowercase. -/
lemma lowercaseBehind_of_isFinal {before cs : List Char} (final : ∀ c ∈ cs, IsFinal c) :
    lowercaseBehind before cs = cs := by
  induction cs generalizing before with
  | nil => rfl
  | cons c after ih =>
    obtain ⟨⟨sigma, stays⟩, final⟩ := List.forall_mem_cons.1 final
    rw [lowercaseBehind, if_neg sigma, stays, ih final]
    rfl

/-- The lowercase of a text in lowercase is the text. -/
lemma lowercaseString_idem (s : String) : lowercaseString (lowercaseString s) = lowercaseString s := by
  rw [lowercaseString, lowercaseString, String.toList_ofList]
  exact congrArg String.ofList (lowercaseBehind_of_isFinal isFinal_of_mem_lowercaseBehind)

end Text

end Sift
