import DocPages.Text.Fold

/-! Case folding is idempotent, because nothing that the table folds to is folded again. The two
sets of code points are compared as the bits of two numbers, all at once. -/

namespace DocPages

section Bits

/-- The number whose bits are set at the given places. -/
def bits : List Nat → Nat
  | [] => 0
  | n :: ns => 1 <<< n ||| bits ns

theorem testBit_bits {n : Nat} {ns : List Nat} (h : n ∈ ns) : (bits ns).testBit n = true := by
  induction h with
  | head ns => simp [bits, Nat.testBit_shiftLeft]
  | tail m _ ih => simp [bits, ih]

theorem notMem_of_bits {ms ns : List Nat} (h : bits ms &&& bits ns = 0) {n : Nat} (hn : n ∈ ms) :
    n ∉ ns := by
  intro hn'
  have hbit : (bits ms &&& bits ns).testBit n = true := by
    rw [Nat.testBit_and, testBit_bits hn, testBit_bits hn', Bool.and_self]
  rw [h, Nat.zero_testBit] at hbit
  cases hbit

end Bits

/-- The code points of a run. -/
def CodeRun.codes : CodeRun → List Nat
  | (first, last, stride) =>
    (List.range ((last - first) / stride + 1)).map fun k => first + k * stride

theorem CodeRun.mem_codes {run : CodeRun} {c : Char} (h : run.contains c = true) :
    c.toNat ∈ run.codes := by
  obtain ⟨first, last, stride⟩ := run
  simp only [contains, Bool.and_eq_true, decide_eq_true_eq, beq_iff_eq] at h
  obtain ⟨⟨hfirst, hlast⟩, hstride⟩ := h
  have hle : (c.toNat - first) / stride ≤ (last - first) / stride :=
    Nat.div_le_div_right (by omega)
  refine List.mem_map.mpr ⟨(c.toNat - first) / stride, List.mem_range.mpr (by omega), ?_⟩
  rw [Nat.div_mul_cancel (Nat.dvd_of_mod_eq_zero hstride)]
  omega

theorem CodeRun.first_le {run : CodeRun} {c : Char} (h : run.contains c = true) :
    run.1 ≤ c.toNat := by
  obtain ⟨first, last, stride⟩ := run
  simp only [contains, Bool.and_eq_true, decide_eq_true_eq] at h
  exact h.1.1

/-- The code points that are folded. -/
def foldKeys : List Nat := Table.fold.flatMap fun (run, _) => run.codes

/-- What they are folded to. -/
def foldImages : List Nat :=
  Table.fold.flatMap fun (run, shift) => run.codes.map fun (n : Nat) => (n + shift).toNat

theorem foldImages_apart : bits (0 :: foldImages) &&& bits foldKeys = 0 := by
  decide +kernel

theorem foldStep?_eq_none {c : Char} (h : c.toNat ∉ foldKeys) : foldStep? c = none := by
  refine List.find?_eq_none.mpr fun step hstep hc => h ?_
  exact List.mem_flatMap.mpr ⟨step, hstep, CodeRun.mem_codes hc⟩

theorem foldChar_eq_self {c : Char} (h : foldStep? c = none) : foldChar c = c := by
  rw [foldChar, h]

theorem toNat_ofNat_or (n : Nat) : (Char.ofNat n).toNat = n ∨ (Char.ofNat n).toNat = 0 := by
  by_cases h : n.isValidChar
  · have hvalid : Char.ofNat n = Char.ofNatAux n h := dif_pos h
    exact .inl (congrArg Char.toNat hvalid)
  · have hzero : Char.ofNat n = '\x00' := dif_neg h
    exact .inr (congrArg Char.toNat hzero)

theorem foldChar_foldChar (c : Char) : foldChar (foldChar c) = foldChar c := by
  cases hstep : foldStep? c with
  | none => rw [foldChar_eq_self hstep, foldChar_eq_self hstep]
  | some step =>
    obtain ⟨run, shift⟩ := step
    have hfold : foldChar c = Char.ofNat (c.toNat + shift).toNat := by
      rw [foldChar, hstep]
    have hrun : run.contains c = true :=
      List.find?_some (p := fun step : CodeRun × Int => step.1.contains c) hstep
    have himage : (c.toNat + shift).toNat ∈ foldImages :=
      List.mem_flatMap.mpr ⟨(run, shift), List.mem_of_find?_eq_some hstep,
        List.mem_map.mpr ⟨c.toNat, CodeRun.mem_codes hrun, rfl⟩⟩
    refine foldChar_eq_self (foldStep?_eq_none (notMem_of_bits foldImages_apart ?_))
    rw [hfold]
    obtain heq | heq := toNat_ofNat_or (c.toNat + shift).toNat
    · rw [heq]
      exact List.mem_cons_of_mem _ himage
    · rw [heq]
      exact List.mem_cons_self

/-- The capital letters of ASCII come first in the table, and the rest of it lies outside ASCII. -/
theorem foldStep?_ascii {c : Char} (h : isAscii c = true) :
    foldStep? c = [((0x41, 0x5a, 1), 32)].find? fun step => CodeRun.contains step.1 c := by
  have hstart : ∀ step ∈ Table.fold.tail, 128 ≤ step.1.1 := by decide +kernel
  have hrest : Table.fold.tail.find? (fun step => step.1.contains c) = none := by
    refine List.find?_eq_none.mpr fun step hstep hc => ?_
    have hc := CodeRun.first_le hc
    have hle := hstart step hstep
    have hlt : c.toNat < 128 := of_decide_eq_true h
    omega
  have htable : Table.fold = [((0x41, 0x5a, 1), 32)] ++ Table.fold.tail := rfl
  rw [foldStep?, htable, List.find?_append, hrest, Option.or_none]

theorem foldChar_toLower {c : Char} (h : isAscii c = true) : foldChar c.toLower = c.toLower := by
  have hall : ∀ i : Fin 128, isAscii (Char.ofNat i).toLower = true ∧
      CodeRun.contains (0x41, 0x5a, 1) (Char.ofNat i).toLower = false := by decide +kernel
  obtain ⟨hascii, hupper⟩ := hall ⟨c.toNat, of_decide_eq_true h⟩
  rw [Char.ofNat_toNat] at hascii hupper
  refine foldChar_eq_self ?_
  rw [foldStep?_ascii hascii, List.find?_cons_of_neg (by rw [hupper]; decide)]
  rfl

end DocPages
