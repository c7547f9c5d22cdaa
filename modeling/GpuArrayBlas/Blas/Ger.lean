import GpuArrayBlas.Blas.Gemm

/-!
# `GpuArray_rger`

`GpuArray_rger(alpha, X, Y, A, nocopy)` checks its operands, copies `X` and
`Y` when their stride is negative, requires `A` to be one segment, takes the
call's order and `lda` from `A`, and calls `gpublas_?ger`.

The main result, `rger_kernel_correct`, holds for every collaborator
behaviour and every `nocopy`: whenever the entry point calls its kernel, the
call has the order of `A`'s flags, `m = X.dimensions[0]`,
`n = Y.dimensions[0]`, an `lda` that covers `A` and non-negative increments,
and the reference `ger` of the call adds `alpha * X[i] * Y[j]` to every logical
`A[i][j]` and changes nothing else.
-/

set_option autoImplicit false

namespace GpuArrayBlas

/-- The checks of `GpuArray_rger` before any copy, in source order. -/
def rgerCheck (X Y A : GpuArray) : Except Failure Unit :=
  if !X.typecode.isBlas then .error ⟨.invalidError, "Unsupported dtype"⟩
  else if X.nd ≠ 1 ∨ Y.nd ≠ 1 ∨ A.nd ≠ 2 then
    .error ⟨.valueError, "Wrong number of dimensions: X->nd = " ++ toString X.nd ++
      " (expected 1), Y->nd = " ++ toString Y.nd ++ " (expected 1), A->nd = " ++ toString A.nd ++
      " (expected 2)"⟩
  else if Y.typecode ≠ X.typecode ∨ A.typecode ≠ X.typecode then
    .error ⟨.valueError, "Inconsistent dtypes"⟩
  else if !X.flags.aligned || !Y.flags.aligned || !A.flags.aligned then
    .error ⟨.unalignedError, "Unaligned inputs"⟩
  else if A.dim 0 ≠ X.dim 0 ∨ A.dim 1 ≠ Y.dim 0 then
    .error ⟨.valueError, "Incompatible shapes"⟩
  else .ok ()

/-- The copy blocks of `GpuArray_rger`: `X`, then `Y`, into temporaries of any
order when their stride is negative. -/
def rgerBlocks (X Y : GpuArray) : List CopyBlock :=
  [⟨.copyX, X, decide (X.stride 0 < 0), .any, "Need copy for X"⟩,
   ⟨.copyY, Y, decide (Y.stride 0 < 0), .any, "Need copy for Y"⟩]

/-- The checks of `GpuArray_rger` after the copy blocks: `A` must be one
segment, and fixes the order and `lda`. -/
def rgerResolve (A : GpuArray) : Except Failure (CbOrder × Nat) :=
  if !A.isOneSegment then .error ⟨.valueError, "Noncontiguous A"⟩
  else orderOf A "Noncontiguous A"

variable {R : Type}

/-- The `ger` call of `GpuArray_rger` for the order `o` and `lda`. -/
def rgerCall (o : CbOrder) (lda m n : Nat) (alpha : R) (e : Nat) (Xp Yp A : GpuArray) :
    GerCall R :=
  ⟨o, m, n, alpha, Xp.data, Xp.offset / e, ssize (divSU (Xp.stride 0) e), Yp.data, Yp.offset / e,
    ssize (divSU (Yp.stride 0) e), A.data, A.offset / e, lda⟩

/-- `GpuArray_rger(alpha, X, Y, A, nocopy)`. -/
def rger (io : Collab R) (alpha : R) (X Y A : GpuArray) (nocopy : Bool) : Outcome R :=
  match rgerCheck X Y A with
  | .error f => f.returned
  | .ok () =>
    finish [.copyX, .copyY] (arbitrate io nocopy (rgerBlocks X Y)) fun held =>
      let Xp := pointer held .copyX X
      match rgerResolve A with
      | .error f => f.body
      | .ok (o, lda) => dispatch io (io.context Xp.data) Xp.typecode
          (.ger (rgerCall o lda (X.dim 0) (Y.dim 0) alpha X.typecode.elsize Xp
            (pointer held .copyY Y) A))

/-! ## Checks and resolution -/

/-- What the checks of `GpuArray_rger` establish before any copy. -/
structure GerChecked (X Y A : GpuArray) : Prop where
  blas : X.typecode.isBlas = true
  ndX : X.nd = 1
  ndY : Y.nd = 1
  ndA : A.nd = 2
  typecodeY : Y.typecode = X.typecode
  typecodeA : A.typecode = X.typecode
  alignedX : X.flags.aligned = true
  alignedY : Y.flags.aligned = true
  alignedA : A.flags.aligned = true
  rowsA : A.dim 0 = X.dim 0
  colsA : A.dim 1 = Y.dim 0

theorem rgerCheck_ok {X Y A : GpuArray} (h : rgerCheck X Y A = .ok ()) : GerChecked X Y A := by
  unfold rgerCheck at h
  obtain ⟨h1, h⟩ := ite_error_eq_ok h
  obtain ⟨h2, h⟩ := ite_error_eq_ok h
  obtain ⟨h3, h⟩ := ite_error_eq_ok h
  obtain ⟨h4, h⟩ := ite_error_eq_ok h
  obtain ⟨h5, -⟩ := ite_error_eq_ok h
  simp only [Bool.not_eq_eq_eq_not, Bool.not_true, Bool.not_eq_false, ne_eq, not_or,
    Decidable.not_not, Bool.or_eq_true] at h1 h2 h3 h4 h5
  exact ⟨h1, h2.1, h2.2.1, h2.2.2, h3.1, h3.2, h4.1.1, h4.1.2, h4.2, h5.1, h5.2⟩

/-- The converse: operands with every fact the checks establish pass them. -/
theorem rgerCheck_eq_ok {X Y A : GpuArray} (h : GerChecked X Y A) : rgerCheck X Y A = .ok () := by
  simp [rgerCheck, h.blas, h.ndX, h.ndY, h.ndA, h.typecodeY, h.typecodeA, h.alignedX, h.alignedY,
    h.alignedA, h.rowsA, h.colsA]

theorem rgerCheck_code {X Y A : GpuArray} {f : Failure} (h : rgerCheck X Y A = .error f) :
    f.code ≠ .noError := by
  unfold rgerCheck at h
  repeat refine code_of_ite_error h nofun fun f h => ?_
  cases h

theorem rgerResolve_ok {A : GpuArray} {o : CbOrder} {lda : Nat} (h : rgerResolve A = .ok (o, lda)) :
    orderOf A "Noncontiguous A" = .ok (o, lda) := by
  unfold rgerResolve at h
  split_ifs at h
  exact h

/-- The converse: an `A` of one segment resolves. -/
theorem rgerResolve_ok_of_oneSegment {A : GpuArray} (hA : A.isOneSegment = true) :
    ∃ r, rgerResolve A = .ok r := by
  rw [rgerResolve, if_neg (by simp [hA])]
  exact orderOf_ok_of_oneSegment _ hA

theorem rgerResolve_code {A : GpuArray} {f : Failure} (h : rgerResolve A = .error f) :
    f.code ≠ .noError := by
  unfold rgerResolve at h
  split_ifs at h
  · cases h
    nofun
  · exact orderOf_code h

/-! ## The kernel call -/

/-- What must have happened for the trace of `GpuArray_rger` to hold a kernel
call: the checks passed, the copy blocks went through and head the trace, `A`
passed the checks after them, and the kernel is the `ger` built from the
pointer variables, at the precision of `Xp`. -/
theorem rger_kernel_inv {io : Collab R} {alpha : R} {X Y A : GpuArray} {nocopy : Bool}
    {prec : Typecode} {k : Kernel R} {st : GaError}
    (hk : Event.call (.kernel prec k st) ∈ (rger io alpha X Y A nocopy).trace) :
    ∃ t held o lda, rgerCheck X Y A = .ok () ∧ arbitrate io nocopy (rgerBlocks X Y) = .done t held ∧
      t <+: (rger io alpha X Y A nocopy).trace ∧ rgerResolve A = .ok (o, lda) ∧
      prec = (pointer held .copyX X).typecode ∧
      k = .ger (rgerCall o lda (X.dim 0) (Y.dim 0) alpha X.typecode.elsize (pointer held .copyX X)
        (pointer held .copyY Y) A) := by
  cases hc : rgerCheck X Y A with
  | error f => simp [rger, hc, Failure.returned, Failure.call] at hk
  | ok u =>
    cases u
    simp only [rger, hc] at hk
    obtain ⟨t, held, ha, c, hc', hev⟩ := finish_kernel io nocopy (by simp [rgerBlocks]) _ _ hk
      (by simp [Event.kernel?])
    cases hev
    have hpre : t <+: (rger io alpha X Y A nocopy).trace := by
      simp only [rger, hc, ha]
      exact prefix_finish_done t held
    split at hc'
    · simp [Failure.body, Failure.call] at hc'
    · rename_i o lda hr
      obtain ⟨rfl, rfl⟩ := eq_of_kernel_mem_dispatch hc'
      exact ⟨t, held, o, lda, rfl, ha, hpre, hr, rfl, rfl⟩

section Correct

variable [Semiring R]

/-- The `ger` that a call which got through its checks, blocks and resolver
hands to the backend, over copies that hold their sources' elements: it gets
`A`'s order and `lda`, the vectors' lengths, a leading dimension that covers
them and non-negative increments, and its reference meaning adds
`alpha * X[i] * Y[j]` to every logical `A[i][j]` and writes nowhere else. -/
theorem gerCall_correct (mem : Mem R) {io : Collab R} (alpha : R) {X Y A : GpuArray}
    {nocopy : Bool} {t : List (Event R)} {held : Held} {o : CbOrder} {lda : Nat} {g : GerCall R}
    (hX : X.FlagsSound) (hY : Y.FlagsSound) (hA : A.FlagsSound) (hchk : rgerCheck X Y A = .ok ())
    (ha : arbitrate io nocopy (rgerBlocks X Y) = .done t held) (hr : rgerResolve A = .ok (o, lda))
    (hcopies : CopiesSound mem t)
    (hg : g = rgerCall o lda (X.dim 0) (Y.dim 0) alpha X.typecode.elsize (pointer held .copyX X)
      (pointer held .copyY Y) A) :
    orderOf A "Noncontiguous A" = .ok (g.order, g.lda) ∧ g.m = X.dim 0 ∧ g.n = Y.dim 0 ∧
    LdCovers g.order g.lda g.m g.n ∧ 0 ≤ g.incX ∧ 0 ≤ g.incY ∧
    (∀ i < A.dim 0, ∀ j < A.dim 1, g.run X.itemsize mem A.data (A.elem [i, j]) =
      A.read mem [i, j] + alpha * X.read mem [i] * Y.read mem [j]) ∧
    (∀ buf a, (∀ i < A.dim 0, ∀ j < A.dim 1, (buf, a) ≠ (A.data, A.elem [i, j])) →
      g.run X.itemsize mem buf a = mem buf a) := by
  subst hg
  have hok := rgerCheck_ok hchk
  have hoA := rgerResolve_ok hr
  have hnd : ((rgerBlocks X Y).map CopyBlock.slot).Nodup := by simp [rgerBlocks]
  have hXp : VecStandsFor mem X (pointer held .copyX X) := VecStandsFor.of_arbitrate hnd ha
    (List.mem_cons_self _ _) (.of_flagsSound hok.ndX hX hok.alignedX) rfl hcopies
  have hYp : VecStandsFor mem Y (pointer held .copyY Y) := VecStandsFor.of_arbitrate hnd ha
    (List.mem_cons_of_mem _ (List.mem_cons_self _ _)) (.of_flagsSound hok.ndY hY hok.alignedY) rfl
    hcopies
  -- `Y` and `A` are read with `X`'s element size, which is their own
  have heY : Y.itemsize = X.itemsize := congrArg Typecode.elsize hok.typecodeY
  have heA : A.itemsize = X.itemsize := congrArg Typecode.elsize hok.typecodeA
  have hincY := hYp.inc_eq
  have hreadY := fun j (hj : j < Y.dim 0) => hYp.vecAddr_read hj
  rw [heY] at hincY hreadY
  -- `A` is updated in place, at distinct addresses
  obtain ⟨hld, hplace⟩ := orderOf_place hoA (.of_flagsSound hok.ndA hA hok.alignedA)
  rw [heA] at hplace
  rw [hok.rowsA, hok.colsA] at hld hplace
  have hcell : ∀ p ∈ cells2 (X.dim 0) (Y.dim 0),
      matAddr X.itemsize o (A.offset / X.itemsize) lda p.1 p.2 = A.elem [p.1, p.2] :=
    fun p hp => hplace p.1 (mem_cells2.mp hp).1 p.2 (mem_cells2.mp hp).2
  have hinj : ∀ p ∈ cells2 (X.dim 0) (Y.dim 0), ∀ q ∈ cells2 (X.dim 0) (Y.dim 0),
      (A.data, matAddr X.itemsize o (A.offset / X.itemsize) lda p.1 p.2) =
        (A.data, matAddr X.itemsize o (A.offset / X.itemsize) lda q.1 q.2) → p = q :=
    fun p hp q hq hpq => matAddr_inj (Typecode.elsize_pos hok.blas) hld hp hq (Prod.mk.inj hpq).2
  rw [hok.rowsA, hok.colsA]
  refine ⟨hoA, rfl, rfl, hld, hXp.inc_eq.2, hincY.2, fun i hi j hj => ?_, fun buf a hout => ?_⟩
  · have hij : (i, j) ∈ cells2 (X.dim 0) (Y.dim 0) := mem_cells2.mpr ⟨hi, hj⟩
    rw [← hcell (i, j) hij]
    refine (writeCells_place hinj hij).trans ?_
    simp only [rgerCall, GpuArray.read, GpuArray.typecode_elsize]
    rw [hcell (i, j) hij, mul_assoc, mul_assoc]
    exact congrArg (_ + alpha * ·) (congrArg₂ (· * ·) (hXp.vecAddr_read hi) (hreadY j hj))
  · refine writeCells_of_not_placed fun p hp hpa => hout p.1 (mem_cells2.mp hp).1 p.2
      (mem_cells2.mp hp).2 (hpa.symm.trans (congrArg (Prod.mk A.data) (hcell p hp)))

/-- `GpuArray_rger` calls a correct rank-one update.  For every behaviour of
the collaborators, every `nocopy` and operands whose flags tell no lie:
whenever the call reaches its kernel, the kernel gets the order and `lda` of
`A`'s flags, with an `lda` that covers `A`, `X`'s and `Y`'s lengths and
non-negative increments, the reference `ger` of the call sets every logical
`A[i][j]` to `A[i][j] + alpha * X[i] * Y[j]` with `X` and `Y` read through the
caller's strides, and it writes nowhere else.  `A`'s elements need no separate
distinctness assumption: the call only accepts a one-segment `A`. -/
theorem rger_kernel_correct (io : Collab R) (mem : Mem R) (alpha : R) (X Y A : GpuArray)
    (nocopy : Bool) (hX : X.FlagsSound) (hY : Y.FlagsSound) (hA : A.FlagsSound) {prec : Typecode}
    {g : GerCall R} {st : GaError}
    (hk : Event.call (.kernel prec (.ger g) st) ∈ (rger io alpha X Y A nocopy).trace)
    (hcopies : CopiesSound mem (rger io alpha X Y A nocopy).trace) :
    orderOf A "Noncontiguous A" = .ok (g.order, g.lda) ∧ g.m = X.dim 0 ∧ g.n = Y.dim 0 ∧
    LdCovers g.order g.lda g.m g.n ∧ 0 ≤ g.incX ∧ 0 ≤ g.incY ∧
    (∀ i < A.dim 0, ∀ j < A.dim 1, g.run prec.elsize mem A.data (A.elem [i, j]) =
      A.read mem [i, j] + alpha * X.read mem [i] * Y.read mem [j]) ∧
    (∀ buf a, (∀ i < A.dim 0, ∀ j < A.dim 1, (buf, a) ≠ (A.data, A.elem [i, j])) →
      g.run prec.elsize mem buf a = mem buf a) := by
  obtain ⟨t, held, o, lda, hchk, ha, hpre, hr, rfl, hg⟩ := rger_kernel_inv hk
  cases hg
  have hsound := hcopies.of_subset hpre.subset
  have he : (pointer held .copyX X).typecode.elsize = X.itemsize := congrArg Typecode.elsize
    (typecode_pointer (by simp [rgerBlocks]) ha hsound.keepTypecode (List.mem_cons_self _ _))
  rw [he]
  exact gerCall_correct mem alpha hX hY hA hchk ha hr hsound rfl

end Correct

theorem rger_kernel_correct_colMajor :
    Event.call (.kernel .float (.ger (rgerCall .fortran 2 2 2 1 4 (floatVector 0) (floatVector 1)
      (colMajor2x2 2))) .noError) ∈
      (rger (Collab.succeeding ℤ) 1 (floatVector 0) (floatVector 1) (colMajor2x2 2) false).trace ∧
    orderOf (colMajor2x2 2) "Noncontiguous A" = .ok (.fortran, 2) :=
  ⟨by decide, (@rger_kernel_correct ℤ _ (Collab.succeeding ℤ) (fun _ _ => 0) 1 (floatVector 0)
    (floatVector 1) (colMajor2x2 2) false (by decide) (by decide) (by decide) .float
    (rgerCall .fortran 2 2 2 1 4 (floatVector 0) (floatVector 1) (colMajor2x2 2)) .noError
    (by decide) (.of_noCopies (by decide))).1⟩

end GpuArrayBlas
