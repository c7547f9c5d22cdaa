import GpuArrayBlas.Blas.Dot

/-!
# `GpuArray_rgemv`

`GpuArray_rgemv(transA, alpha, A, X, beta, Y, nocopy)` checks its operands
against the shape of `op(A)`, then resets `m` and `n` to `A`'s own extents,
copies `A` into a column-major temporary when it is not one segment and `X`
when its stride is negative, refuses a `Y` of negative stride, takes the call's
order and `lda` from the pointer variable of `A`, and calls `gpublas_?gemv`.

The main result, `rgemv_kernel_correct`, holds for every collaborator
behaviour, every transpose and every `nocopy`: whenever the entry point calls
its kernel, the call has `A`'s extents, a leading dimension that covers them and
non-negative increments, and the reference `gemv` of the call sets every
`Y[i]` to `alpha * Σ op(A)[i][j] * X[j] + beta * Y[i]` over the caller's
logical operands.
-/

set_option autoImplicit false

namespace GpuArrayBlas

/-- The checks of `GpuArray_rgemv` before any copy, in source order.  The
shapes are checked against `op(A)`. -/
def rgemvCheck (transA : CbTranspose) (A X Y : GpuArray) : Except Failure Unit :=
  if !A.typecode.isBlas then .error ⟨.invalidError, "Unsupported dtype"⟩
  else if A.nd ≠ 2 ∨ X.nd ≠ 1 ∨ Y.nd ≠ 1 then
    .error ⟨.valueError, "Wrong number of dimensions: A->nd = " ++ toString A.nd ++
      " (expected 2), X->nd = " ++ toString X.nd ++ " (expected 1), Y->nd = " ++ toString Y.nd ++
      " (expected 1)"⟩
  else if X.typecode ≠ A.typecode ∨ Y.typecode ≠ A.typecode then
    .error ⟨.valueError, "Inconsistent dtypes"⟩
  else if !A.flags.aligned || !X.flags.aligned || !Y.flags.aligned then
    .error ⟨.unalignedError, "Unaligned inputs"⟩
  else if Y.dim 0 ≠ (transA.opShape (A.dim 0) (A.dim 1)).1 ∨
      X.dim 0 ≠ (transA.opShape (A.dim 0) (A.dim 1)).2 then
    .error ⟨.valueError, "Inconsistent shapes"⟩
  else .ok ()

/-- The copy blocks of `GpuArray_rgemv`: `A` into a column-major temporary when
it is not one segment, then `X` when its stride is negative. -/
def rgemvBlocks (A X : GpuArray) : List CopyBlock :=
  [⟨.copyA, A, !A.isOneSegment, .f, "Copy required for A"⟩,
   ⟨.copyX, X, decide (X.stride 0 < 0), .any, "Copy required for X"⟩]

/-- The checks of `GpuArray_rgemv` after the copy blocks: `Y` must have a
non-negative stride, and `Ap` fixes the order and `lda`. -/
def rgemvResolve (Ap Y : GpuArray) : Except Failure (CbOrder × Nat) :=
  if Y.stride 0 < 0 then .error ⟨.valueError, "Negative strides for Y"⟩
  else orderOf Ap "Noncontiguous A"

variable {R : Type}

/-- The `gemv` call of `GpuArray_rgemv` for the order `o` and `lda`, with the
extents `m × n` of `A`. -/
def rgemvCall (o : CbOrder) (lda : Nat) (transA : CbTranspose) (m n : Nat) (alpha beta : R)
    (e : Nat) (Ap Xp Y : GpuArray) : GemvCall R :=
  ⟨o, transA, m, n, alpha, Ap.data, Ap.offset / e, lda, Xp.data, Xp.offset / e,
    ssize (divSU (Xp.stride 0) e), beta, Y.data, Y.offset / e, ssize (divSU (Y.stride 0) e)⟩

/-- `GpuArray_rgemv(transA, alpha, A, X, beta, Y, nocopy)`. -/
def rgemv (io : Collab R) (transA : CbTranspose) (alpha : R) (A X : GpuArray) (beta : R)
    (Y : GpuArray) (nocopy : Bool) : Outcome R :=
  match rgemvCheck transA A X Y with
  | .error f => f.returned
  | .ok () =>
    finish [.copyA, .copyX] (arbitrate io nocopy (rgemvBlocks A X)) fun held =>
      let Ap := pointer held .copyA A
      match rgemvResolve Ap Y with
      | .error f => f.body
      | .ok (o, lda) => dispatch io (io.context A.data) Ap.typecode
          (.gemv (rgemvCall o lda transA (A.dim 0) (A.dim 1) alpha beta A.typecode.elsize Ap
            (pointer held .copyX X) Y))

/-! ## Checks and resolution -/

/-- What the checks of `GpuArray_rgemv` establish before any copy. -/
structure GemvChecked (transA : CbTranspose) (A X Y : GpuArray) : Prop where
  blas : A.typecode.isBlas = true
  ndA : A.nd = 2
  ndX : X.nd = 1
  ndY : Y.nd = 1
  typecodeX : X.typecode = A.typecode
  typecodeY : Y.typecode = A.typecode
  alignedA : A.flags.aligned = true
  alignedX : X.flags.aligned = true
  alignedY : Y.flags.aligned = true
  rowsY : Y.dim 0 = (transA.opShape (A.dim 0) (A.dim 1)).1
  colsX : X.dim 0 = (transA.opShape (A.dim 0) (A.dim 1)).2

theorem rgemvCheck_ok {transA : CbTranspose} {A X Y : GpuArray}
    (h : rgemvCheck transA A X Y = .ok ()) : GemvChecked transA A X Y := by
  unfold rgemvCheck at h
  obtain ⟨h1, h⟩ := ite_error_eq_ok h
  obtain ⟨h2, h⟩ := ite_error_eq_ok h
  obtain ⟨h3, h⟩ := ite_error_eq_ok h
  obtain ⟨h4, h⟩ := ite_error_eq_ok h
  obtain ⟨h5, -⟩ := ite_error_eq_ok h
  simp only [Bool.not_eq_eq_eq_not, Bool.not_true, Bool.not_eq_false, ne_eq, not_or,
    Decidable.not_not, Bool.or_eq_true] at h1 h2 h3 h4 h5
  exact ⟨h1, h2.1, h2.2.1, h2.2.2, h3.1, h3.2, h4.1.1, h4.1.2, h4.2, h5.1, h5.2⟩

/-- The converse: operands with every fact the checks establish pass them. -/
theorem rgemvCheck_eq_ok {transA : CbTranspose} {A X Y : GpuArray} (h : GemvChecked transA A X Y) :
    rgemvCheck transA A X Y = .ok () := by
  simp [rgemvCheck, h.blas, h.ndA, h.ndX, h.ndY, h.typecodeX, h.typecodeY, h.alignedA, h.alignedX,
    h.alignedY, h.rowsY, h.colsX]

theorem rgemvCheck_code {transA : CbTranspose} {A X Y : GpuArray} {f : Failure}
    (h : rgemvCheck transA A X Y = .error f) : f.code ≠ .noError := by
  unfold rgemvCheck at h
  repeat refine code_of_ite_error h nofun fun f h => ?_
  cases h

theorem rgemvResolve_ok {Ap Y : GpuArray} {o : CbOrder} {lda : Nat}
    (h : rgemvResolve Ap Y = .ok (o, lda)) :
    0 ≤ Y.stride 0 ∧ orderOf Ap "Noncontiguous A" = .ok (o, lda) := by
  unfold rgemvResolve at h
  split_ifs at h with hY
  exact ⟨Int.not_lt.mp hY, h⟩

/-- The converse: a `Y` of non-negative stride and an `A` of one segment
resolve. -/
theorem rgemvResolve_ok_of_oneSegment {Ap Y : GpuArray} (hY : 0 ≤ Y.stride 0)
    (hA : Ap.isOneSegment = true) : ∃ r, rgemvResolve Ap Y = .ok r := by
  rw [rgemvResolve, if_neg (Int.not_lt.mpr hY)]
  exact orderOf_ok_of_oneSegment _ hA

theorem rgemvResolve_code {Ap Y : GpuArray} {f : Failure} (h : rgemvResolve Ap Y = .error f) :
    f.code ≠ .noError := by
  unfold rgemvResolve at h
  split_ifs at h
  · cases h
    nofun
  · exact orderOf_code h

/-! ## The kernel call -/

/-- What must have happened for the trace of `GpuArray_rgemv` to hold a kernel
call: the checks passed, the copy blocks went through and head the trace, the
checks after them passed, and the kernel is the `gemv` built from the pointer
variables, at the precision of `Ap`. -/
theorem rgemv_kernel_inv {io : Collab R} {transA : CbTranspose} {alpha beta : R}
    {A X Y : GpuArray} {nocopy : Bool} {prec : Typecode} {k : Kernel R} {st : GaError}
    (hk : Event.call (.kernel prec k st) ∈ (rgemv io transA alpha A X beta Y nocopy).trace) :
    ∃ t held o lda, rgemvCheck transA A X Y = .ok () ∧
      arbitrate io nocopy (rgemvBlocks A X) = .done t held ∧
      t <+: (rgemv io transA alpha A X beta Y nocopy).trace ∧
      rgemvResolve (pointer held .copyA A) Y = .ok (o, lda) ∧
      prec = (pointer held .copyA A).typecode ∧
      k = .gemv (rgemvCall o lda transA (A.dim 0) (A.dim 1) alpha beta A.typecode.elsize
        (pointer held .copyA A) (pointer held .copyX X) Y) := by
  cases hc : rgemvCheck transA A X Y with
  | error f => simp [rgemv, hc, Failure.returned, Failure.call] at hk
  | ok u =>
    cases u
    simp only [rgemv, hc] at hk
    obtain ⟨t, held, ha, c, hc', hev⟩ := finish_kernel io nocopy (by simp [rgemvBlocks]) _ _ hk
      (by simp [Event.kernel?])
    cases hev
    have hpre : t <+: (rgemv io transA alpha A X beta Y nocopy).trace := by
      simp only [rgemv, hc, ha]
      exact prefix_finish_done t held
    split at hc'
    · simp [Failure.body, Failure.call] at hc'
    · rename_i o lda hr
      obtain ⟨rfl, rfl⟩ := eq_of_kernel_mem_dispatch hc'
      exact ⟨t, held, o, lda, rfl, ha, hpre, hr, rfl, rfl⟩

section Correct

variable [Semiring R]

/-- The `gemv` that a call which got through its checks, blocks and resolver
hands to the backend, over copies that hold their sources' elements: it gets
`A`'s own extents, a leading dimension that covers them and non-negative
increments, and its reference meaning sets every logical `Y[i]` to
`alpha * Σ op(A)[i][j] * X[j] + beta * Y[i]` and writes nowhere else. -/
theorem gemvCall_correct (mem : Mem R) {io : Collab R} {transA : CbTranspose} (alpha beta : R)
    {A X Y : GpuArray} {nocopy : Bool} {t : List (Event R)} {held : Held} {o : CbOrder}
    {lda : Nat} {g : GemvCall R} (hA : A.FlagsSound) (hX : X.FlagsSound) (hY : Y.FlagsSound)
    (hYinj : ∀ i < Y.dim 0, ∀ j < Y.dim 0, Y.elem [i] = Y.elem [j] → i = j)
    (hchk : rgemvCheck transA A X Y = .ok ())
    (ha : arbitrate io nocopy (rgemvBlocks A X) = .done t held)
    (hr : rgemvResolve (pointer held .copyA A) Y = .ok (o, lda)) (hcopies : CopiesSound mem t)
    (hg : g = rgemvCall o lda transA (A.dim 0) (A.dim 1) alpha beta A.typecode.elsize
      (pointer held .copyA A) (pointer held .copyX X) Y) :
    g.m = A.dim 0 ∧ g.n = A.dim 1 ∧ LdCovers g.order g.lda g.m g.n ∧ 0 ≤ g.incX ∧ 0 ≤ g.incY ∧
    (∀ i < Y.dim 0, g.run A.itemsize mem Y.data (Y.elem [i]) =
      alpha * ∑ j in Finset.range (X.dim 0),
          opEntry transA (fun r c => A.read mem [r, c]) i j * X.read mem [j] +
        beta * Y.read mem [i]) ∧
    (∀ buf a, (∀ i < Y.dim 0, (buf, a) ≠ (Y.data, Y.elem [i])) →
      g.run A.itemsize mem buf a = mem buf a) := by
  subst hg
  have hok := rgemvCheck_ok hchk
  obtain ⟨hY0, hoA⟩ := rgemvResolve_ok hr
  have hnd : ((rgemvBlocks A X).map CopyBlock.slot).Nodup := by simp [rgemvBlocks]
  have hAp : StandsFor mem A (pointer held .copyA A) := StandsFor.of_arbitrate hnd ha
    (List.mem_cons_self _ _) (.of_flagsSound hok.ndA hA hok.alignedA) hcopies
  have hXp : VecStandsFor mem X (pointer held .copyX X) := VecStandsFor.of_arbitrate hnd ha
    (List.mem_cons_of_mem _ (List.mem_cons_self _ _)) (.of_flagsSound hok.ndX hX hok.alignedX) rfl
    hcopies
  have hYs : VecStandsFor mem Y Y := .self (.of_flagsSound hok.ndY hY hok.alignedY) hY0
  -- `X` and `Y` are read with `A`'s element size, which is their own
  have heX : X.itemsize = A.itemsize := congrArg Typecode.elsize hok.typecodeX
  have heY : Y.itemsize = A.itemsize := congrArg Typecode.elsize hok.typecodeY
  have hincX := hXp.inc_eq
  have hincY := hYs.inc_eq
  have hreadX := fun j (hj : j < X.dim 0) => hXp.vecAddr_read hj
  have hplaceY := hYs.vecAddr_eq
  rw [heX] at hincX hreadX
  rw [heY] at hincY hplaceY
  -- `A` is read in place through the pointer variable
  obtain ⟨hld, hplaceA⟩ := orderOf_place hoA hAp.sound
  rw [hAp.itemsize] at hplaceA
  have hreadA : ∀ i < Y.dim 0, ∀ j < X.dim 0,
      opEntry transA (fun r c => mem (pointer held .copyA A).data
        (matAddr A.itemsize o ((pointer held .copyA A).offset / A.itemsize) lda r c)) i j =
      opEntry transA (fun r c => A.read mem [r, c]) i j := fun i hi j hj => by
    refine opEntry_congr (fun r hr c hc => ?_) (hok.rowsY ▸ hi) (hok.colsX ▸ hj)
    rw [hplaceA r (hAp.dim0 ▸ hr) c (hAp.dim1 ▸ hc)]
    exact hAp.read r hr c hc
  have hcells : (transA.opShape (A.dim 0) (A.dim 1)).1 = Y.dim 0 := hok.rowsY.symm
  refine ⟨rfl, rfl, hAp.dim0 ▸ hAp.dim1 ▸ hld, hincX.2, hincY.2, fun i hi => ?_,
    fun buf a hout => writeCells_of_not_placed fun j hj hpj => hout j ?_ (hpj.symm.trans ?_)⟩
  · have hinj : ∀ x ∈ List.range (transA.opShape (A.dim 0) (A.dim 1)).1,
        ∀ y ∈ List.range (transA.opShape (A.dim 0) (A.dim 1)).1,
        (Y.data, vecAddr A.itemsize (Y.offset / A.itemsize) (ssize (divSU (Y.stride 0) A.itemsize)) x) =
          (Y.data, vecAddr A.itemsize (Y.offset / A.itemsize)
            (ssize (divSU (Y.stride 0) A.itemsize)) y) → x = y := fun x hx y hy hxy => by
      rw [List.mem_range, hcells] at hx hy
      rw [hplaceY, hplaceY] at hxy
      exact hYinj x hx y hy (Prod.mk.inj hxy).2
    have hi' : i ∈ List.range (transA.opShape (A.dim 0) (A.dim 1)).1 := by
      rw [List.mem_range, hcells]
      exact hi
    rw [← hplaceY]
    refine (writeCells_place hinj hi').trans ?_
    simp only [rgemvCall, GpuArray.read, GpuArray.typecode_elsize]
    rw [hplaceY, ← hok.colsX]
    congr 2
    refine Finset.sum_congr rfl fun j hj => ?_
    rw [Finset.mem_range] at hj
    exact congrArg₂ (· * ·) (hreadA i hi j (hok.colsX ▸ hj)) (hreadX j (hok.colsX ▸ hj))
  · rw [← hcells]
    exact List.mem_range.mp hj
  · exact congrArg (Prod.mk Y.data) (hplaceY j)

/-- `GpuArray_rgemv` calls a correct matrix-vector product.  For every
behaviour of the collaborators, every transpose, every `nocopy`, operands
whose flags tell no lie and a `Y` whose elements are at distinct addresses:
whenever the call reaches its kernel, the kernel gets `A`'s own extents, an
`lda` that covers them in the call's order and non-negative increments, the
reference `gemv` of the call sets every `Y[i]` to
`alpha * Σ op(A)[i][j] * X[j] + beta * Y[i]` over the caller's logical
operands, and it writes nowhere else.  Copies are read as in `CopiesSound`. -/
theorem rgemv_kernel_correct (io : Collab R) (mem : Mem R) (transA : CbTranspose) (alpha beta : R)
    (A X Y : GpuArray) (nocopy : Bool) (hA : A.FlagsSound) (hX : X.FlagsSound) (hY : Y.FlagsSound)
    (hYinj : ∀ i < Y.dim 0, ∀ j < Y.dim 0, Y.elem [i] = Y.elem [j] → i = j)
    {prec : Typecode} {g : GemvCall R} {st : GaError}
    (hk : Event.call (.kernel prec (.gemv g) st) ∈ (rgemv io transA alpha A X beta Y nocopy).trace)
    (hcopies : CopiesSound mem (rgemv io transA alpha A X beta Y nocopy).trace) :
    g.m = A.dim 0 ∧ g.n = A.dim 1 ∧ LdCovers g.order g.lda g.m g.n ∧ 0 ≤ g.incX ∧ 0 ≤ g.incY ∧
    (∀ i < Y.dim 0, g.run prec.elsize mem Y.data (Y.elem [i]) =
      alpha * ∑ j in Finset.range (X.dim 0),
          opEntry transA (fun r c => A.read mem [r, c]) i j * X.read mem [j] +
        beta * Y.read mem [i]) ∧
    (∀ buf a, (∀ i < Y.dim 0, (buf, a) ≠ (Y.data, Y.elem [i])) →
      g.run prec.elsize mem buf a = mem buf a) := by
  obtain ⟨t, held, o, lda, hchk, ha, hpre, hr, rfl, hg⟩ := rgemv_kernel_inv hk
  cases hg
  have hsound := hcopies.of_subset hpre.subset
  have he : (pointer held .copyA A).typecode.elsize = A.itemsize := congrArg Typecode.elsize
    (typecode_pointer (by simp [rgemvBlocks]) ha hsound.keepTypecode (List.mem_cons_self _ _))
  rw [he]
  exact gemvCall_correct mem alpha beta hA hX hY hYinj hchk ha hr hsound rfl

end Correct

/-- A column-major `2 × 2` float matrix at the start of buffer `d`. -/
def colMajor2x2 (d : Nat) : GpuArray :=
  ⟨d, 0, 2, [2, 2], [4, 8], ⟨false, true, true⟩, .float, rfl, rfl, by decide⟩

theorem rgemv_kernel_correct_colMajor :
    Event.call (.kernel .float (.gemv (rgemvCall .fortran 2 .noTrans 2 2 1 0 4 (colMajor2x2 0)
      (floatVector 1) (floatVector 2))) .noError) ∈
      (rgemv (Collab.succeeding ℤ) .noTrans 1 (colMajor2x2 0) (floatVector 1) 0 (floatVector 2)
        false).trace ∧
    (rgemvCall .fortran 2 .noTrans 2 2 (1 : ℤ) 0 4 (colMajor2x2 0) (floatVector 1)
      (floatVector 2)).m = 2 :=
  ⟨by decide, (@rgemv_kernel_correct ℤ _ (Collab.succeeding ℤ) (fun _ _ => 0) .noTrans 1 0
    (colMajor2x2 0) (floatVector 1) (floatVector 2) false (by decide) (by decide) (by decide)
    (by decide) .float _ .noError (by decide) (.of_noCopies (by decide))).1⟩

end GpuArrayBlas
