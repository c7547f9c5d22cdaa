import GpuArrayBlas.Blas.Resolve

/-!
# `GpuArray_rdot`

`GpuArray_rdot(X, Y, Z, nocopy)` checks its operands, copies `X` and `Y` when
their stride is negative, and calls `gpublas_?dot` with the element offsets and
strides of the pointer variables.

Its dtype test is the one check of the file that calls `error_set` without
`return`: `rdotCheck` returns the failures it logs beside its verdict, and a
call whose operands disagree on the typecode goes on to the kernel.
`rdot_dtype_mismatch_kernel` exhibits such a call.

The main result, `rdot_kernel_correct`, holds for every collaborator behaviour
and all operands of one typecode: whenever the entry point calls its kernel,
the call has `X`'s length and non-negative increments, and the reference `dot`
of the call sets `Z` to `Σ X[i] * Y[i]` over the caller's logical vectors.
-/

set_option autoImplicit false

namespace GpuArrayBlas

/-- The checks of `GpuArray_rdot` before any copy, in source order: the
failures they log without returning, and their verdict. -/
def rdotCheck (X Y Z : GpuArray) : List Failure × Except Failure Unit :=
  if !X.typecode.isBlas then ([], .error ⟨.invalidError, "Data type not supported"⟩)
  else if X.nd ≠ 1 ∨ Y.nd ≠ 1 ∨ Z.nd ≠ 0 then
    ([], .error ⟨.valueError, "Wrong number of dimensions: X->nd = " ++ toString X.nd ++
      " (expected 1), Y->nd = " ++ toString Y.nd ++ " (expected 1), Z->nd = " ++ toString Z.nd ++
      " (expected 0)"⟩)
  else
    (if X.typecode ≠ Y.typecode ∨ X.typecode ≠ Z.typecode then
      [⟨.valueError, "Inconsistent dtypes"⟩] else [],
     if !X.flags.aligned || !Y.flags.aligned || !Z.flags.aligned then
       .error ⟨.unalignedError, "One of the inputs is unaligned"⟩
     else if X.dim 0 ≠ Y.dim 0 then
       .error ⟨.valueError, "Shape mismatch: X->dimensions[0] = " ++ toString (X.dim 0) ++
         " != Y->dimensions[0] = " ++ toString (Y.dim 0)⟩
     else .ok ())

/-- The copy blocks of `GpuArray_rdot`: `X`, then `Y`, into temporaries of any
order when their stride is negative. -/
def rdotBlocks (X Y : GpuArray) : List CopyBlock :=
  [⟨.copyX, X, decide (X.stride 0 < 0), .any, "Copy required for X"⟩,
   ⟨.copyY, Y, decide (Y.stride 0 < 0), .any, "Copy required for Y"⟩]

/-- The `dot` call of `GpuArray_rdot` on the pointer variables: offsets and
strides divided by the element size, the strides as `ssize_t / size_t`. -/
def rdotCall (n e : Nat) (Xp Yp Z : GpuArray) : DotCall :=
  ⟨n, Xp.data, Xp.offset / e, ssize (divSU (Xp.stride 0) e), Yp.data, Yp.offset / e,
    ssize (divSU (Yp.stride 0) e), Z.data, Z.offset / e⟩

variable {R : Type}

/-- `GpuArray_rdot(X, Y, Z, nocopy)`. -/
def rdot (io : Collab R) (X Y Z : GpuArray) (nocopy : Bool) : Outcome R :=
  Outcome.afterCalls ((rdotCheck X Y Z).1.map Failure.call) <|
    match (rdotCheck X Y Z).2 with
    | .error f => f.returned
    | .ok () =>
      finish [.copyX, .copyY] (arbitrate io nocopy (rdotBlocks X Y)) fun held =>
        dispatch io (io.context X.data) (pointer held .copyX X).typecode
          (.dot (rdotCall (X.dim 0) X.typecode.elsize (pointer held .copyX X)
            (pointer held .copyY Y) Z))

/-! ## Checks -/

/-- What the checks of `GpuArray_rdot` establish before any copy.  The
typecodes of `Y` and `Z` are not among them. -/
structure DotChecked (X Y Z : GpuArray) : Prop where
  blas : X.typecode.isBlas = true
  ndX : X.nd = 1
  ndY : Y.nd = 1
  ndZ : Z.nd = 0
  alignedX : X.flags.aligned = true
  alignedY : Y.flags.aligned = true
  alignedZ : Z.flags.aligned = true
  length : X.dim 0 = Y.dim 0

theorem rdotCheck_ok {X Y Z : GpuArray} (h : (rdotCheck X Y Z).2 = .ok ()) : DotChecked X Y Z := by
  unfold rdotCheck at h
  simp only [apply_ite Prod.snd] at h
  obtain ⟨h1, h⟩ := ite_error_eq_ok h
  obtain ⟨h2, h⟩ := ite_error_eq_ok h
  obtain ⟨h3, h⟩ := ite_error_eq_ok h
  obtain ⟨h4, -⟩ := ite_error_eq_ok h
  simp only [Bool.not_eq_eq_eq_not, Bool.not_true, Bool.not_eq_false, ne_eq, not_or,
    Decidable.not_not, Bool.or_eq_true] at h1 h2 h3 h4
  exact ⟨h1, h2.1, h2.2.1, h2.2.2, h3.1.1, h3.1.2, h3.2, h4⟩

/-- The converse: operands with every fact the checks establish pass them. -/
theorem rdotCheck_eq_ok {X Y Z : GpuArray} (h : DotChecked X Y Z) : (rdotCheck X Y Z).2 = .ok () := by
  simp [rdotCheck, h.blas, h.ndX, h.ndY, h.ndZ, h.alignedX, h.alignedY, h.alignedZ, h.length]

theorem rdotCheck_code {X Y Z : GpuArray} {f : Failure} (h : (rdotCheck X Y Z).2 = .error f) :
    f.code ≠ .noError := by
  unfold rdotCheck at h
  simp only [apply_ite Prod.snd] at h
  repeat refine code_of_ite_error h nofun fun f h => ?_
  cases h

/-! ## The kernel call -/

/-- What must have happened for the trace of `GpuArray_rdot` to hold a kernel
call: the returning checks passed, the copy blocks went through and are part
of the trace, and the kernel is the `dot` built from the pointer variables, at
the precision of `Xp`. -/
theorem rdot_kernel_inv {io : Collab R} {X Y Z : GpuArray} {nocopy : Bool} {prec : Typecode}
    {k : Kernel R} {st : GaError}
    (hk : Event.call (.kernel prec k st) ∈ (rdot io X Y Z nocopy).trace) :
    ∃ t held, (rdotCheck X Y Z).2 = .ok () ∧ arbitrate io nocopy (rdotBlocks X Y) = .done t held ∧
      t ⊆ (rdot io X Y Z nocopy).trace ∧ prec = (pointer held .copyX X).typecode ∧
      k = .dot (rdotCall (X.dim 0) X.typecode.elsize (pointer held .copyX X)
        (pointer held .copyY Y) Z) := by
  have hlog : Event.call (.kernel prec k st) ∉ ((rdotCheck X Y Z).1.map Failure.call).map Event.call := by
    simp [Failure.call]
  cases hc : (rdotCheck X Y Z).2 with
  | error f =>
    simp only [rdot, Outcome.afterCalls, hc, List.mem_append] at hk
    simp [hlog, Failure.returned, Failure.call] at hk
  | ok u =>
    cases u
    simp only [rdot, Outcome.afterCalls, hc, List.mem_append] at hk
    rcases hk with hk | hk
    · exact absurd hk hlog
    obtain ⟨t, held, ha, c, hc', hev⟩ := finish_kernel io nocopy (by simp [rdotBlocks]) _ _ hk
      (by simp [Event.kernel?])
    cases hev
    obtain ⟨rfl, rfl⟩ := eq_of_kernel_mem_dispatch hc'
    refine ⟨t, held, rfl, ha, fun ev hev => ?_, rfl, rfl⟩
    simp only [rdot, Outcome.afterCalls, hc, ha, List.mem_append]
    exact .inr ((prefix_finish_done t held).subset hev)

section Correct

variable [Semiring R]

/-- The `dot` that a call which got through its checks and blocks hands to the
backend, over copies that hold their sources' elements and operands of one
typecode: it gets `X`'s length and non-negative increments, and its reference
meaning sets `Z` to `Σ X[i] * Y[i]` and writes nowhere else. -/
theorem dotCall_correct (mem : Mem R) {io : Collab R} {X Y Z : GpuArray} {nocopy : Bool}
    {t : List (Event R)} {held : Held} {d : DotCall} (hX : X.FlagsSound) (hY : Y.FlagsSound)
    (hZ : Z.FlagsSound) (hXY : Y.typecode = X.typecode) (hXZ : Z.typecode = X.typecode)
    (hc : (rdotCheck X Y Z).2 = .ok ()) (ha : arbitrate io nocopy (rdotBlocks X Y) = .done t held)
    (hcopies : CopiesSound mem t)
    (hd : d = rdotCall (X.dim 0) X.typecode.elsize (pointer held .copyX X) (pointer held .copyY Y) Z) :
    d.n = X.dim 0 ∧ 0 ≤ d.incX ∧ 0 ≤ d.incY ∧
    d.run X.itemsize mem Z.data Z.offset =
      ∑ i in Finset.range (X.dim 0), X.read mem [i] * Y.read mem [i] ∧
    ∀ buf a, (buf, a) ≠ (Z.data, (Z.offset : Int)) → d.run X.itemsize mem buf a = mem buf a := by
  subst hd
  have hok := rdotCheck_ok hc
  have hnd : ((rdotBlocks X Y).map CopyBlock.slot).Nodup := by simp [rdotBlocks]
  have hXp : VecStandsFor mem X (pointer held .copyX X) :=
    VecStandsFor.of_arbitrate hnd ha (List.mem_cons_self _ _)
      (.of_flagsSound hok.ndX hX hok.alignedX) rfl hcopies
  have hYp : VecStandsFor mem Y (pointer held .copyY Y) :=
    VecStandsFor.of_arbitrate hnd ha (List.mem_cons_of_mem _ (List.mem_cons_self _ _))
      (.of_flagsSound hok.ndY hY hok.alignedY) rfl hcopies
  have heY : Y.itemsize = X.itemsize := congrArg Typecode.elsize hXY
  -- `Y` is read with `X`'s element size, which is its own
  have hincY := hYp.inc_eq
  have hreadY := fun i (hi : i < Y.dim 0) => hYp.vecAddr_read hi
  rw [heY] at hincY hreadY
  -- the kernel writes `Z` in place
  have hZplace : ((X.itemsize * (Z.offset / X.itemsize) : Nat) : Int) = Z.offset := by
    have h := (hZ.aligned hok.alignedZ).offset_eq
    rwa [GpuArray.itemsize, hXZ] at h
  refine ⟨rfl, hXp.inc_eq.2, hincY.2, ?_, fun buf a hout => DotCall.run_of_ne _ _ mem
    fun h => hout (h.trans (Prod.ext rfl hZplace))⟩
  rw [← hZplace]
  refine (DotCall.run_Z _ _ mem).trans (Finset.sum_congr rfl fun i hi => ?_)
  rw [Finset.mem_range] at hi
  exact congrArg₂ (· * ·) (hXp.vecAddr_read hi) (hreadY i (hok.length ▸ hi))

/-- `GpuArray_rdot` calls a correct dot product.  For every behaviour of the
collaborators, every `nocopy` and all operands of one typecode whose flags tell
no lie: whenever the call reaches its kernel, the kernel gets `X`'s length and
non-negative increments, the reference `dot` of the call sets `Z` to
`Σ X[i] * Y[i]` over the caller's logical vectors, read through their own
strides, and it writes nowhere else.  Copies are read as in `CopiesSound`. -/
theorem rdot_kernel_correct (io : Collab R) (mem : Mem R) (X Y Z : GpuArray) (nocopy : Bool)
    (hX : X.FlagsSound) (hY : Y.FlagsSound) (hZ : Z.FlagsSound) (hXY : Y.typecode = X.typecode)
    (hXZ : Z.typecode = X.typecode) {prec : Typecode} {d : DotCall} {st : GaError}
    (hk : Event.call (.kernel prec (.dot d) st) ∈ (rdot io X Y Z nocopy).trace)
    (hcopies : CopiesSound mem (rdot io X Y Z nocopy).trace) :
    d.n = X.dim 0 ∧ 0 ≤ d.incX ∧ 0 ≤ d.incY ∧
    d.run prec.elsize mem Z.data Z.offset =
      ∑ i in Finset.range (X.dim 0), X.read mem [i] * Y.read mem [i] ∧
    ∀ buf a, (buf, a) ≠ (Z.data, (Z.offset : Int)) → d.run prec.elsize mem buf a = mem buf a := by
  obtain ⟨t, held, hc, ha, hsub, rfl, hd⟩ := rdot_kernel_inv hk
  cases hd
  have hsound := hcopies.of_subset hsub
  have he : (pointer held .copyX X).typecode.elsize = X.itemsize := congrArg Typecode.elsize
    (typecode_pointer (by simp [rdotBlocks]) ha hsound.keepTypecode (List.mem_cons_self _ _))
  rw [he]
  exact dotCall_correct mem hX hY hZ hXY hXZ hc ha hsound rfl

end Correct

/-- A packed `float` vector of length 2 at the start of buffer `d`. -/
def floatVector (d : Nat) : GpuArray :=
  ⟨d, 0, 1, [2], [4], ⟨true, true, true⟩, .float, rfl, rfl, by decide⟩

/-- A packed `double` vector of length 2 at the start of buffer `d`. -/
def doubleVector (d : Nat) : GpuArray :=
  ⟨d, 0, 1, [2], [8], ⟨true, true, true⟩, .double, rfl, rfl, by decide⟩

/-- A `float` scalar at the start of buffer `d`. -/
def floatScalar (d : Nat) : GpuArray :=
  ⟨d, 0, 0, [], [], ⟨true, true, true⟩, .float, rfl, rfl, by decide⟩

theorem rdot_kernel_correct_floats :
    Event.call (.kernel .float (.dot (rdotCall 2 4 (floatVector 0) (floatVector 1) (floatScalar 2)))
      .noError) ∈ (rdot (Collab.succeeding ℤ) (floatVector 0) (floatVector 1) (floatScalar 2) false).trace ∧
    (rdotCall 2 4 (floatVector 0) (floatVector 1) (floatScalar 2)).n = 2 :=
  ⟨by decide, (@rdot_kernel_correct ℤ _ (Collab.succeeding ℤ) (fun _ _ => 0) (floatVector 0)
    (floatVector 1) (floatScalar 2) false (by decide) (by decide) (by decide) rfl rfl .float _ .noError
    (by decide) (.of_noCopies (by decide))).1⟩

/-- A `float` `X` with a `double` `Y`: the dtype test logs "Inconsistent dtypes"
and goes on, `gpublas_sdot` reads `Y`'s doubles as floats, and the call returns
the kernel's `GA_NO_ERROR`. -/
theorem rdot_dtype_mismatch_kernel :
    (doubleVector 1).typecode ≠ (floatVector 0).typecode ∧
    Event.call (.kernel .float (.dot (rdotCall 2 4 (floatVector 0) (doubleVector 1) (floatScalar 2)))
      .noError) ∈ (rdot (Collab.succeeding ℤ) (floatVector 0) (doubleVector 1) (floatScalar 2) false).trace ∧
    (rdot (Collab.succeeding ℤ) (floatVector 0) (doubleVector 1) (floatScalar 2) false).ending =
      .returns .noError := by
  decide

end GpuArrayBlas
