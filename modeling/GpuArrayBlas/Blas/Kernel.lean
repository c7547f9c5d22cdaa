import GpuArrayBlas.Array.Layout
import Mathlib.Algebra.BigOperators.Group.Finset
import Mathlib.Algebra.Ring.Defs

/-!
# Backend kernels and their reference meaning

The entry points of `gpuarray_array_blas.c` end in one call of a precision
specific backend kernel (`gpublas_hgemm`, `gpublas_sgemv`, ...).  The kernels
are collaborators: this module records the arguments each one receives and
gives each the meaning of the reference BLAS in exact arithmetic over a
semiring `R`, as a computable function from memory before the call to memory
after it.

Every kernel writes a finite set of cells, each at one byte address of one
buffer, and leaves every other address alone.  `writeCells` is that shape,
once; `writeCells_place` says a cell receives its value when the placement is
injective on the cells, and `writeCells_of_not_placed` is the frame.  The five
reference kernels are `writeCells` with their own cells, placements and values.

Scalars and memory are exact: the `(float)alpha` casts of the source are the
identity here.

Each reference kernel is one simultaneous and total update: every value it
writes is computed from the memory before the call, and every argument tuple
computes.  An output that overlaps an input, an increment of 0 and a leading
dimension below `max(1, rows)` all give a result here, where the reference BLAS
leaves the first undefined and rejects the other two as illegal arguments of
`gemv` and `ger` (and the last of every matrix kernel).  The entry points do
pass an increment of 0, for a vector of stride 0, and nothing in
`gpuarray_array_blas.c` rejects an output that overlaps an input.  So the
theorems about a call state what it passes (`GemmCall.LdValid`, the increments
and leading dimensions of the calls) and never lean on a kernel refusing it.
-/

set_option autoImplicit false

namespace GpuArrayBlas

/-- `cb_order`: row-major (`cb_c`) or column-major (`cb_fortran`). -/
inductive CbOrder where
  | c
  | fortran
  deriving DecidableEq, Repr

/-- `cb_transpose`.  On the real types of this layer `cb_conj_trans` reads like
`cb_trans`. -/
inductive CbTranspose where
  | noTrans
  | trans
  | conjTrans
  deriving DecidableEq, Repr

namespace CbTranspose

/-- The resolver's flip:
`if (t == cb_no_trans) t = cb_trans; else t = cb_no_trans;`. -/
def toggle : CbTranspose → CbTranspose
  | noTrans => trans
  | _ => noTrans

/-- The two extents of `op(M)` for a transpose flag and the extents `r × c` of
the untransposed operand `M`. -/
def opShape : CbTranspose → Nat → Nat → Nat × Nat
  | noTrans, r, c => (r, c)
  | _, r, c => (c, r)

end CbTranspose

/-- Element `(r, c)` of a matrix stored in order `o` with leading dimension
`ld`, counted in elements from its first element. -/
def cbIndex : CbOrder → Nat → Nat → Nat → Nat
  | .c, ld, r, c => r * ld + c
  | .fortran, ld, r, c => r + c * ld

/-- The leading dimension of a stored `rows × cols` matrix spans its rows
(column-major) or its columns (row-major): the BLAS requirement on `ld`. -/
def LdCovers (o : CbOrder) (ld rows cols : Nat) : Prop :=
  match o with
  | .fortran => rows ≤ ld
  | .c => cols ≤ ld

instance (o : CbOrder) (ld rows cols : Nat) : Decidable (LdCovers o ld rows cols) := by
  cases o <;> exact inferInstanceAs (Decidable (_ ≤ _))

/-- Device memory: the value at each byte address of each buffer. -/
abbrev Mem (R : Type) := Nat → Int → R

/-- Byte address of element `(r, c)` of a matrix stored from element `off`. -/
def matAddr (e : Nat) (o : CbOrder) (off ld r c : Nat) : Int :=
  ((e * (off + cbIndex o ld r c) : Nat) : Int)

/-- Byte address of element `i` of a vector stored from element `off` with a
signed increment. -/
def vecAddr (e off : Nat) (inc : Int) (i : Nat) : Int :=
  e * ((off : Int) + i * inc)

/-- Byte address of element `(r, c)` of slice `b` of a strided batch: the slice
starts `b * stride` elements, in signed arithmetic, after element `off`. -/
def sliceAddr (e : Nat) (o : CbOrder) (off : Nat) (stride : Int) (ld b r c : Nat) : Int :=
  e * ((off : Int) + b * stride + (cbIndex o ld r c : Nat))

/-- `op(M)(i, l)` for the entries `M r c` of a stored matrix. -/
def opEntry {R : Type} (t : CbTranspose) (M : Nat → Nat → R) (i l : Nat) : R :=
  match t with
  | .noTrans => M i l
  | _ => M l i

/-- The cells of an `m × n` matrix, row by row. -/
def cells2 (m n : Nat) : List (Nat × Nat) :=
  (List.range m).flatMap fun i => (List.range n).map fun j => (i, j)

/-- The cells of `batch` matrices of `m × n`. -/
def cells3 (batch m n : Nat) : List (Nat × Nat × Nat) :=
  (List.range batch).flatMap fun b => (cells2 m n).map fun p => (b, p)

/-- The first of `cells` that `place` sends to `a`. -/
def findCell {ι κ : Type} [DecidableEq κ] (cells : List ι) (place : ι → κ) (a : κ) : Option ι :=
  cells.find? fun x => place x = a

/-- A kernel's effect: each of its `cells` receives `value` at its place (a
buffer and a byte address); every other address keeps its value. -/
def writeCells {R ι : Type} (cells : List ι) (place : ι → Nat × Int) (value : ι → R)
    (mem : Mem R) : Mem R :=
  fun buf a =>
    match findCell cells place (buf, a) with
    | some x => value x
    | none => mem buf a

/-! ## The kernels' arguments -/

/-- Arguments of `gpublas_?dot`: `Z := Σ X[i] * Y[i]`. -/
structure DotCall where
  n : Nat
  X : Nat
  offX : Nat
  incX : Int
  Y : Nat
  offY : Nat
  incY : Int
  Z : Nat
  offZ : Nat
  deriving DecidableEq, Repr

/-- Arguments of `gpublas_?gemv`: `Y := alpha * op(A) * X + beta * Y` for an
`m × n` matrix `A`. -/
structure GemvCall (R : Type) where
  order : CbOrder
  transA : CbTranspose
  m : Nat
  n : Nat
  alpha : R
  A : Nat
  offA : Nat
  lda : Nat
  X : Nat
  offX : Nat
  incX : Int
  beta : R
  Y : Nat
  offY : Nat
  incY : Int
  deriving DecidableEq, Repr

/-- Arguments of `gpublas_?gemm`: `C := alpha * op(A) * op(B) + beta * C` with
`op(A)` of `m × k` and `op(B)` of `k × n`. -/
structure GemmCall (R : Type) where
  order : CbOrder
  transA : CbTranspose
  transB : CbTranspose
  m : Nat
  n : Nat
  k : Nat
  alpha : R
  A : Nat
  offA : Nat
  lda : Nat
  B : Nat
  offB : Nat
  ldb : Nat
  beta : R
  C : Nat
  offC : Nat
  ldc : Nat
  deriving DecidableEq, Repr

/-- Arguments of `gpublas_?ger`: `A := alpha * X * Yᵀ + A` for an `m × n` matrix. -/
structure GerCall (R : Type) where
  order : CbOrder
  m : Nat
  n : Nat
  alpha : R
  X : Nat
  offX : Nat
  incX : Int
  Y : Nat
  offY : Nat
  incY : Int
  A : Nat
  offA : Nat
  lda : Nat
  deriving DecidableEq, Repr

/-- Arguments of `gpublas_?gemm3D`: `batchCount` products whose slices start
`stride` elements apart.  The `ssize_t` stride parameters hold the `size_t`
quotients the caller computed, converted back. -/
structure Gemm3DCall (R : Type) where
  order : CbOrder
  transA : CbTranspose
  transB : CbTranspose
  m : Nat
  n : Nat
  k : Nat
  alpha : R
  A : Nat
  offA : Nat
  lda : Nat
  strideA : Int
  B : Nat
  offB : Nat
  ldb : Nat
  strideB : Int
  beta : R
  C : Nat
  offC : Nat
  ldc : Nat
  strideC : Int
  batchCount : Nat
  deriving DecidableEq, Repr

/-- Arguments of `gpublas_?gemmBatch`: one buffer and one element offset per
slice and operand. -/
structure GemmBatchCall (R : Type) where
  order : CbOrder
  transA : CbTranspose
  transB : CbTranspose
  m : Nat
  n : Nat
  k : Nat
  alpha : R
  A : List Nat
  offA : List Nat
  lda : Nat
  B : List Nat
  offB : List Nat
  ldb : Nat
  beta : R
  C : List Nat
  offC : List Nat
  ldc : Nat
  batchCount : Nat
  deriving DecidableEq, Repr

/-- One backend call, by kind. -/
inductive Kernel (R : Type) where
  | dot (c : DotCall)
  | gemv (c : GemvCall R)
  | gemm (c : GemmCall R)
  | ger (c : GerCall R)
  | gemm3D (c : Gemm3DCall R)
  | gemmBatch (c : GemmBatchCall R)
  deriving DecidableEq, Repr

/-! ## Reference meaning -/

section Reference

variable {R : Type} [Semiring R]

/-- Reference `dot`. -/
def DotCall.run (d : DotCall) (e : Nat) (mem : Mem R) : Mem R :=
  writeCells [()] (fun _ => (d.Z, ((e * d.offZ : Nat) : Int)))
    (fun _ => ∑ i in Finset.range d.n,
      mem d.X (vecAddr e d.offX d.incX i) * mem d.Y (vecAddr e d.offY d.incY i)) mem

/-- Entry `(r, c)` of the matrix `A` of a `gemv` call. -/
def GemvCall.readA (g : GemvCall R) (e : Nat) (mem : Mem R) (r c : Nat) : R :=
  mem g.A (matAddr e g.order g.offA g.lda r c)

/-- Reference `gemv`: `Y` has the rows of `op(A)`, `X` its columns. -/
def GemvCall.run (g : GemvCall R) (e : Nat) (mem : Mem R) : Mem R :=
  writeCells (List.range (g.transA.opShape g.m g.n).1)
    (fun i => (g.Y, vecAddr e g.offY g.incY i))
    (fun i => g.alpha * ∑ j in Finset.range (g.transA.opShape g.m g.n).2,
        opEntry g.transA (g.readA e mem) i j * mem g.X (vecAddr e g.offX g.incX j) +
      g.beta * mem g.Y (vecAddr e g.offY g.incY i)) mem

/-- Entry `(r, c)` of the stored `A` of a `gemm` call. -/
def GemmCall.readA (g : GemmCall R) (e : Nat) (mem : Mem R) (r c : Nat) : R :=
  mem g.A (matAddr e g.order g.offA g.lda r c)

/-- Entry `(r, c)` of the stored `B` of a `gemm` call. -/
def GemmCall.readB (g : GemmCall R) (e : Nat) (mem : Mem R) (r c : Nat) : R :=
  mem g.B (matAddr e g.order g.offB g.ldb r c)

/-- Reference `gemm` on the `m × n` cells of `C`. -/
def GemmCall.run (g : GemmCall R) (e : Nat) (mem : Mem R) : Mem R :=
  writeCells (cells2 g.m g.n) (fun p => (g.C, matAddr e g.order g.offC g.ldc p.1 p.2))
    (fun p => g.alpha * ∑ l in Finset.range g.k,
        opEntry g.transA (g.readA e mem) p.1 l * opEntry g.transB (g.readB e mem) l p.2 +
      g.beta * mem g.C (matAddr e g.order g.offC g.ldc p.1 p.2)) mem

/-- The BLAS requirement on the three leading dimensions of a `gemm` call. -/
def GemmCall.LdValid (g : GemmCall R) : Prop :=
  LdCovers g.order g.lda (g.transA.opShape g.m g.k).1 (g.transA.opShape g.m g.k).2 ∧
  LdCovers g.order g.ldb (g.transB.opShape g.k g.n).1 (g.transB.opShape g.k g.n).2 ∧
  LdCovers g.order g.ldc g.m g.n

/-- Reference `ger` on the `m × n` cells of `A`. -/
def GerCall.run (g : GerCall R) (e : Nat) (mem : Mem R) : Mem R :=
  writeCells (cells2 g.m g.n) (fun p => (g.A, matAddr e g.order g.offA g.lda p.1 p.2))
    (fun p => mem g.A (matAddr e g.order g.offA g.lda p.1 p.2) +
      g.alpha * mem g.X (vecAddr e g.offX g.incX p.1) * mem g.Y (vecAddr e g.offY g.incY p.2)) mem

/-- Reference strided-batched `gemm`: slice `b` of each operand starts at
element `off + b * stride`. -/
def Gemm3DCall.run (g : Gemm3DCall R) (e : Nat) (mem : Mem R) : Mem R :=
  writeCells (cells3 g.batchCount g.m g.n)
    (fun x => (g.C, sliceAddr e g.order g.offC g.strideC g.ldc x.1 x.2.1 x.2.2))
    (fun x => g.alpha * ∑ l in Finset.range g.k,
        opEntry g.transA (fun r c => mem g.A (sliceAddr e g.order g.offA g.strideA g.lda x.1 r c))
          x.2.1 l *
        opEntry g.transB (fun r c => mem g.B (sliceAddr e g.order g.offB g.strideB g.ldb x.1 r c))
          l x.2.2 +
      g.beta * mem g.C (sliceAddr e g.order g.offC g.strideC g.ldc x.1 x.2.1 x.2.2)) mem

/-- Reference pointer-array batched `gemm`: slice `b` of each operand is the
matrix at `offsets[b]` of buffer `datas[b]`. -/
def GemmBatchCall.run (g : GemmBatchCall R) (e : Nat) (mem : Mem R) : Mem R :=
  writeCells (cells3 g.batchCount g.m g.n)
    (fun x => (g.C.getD x.1 0, matAddr e g.order (g.offC.getD x.1 0) g.ldc x.2.1 x.2.2))
    (fun x => g.alpha * ∑ l in Finset.range g.k,
        opEntry g.transA
          (fun r c => mem (g.A.getD x.1 0) (matAddr e g.order (g.offA.getD x.1 0) g.lda r c))
          x.2.1 l *
        opEntry g.transB
          (fun r c => mem (g.B.getD x.1 0) (matAddr e g.order (g.offB.getD x.1 0) g.ldb r c))
          l x.2.2 +
      g.beta * mem (g.C.getD x.1 0)
        (matAddr e g.order (g.offC.getD x.1 0) g.ldc x.2.1 x.2.2)) mem

/-- The effect of one backend call with element size `e`. -/
def Kernel.run (k : Kernel R) (e : Nat) (mem : Mem R) : Mem R :=
  match k with
  | .dot c => c.run e mem
  | .gemv c => c.run e mem
  | .gemm c => c.run e mem
  | .ger c => c.run e mem
  | .gemm3D c => c.run e mem
  | .gemmBatch c => c.run e mem

end Reference

/-! ## Cells and placements -/

@[simp] theorem mem_cells2 {m n : Nat} {p : Nat × Nat} : p ∈ cells2 m n ↔ p.1 < m ∧ p.2 < n := by
  obtain ⟨i, j⟩ := p
  simp [cells2]

@[simp] theorem mem_cells3 {batch m n : Nat} {x : Nat × Nat × Nat} :
    x ∈ cells3 batch m n ↔ x.1 < batch ∧ x.2.1 < m ∧ x.2.2 < n := by
  obtain ⟨b, i, j⟩ := x
  simp [cells3]

/-- A cell receives its value when no other cell shares its place. -/
theorem writeCells_place {R ι : Type} {cells : List ι} {place : ι → Nat × Int} {value : ι → R}
    {mem : Mem R} (hinj : ∀ x ∈ cells, ∀ y ∈ cells, place x = place y → x = y)
    {x : ι} (hx : x ∈ cells) :
    writeCells cells place value mem (place x).1 (place x).2 = value x := by
  have hfind : findCell cells place (place x) = some x := by
    cases h : findCell cells place (place x) with
    | none =>
      rw [findCell, List.find?_eq_none] at h
      exact absurd (by simp) (h x hx)
    | some y =>
      have hy : place y = place x := by simpa using List.find?_some h
      rw [hinj y (List.mem_of_find?_eq_some h) x hx hy]
  simp only [writeCells, hfind]

/-- The frame: an address no cell is placed at keeps its value. -/
theorem writeCells_of_not_placed {R ι : Type} {cells : List ι} {place : ι → Nat × Int}
    {value : ι → R} {mem : Mem R} {buf : Nat} {a : Int} (h : ∀ x ∈ cells, place x ≠ (buf, a)) :
    writeCells cells place value mem buf a = mem buf a := by
  have hfind : findCell cells place (buf, a) = none := by
    rw [findCell, List.find?_eq_none]
    simpa using h
  simp only [writeCells, hfind]

/-- Two cells of a stored matrix whose leading dimension covers it are at
different elements. -/
theorem cbIndex_inj {o : CbOrder} {ld rows cols r c r' c' : Nat} (hld : LdCovers o ld rows cols)
    (hr : r < rows) (hc : c < cols) (hr' : r' < rows) (hc' : c' < cols)
    (h : cbIndex o ld r c = cbIndex o ld r' c') : r = r' ∧ c = c' := by
  cases o with
  | fortran =>
    simp only [LdCovers, cbIndex] at hld h
    have hpos : 0 < ld := by omega
    have hdiv := congrArg (· / ld) h
    have hmod := congrArg (· % ld) h
    simp only [Nat.add_mul_div_right _ _ hpos, Nat.add_mul_mod_self_right,
      Nat.div_eq_of_lt (show r < ld by omega), Nat.div_eq_of_lt (show r' < ld by omega),
      Nat.mod_eq_of_lt (show r < ld by omega), Nat.mod_eq_of_lt (show r' < ld by omega)] at hdiv hmod
    omega
  | c =>
    simp only [LdCovers, cbIndex] at hld h
    have hpos : 0 < ld := by omega
    have hdiv := congrArg (· / ld) h
    have hmod := congrArg (· % ld) h
    simp only [Nat.add_comm (_ * ld), Nat.add_mul_div_right _ _ hpos, Nat.add_mul_mod_self_right,
      Nat.div_eq_of_lt (show c < ld by omega), Nat.div_eq_of_lt (show c' < ld by omega),
      Nat.mod_eq_of_lt (show c < ld by omega), Nat.mod_eq_of_lt (show c' < ld by omega)] at hdiv hmod
    omega

/-- Two cells of a stored matrix whose leading dimension covers it are at
different byte addresses. -/
theorem matAddr_inj {e : Nat} (he : 0 < e) {o : CbOrder} {off ld rows cols : Nat}
    (hld : LdCovers o ld rows cols) {p q : Nat × Nat} (hp : p ∈ cells2 rows cols)
    (hq : q ∈ cells2 rows cols) (h : matAddr e o off ld p.1 p.2 = matAddr e o off ld q.1 q.2) :
    p = q := by
  rw [mem_cells2] at hp hq
  simp only [matAddr, Nat.cast_inj] at h
  have hidx := Nat.eq_of_mul_eq_mul_left he h
  obtain ⟨h1, h2⟩ := cbIndex_inj hld hp.1 hp.2 hq.1 hq.2 (by omega)
  exact Prod.ext h1 h2

/-- `cbIndex` in one order is `cbIndex` in the other with the coordinates swapped:
a matrix stored in the "wrong" order is its transpose stored in the right one. -/
theorem cbIndex_swap (ld r c : Nat) : cbIndex .c ld r c = cbIndex .fortran ld c r := by
  simp only [cbIndex]
  omega

/-! ## `dot` writes one cell -/

section Dot

variable {R : Type} [Semiring R]

/-- The reference `dot` writes its sum at `Z`. -/
theorem DotCall.run_Z (d : DotCall) (e : Nat) (mem : Mem R) :
    d.run e mem d.Z ((e * d.offZ : Nat) : Int) = ∑ i in Finset.range d.n,
      mem d.X (vecAddr e d.offX d.incX i) * mem d.Y (vecAddr e d.offY d.incY i) :=
  writeCells_place (fun _ _ _ _ _ => Subsingleton.elim _ _) (List.mem_singleton_self ())

/-- The reference `dot` writes nowhere but `Z`. -/
theorem DotCall.run_of_ne (d : DotCall) (e : Nat) (mem : Mem R) {buf : Nat} {a : Int}
    (h : (buf, a) ≠ (d.Z, ((e * d.offZ : Nat) : Int))) : d.run e mem buf a = mem buf a :=
  writeCells_of_not_placed fun _ _ hp => h hp.symm

end Dot

end GpuArrayBlas
