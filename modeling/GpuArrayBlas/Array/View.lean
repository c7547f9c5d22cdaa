import Mathlib.Data.List.Forall2
import Mathlib.Tactic.Ring
import Mathlib.Tactic.Linarith

/-!
# GpuArray headers as the BLAS layer reads them

`gpuarray_array_blas.c` never allocates or indexes an array itself.  It reads
the fields of a `GpuArray` header (typecode, rank, dimensions, signed byte
strides, byte offset and three flag bits) and hands element-unit offsets and
strides to a backend kernel.  This module fixes that header and the arithmetic
the file does on it:

* `GpuArray` carries the header's invariant that `dimensions` and `strides`
  have `nd` entries and that every stride is an `ssize_t`;
* `GpuArray.elem` is the byte address of a logical element, the meaning every
  correctness statement is phrased in;
* `isCContiguous` / `isFContiguous` are the stride walks behind the flags
  `GA_C_CONTIGUOUS` / `GA_F_CONTIGUOUS`, and `packedStrides` the strides of a
  freshly allocated copy;
* `sizeT`, `ssize` and `divSU` are C's conversions between `ssize_t` and
  `size_t`, which the file applies each time it divides a stride by `elsize`.

The array container itself (allocation, flag bookkeeping, transfers) is a
collaborator of the BLAS layer and is not modelled beyond these fields.
-/

set_option autoImplicit false

namespace GpuArrayBlas

/-- Element typecodes.  The BLAS entry points accept `half`, `float` and
`double`; `other code size` is any other entry of the type table, with its
element size. -/
inductive Typecode where
  | half
  | float
  | double
  | other (code size : Nat)
  deriving DecidableEq, Repr

namespace Typecode

/-- `gpuarray_get_elsize`. -/
def elsize : Typecode → Nat
  | half => 2
  | float => 4
  | double => 8
  | other _ size => size

/-- The typecode test each entry point starts with:
`typecode == GA_HALF || typecode == GA_FLOAT || typecode == GA_DOUBLE`. -/
def isBlas : Typecode → Bool
  | half | float | double => true
  | other _ _ => false

theorem elsize_pos {t : Typecode} (h : t.isBlas = true) : 0 < t.elsize := by
  cases t <;> simp_all [isBlas, elsize]

end Typecode

/-- The bits of `GpuArray.flags` that the BLAS layer tests. -/
structure Flags where
  /-- `GA_C_CONTIGUOUS` -/
  cContiguous : Bool
  /-- `GA_F_CONTIGUOUS` -/
  fContiguous : Bool
  /-- `GA_ALIGNED` -/
  aligned : Bool
  deriving DecidableEq, Repr

/-- A `GpuArray` header.  `data` is the device buffer handle (borrowed, never
owned by the BLAS layer), `offset` the byte offset of element zero in it and
`strides` the signed byte strides, one per axis. -/
structure GpuArray where
  data : Nat
  offset : Nat
  nd : Nat
  dimensions : List Nat
  strides : List Int
  flags : Flags
  typecode : Typecode
  dimensions_length : dimensions.length = nd
  strides_length : strides.length = nd
  strides_ssize : ∀ s ∈ strides, -2 ^ 63 ≤ s ∧ s < 2 ^ 63
  deriving DecidableEq, Repr

/-- Memory orders of `GpuArray_copy`: `GA_ANY_ORDER`, `GA_C_ORDER`, `GA_F_ORDER`. -/
inductive Order where
  | any
  | c
  | f
  deriving DecidableEq, Repr

/-! ## C's integer conversions -/

/-- Conversion of an integer to `size_t`: reduction modulo `2^64`. -/
def sizeT (x : Int) : Nat := (x % 2 ^ 64).toNat

/-- Conversion of a `size_t` value to `ssize_t` (two's complement). -/
def ssize (u : Nat) : Int := if u < 2 ^ 63 then u else (u : Int) - 2 ^ 64

/-- `s / elsize` for an `ssize_t` stride and a `size_t` element size: the usual
arithmetic conversions turn `s` into a `size_t` first, so the division is
unsigned. -/
def divSU (s : Int) (e : Nat) : Nat := sizeT s / e

namespace GpuArray

/-- `a->dimensions[d]`. -/
def dim (a : GpuArray) (d : Nat) : Nat := a.dimensions.getD d 0

/-- `a->strides[d]`. -/
def stride (a : GpuArray) (d : Nat) : Int := a.strides.getD d 0

/-- `GpuArray_ITEMSIZE(a)`. -/
def itemsize (a : GpuArray) : Nat := a.typecode.elsize

/-- `gpuarray_get_elsize(a->typecode)`, as the entry points write it. -/
theorem typecode_elsize (a : GpuArray) : a.typecode.elsize = a.itemsize := rfl

/-! ## Logical elements -/

/-- Byte address in `a.data` of the element at logical index `idx`:
`offset + Σ idx[d] * strides[d]`. -/
def elem (a : GpuArray) (idx : List Nat) : Int :=
  a.offset + (List.zipWith (fun (i : Nat) (s : Int) => (i : Int) * s) idx a.strides).sum

/-- `idx` is a logical index of `a`: one coordinate per axis, each below the
axis' extent. -/
def InRange (a : GpuArray) (idx : List Nat) : Prop :=
  List.Forall₂ (· < ·) idx a.dimensions

/-! ## Contiguity and alignment -/

/-- The stride walk of `GpuArray_is_c_contiguous` and `GpuArray_is_f_contiguous`,
fastest axis first: every axis of extent other than 1 has as stride the byte
size `size` of the axes already walked. -/
def packedFrom : Nat → List Nat → List Int → Bool
  | _, [], [] => true
  | size, d :: ds, s :: ss => (s == (size : Int) || d == 1) && packedFrom (size * d) ds ss
  | _, _, _ => false

/-- Modelled from the spec: the header's `GA_C_CONTIGUOUS` test is not in the
sources; the flag stands for "packed row-major, ignoring axes of extent 1",
walked from the last axis. -/
def isCContiguous (a : GpuArray) : Bool :=
  packedFrom a.itemsize a.dimensions.reverse a.strides.reverse

/-- Modelled from the spec: the header's `GA_F_CONTIGUOUS` test is not in the
sources; the flag stands for "packed column-major, ignoring axes of extent 1",
walked from the first axis. -/
def isFContiguous (a : GpuArray) : Bool :=
  packedFrom a.itemsize a.dimensions a.strides

/-- Modelled from the spec: `GA_ALIGNED` stands for an offset and strides that
are multiples of the element size. -/
def IsAligned (a : GpuArray) : Prop :=
  a.itemsize ∣ a.offset ∧ ∀ s ∈ a.strides, (a.itemsize : Int) ∣ s

instance (a : GpuArray) : Decidable a.IsAligned :=
  inferInstanceAs (Decidable (_ ∧ _))

/-- Modelled from the spec: the macro `GpuArray_ISONESEGMENT` is not in the
sources; it is the test that the array is one packed segment, in row- or
column-major order, read off the two contiguity flags. -/
def isOneSegment (a : GpuArray) : Bool := a.flags.cContiguous || a.flags.fContiguous

/-- The flags are true of the strides: what each flag promises holds.  The
converse (a flag is set whenever it could be) is never needed, since a flag
that is missing only makes the layer copy or refuse. -/
structure FlagsSound (a : GpuArray) : Prop where
  c : a.flags.cContiguous = true → a.isCContiguous = true
  f : a.flags.fContiguous = true → a.isFContiguous = true
  aligned : a.flags.aligned = true → a.IsAligned

instance (a : GpuArray) : Decidable a.FlagsSound :=
  decidable_of_iff ((a.flags.cContiguous = true → a.isCContiguous = true) ∧
      (a.flags.fContiguous = true → a.isFContiguous = true) ∧ (a.flags.aligned = true → a.IsAligned))
    ⟨fun ⟨c, f, al⟩ => ⟨c, f, al⟩, fun ⟨c, f, al⟩ => ⟨c, f, al⟩⟩

end GpuArray

/-! ## Fresh copies -/

/-- Strides of a packed array walked fastest axis first, starting from the
element size. -/
def packedStrides : Nat → List Nat → List Int
  | _, [] => []
  | size, d :: ds => (size : Int) :: packedStrides (size * d) ds

/-- The strides `GpuArray_copy` gives its result in `order`: column-major for
`f`, row-major for `c`, either one for `any`. -/
def PackedIn (order : Order) (v : GpuArray) : Prop :=
  match order with
  | .f => v.strides = packedStrides v.itemsize v.dimensions
  | .c => v.strides = (packedStrides v.itemsize v.dimensions.reverse).reverse
  | .any => v.strides = packedStrides v.itemsize v.dimensions ∨
      v.strides = (packedStrides v.itemsize v.dimensions.reverse).reverse

instance : (order : Order) → (v : GpuArray) → Decidable (PackedIn order v)
  | .f, v => inferInstanceAs (Decidable (v.strides = _))
  | .c, v => inferInstanceAs (Decidable (v.strides = _))
  | .any, v => inferInstanceAs (Decidable (v.strides = _ ∨ v.strides = _))

/-- What the correctness theorems take from the collaborator `GpuArray_copy(&v, src, order)`
when it returns `GA_NO_ERROR`: a new array of the source's type and shape,
packed in `order` at an aligned offset, with flags computed from its strides. -/
structure PackedCopy (src : GpuArray) (order : Order) (v : GpuArray) : Prop where
  typecode : v.typecode = src.typecode
  nd : v.nd = src.nd
  dimensions : v.dimensions = src.dimensions
  packed : PackedIn order v
  offset : v.itemsize ∣ v.offset
  cContiguous : v.flags.cContiguous = v.isCContiguous
  fContiguous : v.flags.fContiguous = v.isFContiguous

instance (src : GpuArray) (order : Order) (v : GpuArray) : Decidable (PackedCopy src order v) :=
  decidable_of_iff (v.typecode = src.typecode ∧ v.nd = src.nd ∧ v.dimensions = src.dimensions ∧
      PackedIn order v ∧ v.itemsize ∣ v.offset ∧ v.flags.cContiguous = v.isCContiguous ∧
      v.flags.fContiguous = v.isFContiguous)
    ⟨fun ⟨a, b, c, d, e, f, g⟩ => ⟨a, b, c, d, e, f, g⟩, fun ⟨a, b, c, d, e, f, g⟩ => ⟨a, b, c, d, e, f, g⟩⟩

end GpuArrayBlas
