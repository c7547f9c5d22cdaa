import GpuArrayBlas.Array.View
import GpuArrayBlas.Array.Layout
import GpuArrayBlas.Blas.Kernel
import GpuArrayBlas.Blas.Call
import GpuArrayBlas.Blas.Arbitrate
import GpuArrayBlas.Blas.Resolve
import GpuArrayBlas.Blas.Spec
import GpuArrayBlas.Blas.Dot
import GpuArrayBlas.Blas.Gemv
import GpuArrayBlas.Blas.Gemm
import GpuArrayBlas.Blas.Ger
import GpuArrayBlas.Blas.Last2d
import GpuArrayBlas.Blas.Batch
import GpuArrayBlas.Blas.EntryPoints
