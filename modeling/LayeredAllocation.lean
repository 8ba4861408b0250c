import LayeredAllocation.Session
import LayeredAllocation.Layer
import LayeredAllocation.Trial
import LayeredAllocation.Proofs.Calls
import LayeredAllocation.Proofs.Contract
import LayeredAllocation.Proofs.Contract.Bottom
import LayeredAllocation.Proofs.Contract.Arena
import LayeredAllocation.Proofs.Contract.Pool
import LayeredAllocation.Proofs.Contract.Slab
import LayeredAllocation.Proofs.Contract.Hybrid
import LayeredAllocation.Proofs.Contract.Passing
import LayeredAllocation.Proofs.Contract.Stack
import LayeredAllocation.Proofs.Ledger
import LayeredAllocation.Proofs.Ledger.Pool
import LayeredAllocation.Proofs.Ledger.Carving
import LayeredAllocation.Proofs.Ledger.Hybrid
import LayeredAllocation.Proofs.Ledger.Composite
import LayeredAllocation.Proofs.Returns
import LayeredAllocation.Proofs.Atomicity
import LayeredAllocation.Proofs.Atomicity.Stack
import LayeredAllocation.Proofs.Steps.Arena
import LayeredAllocation.Proofs.Steps.Hybrid
import LayeredAllocation.Proofs.Steps.Passing
import LayeredAllocation.Proofs.Steps.Slab
import LayeredAllocation.Proofs.Census
import LayeredAllocation.Proofs.Census.Run
import LayeredAllocation.Proofs.Census.Frees
import LayeredAllocation.Proofs.Follows
import LayeredAllocation.Proofs.Lending
import LayeredAllocation.Proofs.Lending.Pool
import LayeredAllocation.Proofs.Lending.Foreign
import LayeredAllocation.Proofs.Contents
import LayeredAllocation.Proofs.Contents.Layers
import LayeredAllocation.Proofs.Contents.Stack
import LayeredAllocation.Proofs.Leaks
import LayeredAllocation.Proofs.Makes
import LayeredAllocation.Proofs.Shapes
import LayeredAllocation.Proofs.Buffers
import LayeredAllocation.Proofs.Buffers.Life
import LayeredAllocation.Proofs.Descent
import LayeredAllocation.Proofs.Descent.Stack
import LayeredAllocation.Proofs.Cleanup
import LayeredAllocation.Proofs.Returns.Slab
import LayeredAllocation.Proofs.Returns.Hybrid
import LayeredAllocation.Proofs.Called
import LayeredAllocation.Proofs.Registry
import LayeredAllocation.Proofs.Registry.Panics
import LayeredAllocation.Proofs.Housing
import LayeredAllocation.Proofs.Registry.Service
import LayeredAllocation.Proofs.Tenancy
import LayeredAllocation.Proofs.Lanes
import LayeredAllocation.Proofs.Tenure
import LayeredAllocation.Proofs.Pins
import LayeredAllocation.Proofs.Elements
import LayeredAllocation.Proofs.Buffers.Elements
import LayeredAllocation.Proofs.Buffers.Disposal
import LayeredAllocation.Proofs.Buffers.Views
import LayeredAllocation.Proofs.Census.Capacity
import LayeredAllocation.Proofs.Lending.Reuse
import LayeredAllocation.Proofs.Census.Growth
import LayeredAllocation.Proofs.Chunks
import LayeredAllocation.Proofs.Budget
import LayeredAllocation.Proofs.Mappings
import LayeredAllocation.Proofs.Leaks.Lines
import LayeredAllocation.Proofs.Leaks.Teardown
import LayeredAllocation.Proofs.Pins.Shortage
