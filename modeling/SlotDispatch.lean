import SlotDispatch.Configuration.Settings
import SlotDispatch.Machine.Perform
import SlotDispatch.Proofs.Linearization
import SlotDispatch.Proofs.Type.Update
import SlotDispatch.Proofs.Type.WellFormed
import SlotDispatch.Proofs.Machine.Action
import SlotDispatch.Proofs.Machine.Alike
import SlotDispatch.Proofs.Machine.Builtins
import SlotDispatch.Proofs.Machine.Invocation
import SlotDispatch.Proofs.Machine.Operator
import SlotDispatch.Proofs.Machine.Perform
import SlotDispatch.Proofs.Machine.Reachable
import SlotDispatch.Proofs.Type.Hierarchy
import SlotDispatch.Proofs.Machine.Hierarchy
import SlotDispatch.Proofs.Machine.SlotIdentity
import SlotDispatch.Proofs.Dispatch.Plan
import SlotDispatch.Proofs.Machine.Dispatch
import SlotDispatch.Proofs.Machine.Reflected
import SlotDispatch.Proofs.Machine.TypeChange
import SlotDispatch.Proofs.Machine.Mismatch
import SlotDispatch.Proofs.Machine.Isolation
import SlotDispatch.Proofs.Machine.Assignment
import SlotDispatch.Proofs.Machine.Blocking
import SlotDispatch.Proofs.Machine.AttributeHook
import SlotDispatch.Proofs.Machine.Comparison
import SlotDispatch.Proofs.Machine.DispatchCalls
import SlotDispatch.Proofs.Machine.Inequality
import SlotDispatch.Proofs.Machine.Shape
import SlotDispatch.Proofs.Machine.ShortCut
import SlotDispatch.Proofs.Dispatch.CallSite
import SlotDispatch.Proofs.Text.Encoding
import SlotDispatch.Proofs.Datum.Hash
import SlotDispatch.Proofs.Machine.Sequence
import SlotDispatch.Proofs.Machine.Arithmetic
import SlotDispatch.Proofs.Datum.Display
import SlotDispatch.Proofs.Machine.AttributeMap
import SlotDispatch.Proofs.Machine.Entry
