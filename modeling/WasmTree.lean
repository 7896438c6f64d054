import WasmTree.Expr.Outline
import WasmTree.Expr.Vars
import WasmTree.Main
import WasmTree.Proofs.Expr.Rewriting
import WasmTree.Proofs.Expr.Teardown
import WasmTree.Proofs.Folding.Constants
import WasmTree.Proofs.Folding.Written
import WasmTree.Proofs.Module.Lenses
import WasmTree.Proofs.Reading.Anonymous
import WasmTree.Proofs.Reading.Exceptions
import WasmTree.Proofs.Reading.Lines
import WasmTree.Proofs.Reading.Locals
import WasmTree.Proofs.Reading.Nodes
import WasmTree.Proofs.Reading.Shadowing
import WasmTree.Proofs.Reading.Slots
import WasmTree.Proofs.Script.Current
import WasmTree.Proofs.Script.Decoding
import WasmTree.Proofs.Script.Lookup
import WasmTree.Proofs.Script.Verdicts
import WasmTree.Proofs.SlotNames
