import PulpGame.Disk.Tree
import PulpGame.Main
import PulpGame.Proofs.Lua.Chunk
import PulpGame.Proofs.Lua.Machine
import PulpGame.Proofs.Variable.Code
import PulpGame.Proofs.Lua.Running
import PulpGame.Proofs.Variable.Memory
import PulpGame.Proofs.Variable.Access
import PulpGame.Proofs.Variable.Trace
import PulpGame.Proofs.Block.Meaning
import PulpGame.Proofs.Block.Expression
import PulpGame.Proofs.Block.Body
import PulpGame.Proofs.Block.Handler
import PulpGame.Proofs.Block.Mention
import PulpGame.Proofs.Script.Compilation
import PulpGame.Proofs.Block.Occurrence
import PulpGame.Proofs.Build
import PulpGame.Proofs.Ledger
import PulpGame.Proofs.Script.Mention
import PulpGame.Proofs.Text.Lines
import PulpGame.Proofs.Variable.Coverage
import PulpGame.Proofs.Script.Code
import PulpGame.Proofs.Script.Binding
import PulpGame.Proofs.Mimic.Plan
import PulpGame.Proofs.Mimic.Execution
import PulpGame.Proofs.Mimic.Section
import PulpGame.Proofs.Mimic.Closure
import PulpGame.Proofs.Mimic.Settling
import PulpGame.Proofs.Json.Record
import PulpGame.Proofs.Document.Finite
import PulpGame.Proofs.Program.Vocabulary
import PulpGame.Proofs.Block.Wording
import PulpGame.Proofs.Entity.Spelling
import PulpGame.Proofs.Program.Sections
import PulpGame.Proofs.Program.Tokens
import PulpGame.Proofs.Block.Acceptance
import PulpGame.Proofs.Document.Validity
import PulpGame.Proofs.Lua.Composition
import PulpGame.Proofs.Entity.Statements
import PulpGame.Proofs.Entity.Reading
import PulpGame.Proofs.Lua.Locals
import PulpGame.Proofs.Program.Statements
import PulpGame.Proofs.Program.Locals
import PulpGame.Proofs.Document.Keys
import PulpGame.Proofs.Script.Order
import PulpGame.Proofs.Document.Order
import PulpGame.Proofs.Sheet.Places
import PulpGame.Proofs.Script.Orchestration
import PulpGame.Proofs.Disk.Tree
import PulpGame.Proofs.Sheet.Png
import PulpGame.Proofs.Run.Outcome
import PulpGame.Proofs.Run.Delivery
import PulpGame.Proofs.Block.Nesting
import PulpGame.Proofs.Block.Expansion
import PulpGame.Proofs.Variable.Ranking
import PulpGame.Proofs.Mimic.Retention
import PulpGame.Proofs.Sheet.Packing
import PulpGame.Proofs.Sheet.Painting
import PulpGame.Proofs.Sheet.Rendering
import PulpGame.Proofs.Document.Failure
import PulpGame.Proofs.Sheet.Numbering
import PulpGame.Proofs.Lua.Effects
import PulpGame.Proofs.Program.Rounding
import PulpGame.Proofs.Lua.Embedding
import PulpGame.Proofs.Lua.Level
import PulpGame.Proofs.Sheet.BitPacking
import PulpGame.Proofs.Document.Elements
import PulpGame.Proofs.Script.TileName
