import MissionScript.Arguments
import MissionScript.Builtin
import MissionScript.Bytes
import MissionScript.Catalogue
import MissionScript.CodeMap
import MissionScript.Conditions
import MissionScript.Console.Files
import MissionScript.Console.Log
import MissionScript.Console.Options
import MissionScript.Console.Tool
import MissionScript.DataType
import MissionScript.Definition
import MissionScript.Digest
import MissionScript.Error
import MissionScript.Inspect.HexDump
import MissionScript.Inspect.Listing
import MissionScript.Instruction
import MissionScript.Layout
import MissionScript.Machine
import MissionScript.Machine.Behaviour
import MissionScript.Machine.Frame
import MissionScript.Machine.Program
import MissionScript.Main
import MissionScript.Memory
import MissionScript.Opcode
import MissionScript.Registry
import MissionScript.Schedule
import MissionScript.Single
import MissionScript.Symbols
import MissionScript.Table
import MissionScript.Text.CaseTable
import MissionScript.Text.Digits
import MissionScript.Text.Hidden
import MissionScript.Text.Line
import MissionScript.Text.Lower
import MissionScript.Text.Quoted
import MissionScript.Text.Utf8
import MissionScript.Thread
import MissionScript.Value
import MissionScript.Proofs.FailedTick
import MissionScript.Proofs.Contents
import MissionScript.Proofs.Registries
import MissionScript.Proofs.Refinements
import MissionScript.Proofs.Grammar
import MissionScript.Proofs.CallStacks
import MissionScript.Proofs.BuiltinEffects
import MissionScript.Proofs.LinearScan
import MissionScript.Proofs.InstructionLookup
import MissionScript.Proofs.Layouts
import MissionScript.Proofs.MissionRanges
import MissionScript.Proofs.Regions
import MissionScript.Proofs.ControlFlow
import MissionScript.Proofs.Changes
import MissionScript.Proofs.Soundness
import MissionScript.Proofs.EndedThreads
import MissionScript.Proofs.JumpGraph
import MissionScript.Proofs.TextRoundTrip
import MissionScript.Proofs.LayoutRoundTrip
import MissionScript.Proofs.ChangeLog
import MissionScript.Proofs.RunnableThreads
import MissionScript.Proofs.Turns
import MissionScript.Proofs.Overtaking
import MissionScript.Proofs.TickFrame
import MissionScript.Proofs.ValidatedTargets
import MissionScript.Proofs.ConditionBlocks
import MissionScript.Proofs.BoundedAnswers
import MissionScript.Proofs.CallMatching
import MissionScript.Proofs.WakePolicy
import MissionScript.Proofs.Booting
import MissionScript.Proofs.MissionLineage
import MissionScript.Proofs.Handover
import MissionScript.Proofs.JumpSources
import MissionScript.Proofs.LocalVariables
import MissionScript.Proofs.GlobalVariables
import MissionScript.Proofs.CoveringCells
import MissionScript.Proofs.ArgumentSlots
import MissionScript.Proofs.TimerRange
import MissionScript.Proofs.Truncation
import MissionScript.Proofs.Literals
import MissionScript.Proofs.StartedThreads
import MissionScript.Proofs.RegistryConstruction
import MissionScript.Proofs.CatalogueRoundTrip
import MissionScript.Proofs.StableListings
import MissionScript.Proofs.HexDumps
import MissionScript.Proofs.SymbolHeaders
import MissionScript.Proofs.OpcodeTexts
